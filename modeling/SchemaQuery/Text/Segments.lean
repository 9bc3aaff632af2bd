/-!
# Segments

Paths, querystrings and addresses are made of segments with a separator between
them.  There is always at least one segment, and a segment may be empty.
-/

namespace SchemaQuery
namespace Text

def segments (separator : Char) : List Char → List (List Char)
  | [] => [[]]
  | character :: rest =>
      if character == separator then [] :: segments separator rest
      else
        match segments separator rest with
        | [] => [[character]]
        | segment :: others => (character :: segment) :: others

def splitFirst (separator : Char) (characters : List Char) : List Char × Option (List Char) :=
  match characters.dropWhile (· != separator) with
  | [] => (characters, none)
  | _ :: rest => (characters.takeWhile (· != separator), some rest)

theorem segments_ne_nil (separator : Char) (characters : List Char) :
    segments separator characters ≠ [] := by
  cases characters with
  | nil => simp [segments]
  | cons character rest =>
      unfold segments
      split
      · simp
      · split <;> simp

/-- Writing the separator between the segments gives the characters back. -/
theorem intercalate_segments (separator : Char) (characters : List Char) :
    [separator].intercalate (segments separator characters) = characters := by
  induction characters with
  | nil => rfl
  | cons character rest hypothesis =>
      unfold segments
      split
      · rename_i same
        obtain rfl : character = separator := by simpa using same
        cases found : segments character rest with
        | nil => exact absurd found (segments_ne_nil character rest)
        | cons segment others =>
            rw [found] at hypothesis
            simpa [List.intercalate, List.intersperse] using hypothesis
      · cases found : segments separator rest with
        | nil => exact absurd found (segments_ne_nil separator rest)
        | cons segment others =>
            rw [found] at hypothesis
            cases others with
            | nil => simpa [List.intercalate, List.intersperse] using hypothesis
            | cons second remaining =>
                simpa [List.intercalate, List.intersperse] using hypothesis

variable {separator : Char}

theorem segments_append (separator : Char) (before after : List Char) :
    segments separator (before ++ separator :: after) =
      segments separator before ++ segments separator after := by
  induction before with
  | nil => simp [segments]
  | cons character rest hypothesis =>
      simp only [List.cons_append, segments, hypothesis]
      split
      · rfl
      · cases found : segments separator rest with
        | nil => exact absurd found (segments_ne_nil separator rest)
        | cons segment others => rfl

theorem not_mem_of_mem_segments {characters segment : List Char}
    (isSegment : segment ∈ segments separator characters) : separator ∉ segment := by
  induction characters generalizing segment with
  | nil =>
      rw [segments, List.mem_singleton] at isSegment
      simp [isSegment]
  | cons character rest hypothesis =>
      unfold segments at isSegment
      split at isSegment
      · rcases List.mem_cons.1 isSegment with rfl | later
        · exact List.not_mem_nil
        · exact hypothesis later
      · rename_i different
        cases found : segments separator rest with
        | nil => exact absurd found (segments_ne_nil separator rest)
        | cons first others =>
            rw [found] at isSegment hypothesis
            rcases List.mem_cons.1 isSegment with rfl | later
            · rw [List.mem_cons, not_or]
              exact ⟨fun same => different (by simp [same]), hypothesis List.mem_cons_self⟩
            · exact hypothesis (List.mem_cons_of_mem _ later)

theorem segments_eq_singleton_iff {characters : List Char} :
    segments separator characters = [characters] ↔ separator ∉ characters := by
  constructor
  · intro whole
    exact not_mem_of_mem_segments (whole ▸ List.mem_singleton_self characters)
  · intro absent
    induction characters with
    | nil => rfl
    | cons character rest hypothesis =>
        rw [List.mem_cons, not_or] at absent
        unfold segments
        rw [if_neg (by simpa using Ne.symm absent.1), hypothesis absent.2]

end Text
end SchemaQuery
