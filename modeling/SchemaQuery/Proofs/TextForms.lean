import Mathlib.Data.List.Basic
import SchemaQuery.Proofs.DictionaryEntries
import SchemaQuery.Sort

/-!
# Trimmed text and small letters

Paths are trimmed where they are read, and again where filters and sorts are made of them; the
directions of typed sorts are normalised before they are put among the raw values that are
normalised once more.  None of this does harm.  This file proves that trimming, writing in small
letters, and finding the word for a direction leave alone what has been through them before.
-/

namespace SchemaQuery
namespace Text

structure HasPlainEnds (characters : List Char) : Prop where
  first : ∀ character ∈ characters.head?, isBlank character = false
  last : ∀ character ∈ characters.getLast?, isBlank character = false

theorem dropWhile_isBlank_of_first {characters : List Char}
    (first : ∀ character ∈ characters.head?, isBlank character = false) :
    characters.dropWhile isBlank = characters := by
  cases characters with
  | nil => rfl
  | cons character rest => rw [List.dropWhile_cons, first character rfl, if_neg Bool.false_ne_true]

theorem first_of_dropWhile_isBlank (characters : List Char) :
    ∀ character ∈ (characters.dropWhile isBlank).head?, isBlank character = false := by
  intro character isFirst
  have stops := List.head?_dropWhile_not isBlank characters
  rw [Option.mem_def.1 isFirst] at stops
  simpa using stops

theorem trimCharacters_of_hasPlainEnds {characters : List Char} (plain : HasPlainEnds characters) :
    trimCharacters characters = characters := by
  unfold trimCharacters
  rw [dropWhile_isBlank_of_first plain.first, dropWhile_isBlank_of_first, List.reverse_reverse]
  rw [List.head?_reverse]
  exact plain.last

theorem hasPlainEnds_trimCharacters (characters : List Char) :
    HasPlainEnds (trimCharacters characters) where
  last := by
    unfold trimCharacters
    rw [List.getLast?_reverse]
    exact first_of_dropWhile_isBlank _
  first := by
    -- What has been dropped at the end leaves a first part of what starts with no blank.
    have isPrefix : trimCharacters characters <+: characters.dropWhile isBlank := by
      rw [← List.reverse_suffix, trimCharacters, List.reverse_reverse]
      exact List.dropWhile_suffix isBlank
    obtain ⟨dropped, whole⟩ := isPrefix
    intro character isFirst
    apply first_of_dropWhile_isBlank characters
    rw [← whole, List.head?_append, Option.mem_def.1 isFirst]
    rfl

@[simp]
theorem trim_trim (text : String) : trim (trim text) = trim text := by
  rw [trim, toList_trim, trimCharacters_of_hasPlainEnds (hasPlainEnds_trimCharacters _), trim]

namespace LetterCase

def Shift.holds (run : Shift) (code : Nat) : Bool :=
  run.first ≤ code && code ≤ run.last && (code - run.first) % run.stride == 0

/-- The number with so many bits, at some distance from each other. -/
def spaced (stride : Nat) : Nat → Nat
  | 0 => 0
  | count + 1 => spaced stride count <<< stride ||| 1

theorem testBit_spaced (stride : Nat) {count step : Nat} (within : step < count) :
    (spaced stride count).testBit (stride * step) = true := by
  induction count generalizing step with
  | zero => omega
  | succ count hypothesis =>
      rw [spaced, Nat.testBit_or, Nat.testBit_shiftLeft]
      cases step with
      | zero => simp
      | succ step => simp [Nat.mul_succ, hypothesis (Nat.lt_of_succ_lt_succ within)]

/-- The code points of a run, or of one like it that starts elsewhere. -/
def Shift.bits (run : Shift) (first : Nat) : Nat :=
  spaced run.stride ((run.last - run.first) / run.stride + 1) <<< first

theorem Shift.testBit_bits {run : Shift} {code : Nat} (holds : run.holds code = true)
    (first : Nat) : (run.bits first).testBit (first + (code - run.first)) = true := by
  simp only [Shift.holds, Bool.and_eq_true, decide_eq_true_eq, beq_iff_eq] at holds
  obtain ⟨⟨_, behind⟩, apart⟩ := holds
  have steps : code - run.first = run.stride * ((code - run.first) / run.stride) :=
    (Nat.mul_div_cancel' (Nat.dvd_of_mod_eq_zero apart)).symm
  have within : (code - run.first) / run.stride < (run.last - run.first) / run.stride + 1 :=
    Nat.lt_succ_of_le (Nat.div_le_div_right (Nat.sub_le_sub_right behind _))
  rw [Shift.bits, Nat.testBit_shiftLeft, Nat.add_sub_cancel_left, steps, testBit_spaced _ within]
  simp

def union (sets : List Nat) : Nat :=
  sets.foldr (fun set others => set ||| others) 0

theorem testBit_union {sets : List Nat} {set code : Nat} (isSet : set ∈ sets)
    (holds : set.testBit code = true) : (union sets).testBit code = true := by
  induction sets with
  | nil => simp at isSet
  | cons first rest hypothesis =>
      rw [union, List.foldr_cons, Nat.testBit_or]
      rcases List.mem_cons.1 isSet with rfl | later
      · rw [holds, Bool.true_or]
      · have there := hypothesis later
        rw [union] at there
        rw [there, Bool.or_true]

def unsettled : List Shift :=
  ⟨'A'.toNat, 'Z'.toNat, 1, 0⟩ :: ⟨'Σ'.toNat, 'Σ'.toNat, 1, 0⟩ :: ⟨'İ'.toNat, 'İ'.toNat, 1, 0⟩ ::
    lowerShifts

def blanks : List Shift :=
  blankCodes.map fun code => ⟨code, code, 1, 0⟩

def avoided : Nat :=
  union ((unsettled ++ blanks).map fun run => run.bits run.first)

/-- The code points that small letters are made of without being partners. -/
def specials : List Nat :=
  ['σ'.toNat, 'ς'.toNat, 'i'.toNat, '\u0307'.toNat, 0]

def written : Nat :=
  union ((specials.map fun code => 1 <<< code) ++
    lowerShifts.map fun run => run.bits (run.first + run.distance).toNat)

theorem lowerShifts_natural : ∀ run ∈ lowerShifts, 0 ≤ run.first + run.distance := by
  decide +kernel

theorem written_and_avoided : written &&& avoided = 0 := by
  decide +kernel

theorem not_avoided_of_written {code : Nat} (isWritten : written.testBit code = true) :
    avoided.testBit code = false := by
  have apart := congrArg (fun set => set.testBit code) written_and_avoided
  simpa [Nat.testBit_and, isWritten] using apart

theorem special_not_avoided {code : Nat} (isSpecial : code ∈ specials) :
    avoided.testBit code = false := by
  have set : (1 <<< code).testBit code = true := by
    simp [Nat.testBit_shiftLeft]
  exact not_avoided_of_written
    (testBit_union (List.mem_append_left _ (List.mem_map_of_mem isSpecial)) set)

theorem outside_of_not_avoided {code : Nat} (notAvoided : avoided.testBit code = false)
    {other : Shift} (isOther : other ∈ unsettled ++ blanks) : other.holds code = false := by
  rw [← Bool.not_eq_true]
  intro holds
  have set := Shift.testBit_bits holds other.first
  have here : other.first + (code - other.first) = code := by
    simp only [Shift.holds, Bool.and_eq_true, decide_eq_true_eq] at holds
    omega
  rw [here] at set
  rw [avoided, testBit_union (List.mem_map_of_mem isOther) set] at notAvoided
  cases notAvoided

theorem partner_not_avoided {code partner : Nat}
    (found : partner? lowerShifts code = some partner) :
    avoided.testBit (Char.ofNat partner).toNat = false := by
  unfold partner? at found
  obtain ⟨run, located, rfl⟩ := Option.map_eq_some_iff.1 found
  have isRun := List.mem_of_find?_eq_some located
  have held : run.holds code = true := by
    simpa [Shift.holds] using List.find?_some located
  by_cases isValid : Nat.isValidChar ((code : Int) + run.distance).toNat
  · have number : (Char.ofNat ((code : Int) + run.distance).toNat).toNat =
        (run.first + run.distance).toNat + (code - run.first) := by
      rw [Char.ofNat, dif_pos isValid]
      change ((code : Int) + run.distance).toNat = _
      have natural := lowerShifts_natural run isRun
      simp only [Shift.holds, Bool.and_eq_true, decide_eq_true_eq] at held
      omega
    rw [number]
    exact not_avoided_of_written (testBit_union
      (List.mem_append_right _ (List.mem_map_of_mem isRun)) (Shift.testBit_bits held _))
  · have zero : (Char.ofNat ((code : Int) + run.distance).toNat).toNat = 0 := by
      rw [Char.ofNat, dif_neg isValid]
      rfl
    rw [zero]
    exact special_not_avoided (by simp [specials])

theorem toNat_toLower (character : Char) :
    character.toLower.toNat =
      if 65 ≤ character.toNat ∧ character.toNat ≤ 90 then character.toNat + 32
      else character.toNat := by
  unfold Char.toLower
  split
  · rename_i capital
    have lower := UInt32.le_iff_toNat_le.1 capital.1
    have upper := UInt32.le_iff_toNat_le.1 capital.2
    change 65 ≤ character.toNat at lower
    change character.toNat ≤ 90 at upper
    rw [if_pos ⟨lower, upper⟩]
    change (character.val + 32).toNat = character.toNat + 32
    rw [UInt32.toNat_add]
    change (character.toNat + 32) % 2 ^ 32 = character.toNat + 32
    omega
  · rename_i other
    rw [if_neg]
    rintro ⟨lower, upper⟩
    exact other ⟨UInt32.le_iff_toNat_le.2 lower, UInt32.le_iff_toNat_le.2 upper⟩

theorem isBlank_toLower {character : Char} (notBlank : isBlank character = false) :
    isBlank character.toLower = false := by
  unfold isBlank at notBlank ⊢
  rw [toNat_toLower]
  split
  · rw [← Bool.not_eq_true, List.contains_iff_mem]
    intro blank
    simp only [blankCodes, List.mem_cons, List.not_mem_nil, or_false] at blank
    omega
  · exact notBlank

def IsSettled (character : Char) : Prop :=
  ∀ preceding following, lowerForm preceding following character = [character]

theorem isSettled_of_ascii {character : Char} (isAscii : character.toNat < 128)
    (notCapital : character.toNat < 65 ∨ 90 < character.toNat) : IsSettled character := by
  have kept : character.toLower = character := by
    apply Char.toNat_inj.1
    rw [toNat_toLower, if_neg (by omega)]
  intro preceding following
  rw [lowerForm, if_pos isAscii, kept]

theorem isSettled_of_forall {character : Char}
    (outside : ∀ other ∈ unsettled, other.holds character.toNat = false) :
    IsSettled character := by
  simp only [unsettled, List.forall_mem_cons] at outside
  obtain ⟨notCapital, notSigma, notDotted, noPartner⟩ := outside
  by_cases isAscii : character.toNat < 128
  · apply isSettled_of_ascii isAscii
    simp [Shift.holds] at notCapital
    omega
  · have notSigma' : ¬(character == 'Σ') = true := by
      intro same
      rw [eq_of_beq same] at notSigma
      simp [Shift.holds] at notSigma
    have notDotted' : ¬(character == 'İ') = true := by
      intro same
      rw [eq_of_beq same] at notDotted
      simp [Shift.holds] at notDotted
    have none : partner? lowerShifts character.toNat = none := by
      unfold partner?
      rw [Option.map_eq_none_iff, List.find?_eq_none]
      intro run isRun
      have notHeld := noPartner run isRun
      rw [Shift.holds] at notHeld
      rw [notHeld]
      exact Bool.false_ne_true
    intro preceding following
    rw [lowerForm, if_neg isAscii, if_neg notSigma', if_neg notDotted', none]

theorem isBlank_eq_false_of_forall {character : Char}
    (outside : ∀ other ∈ blanks, other.holds character.toNat = false) :
    isBlank character = false := by
  unfold isBlank
  rw [← Bool.not_eq_true, List.contains_iff_mem]
  intro isBlank
  have notHeld := outside _ (List.mem_map_of_mem isBlank)
  simp [Shift.holds] at notHeld

/-- What a character becomes in small letters stays, and is no more blank than that. -/
theorem of_mem_lowerForm {preceding following : List Char} {character made : Char}
    (isMade : made ∈ lowerForm preceding following character) :
    IsSettled made ∧ (isBlank character = false → isBlank made = false) := by
  have settled (notAvoided : avoided.testBit made.toNat = false) :
      IsSettled made ∧ (isBlank character = false → isBlank made = false) :=
    ⟨isSettled_of_forall fun _ isOther =>
        outside_of_not_avoided notAvoided (List.mem_append_left _ isOther),
      fun _ => isBlank_eq_false_of_forall fun _ isOther =>
        outside_of_not_avoided notAvoided (List.mem_append_right _ isOther)⟩
  by_cases isAscii : character.toNat < 128
  · rw [lowerForm, if_pos isAscii, List.mem_singleton] at isMade
    rw [isMade]
    refine ⟨isSettled_of_ascii ?_ ?_, isBlank_toLower⟩ <;> rw [toNat_toLower] <;> split <;> omega
  · by_cases isSigma : (character == 'Σ') = true
    · rw [lowerForm, if_neg isAscii, if_pos isSigma, List.mem_singleton] at isMade
      apply settled
      apply special_not_avoided
      rw [isMade]
      split <;> simp [specials]
    · by_cases isDotted : (character == 'İ') = true
      · rw [lowerForm, if_neg isAscii, if_neg isSigma, if_pos isDotted] at isMade
        apply settled
        apply special_not_avoided
        simp only [List.mem_cons, List.not_mem_nil, or_false] at isMade
        rcases isMade with rfl | rfl <;> simp [specials]
      · rw [lowerForm, if_neg isAscii, if_neg isSigma, if_neg isDotted] at isMade
        split at isMade
        · rename_i partner found
          rw [List.mem_singleton.1 isMade] at settled ⊢
          exact settled (partner_not_avoided found)
        · rename_i none
          rw [List.mem_singleton.1 isMade]
          refine ⟨?_, id⟩
          intro preceding following
          rw [lowerForm, if_neg isAscii, if_neg isSigma, if_neg isDotted, none]

theorem lowerForm_ne_nil (preceding following : List Char) (character : Char) :
    lowerForm preceding following character ≠ [] := by
  unfold lowerForm
  split
  · simp
  · split
    · simp
    · split
      · simp
      · split <;> simp

theorem lowerFrom_ne_nil {characters : List Char} (someCharacters : characters ≠ [])
    (preceding : List Char) : lowerFrom preceding characters ≠ [] := by
  cases characters with
  | nil => contradiction
  | cons character rest => simp [lowerFrom, lowerForm_ne_nil]

theorem isSettled_of_mem_lowerFrom {preceding characters : List Char} {made : Char}
    (isMade : made ∈ lowerFrom preceding characters) : IsSettled made := by
  induction characters generalizing preceding with
  | nil => simp [lowerFrom] at isMade
  | cons character rest hypothesis =>
      rw [lowerFrom, List.mem_append] at isMade
      rcases isMade with here | later
      · exact (of_mem_lowerForm here).1
      · exact hypothesis later

theorem lowerFrom_of_isSettled {characters : List Char}
    (settled : ∀ character ∈ characters, IsSettled character) (preceding : List Char) :
    lowerFrom preceding characters = characters := by
  induction characters generalizing preceding with
  | nil => rfl
  | cons character rest hypothesis =>
      obtain ⟨first, others⟩ := List.forall_mem_cons.1 settled
      rw [lowerFrom, first, hypothesis others]
      rfl

theorem first_of_lowerFrom {characters : List Char}
    (first : ∀ character ∈ characters.head?, isBlank character = false) (preceding : List Char) :
    ∀ made ∈ (lowerFrom preceding characters).head?, isBlank made = false := by
  cases characters with
  | nil => simp [lowerFrom]
  | cons character rest =>
      intro made isFirst
      rw [lowerFrom, List.head?_append_of_ne_nil _ (lowerForm_ne_nil _ _ _)] at isFirst
      exact (of_mem_lowerForm (List.mem_of_mem_head? isFirst)).2 (first character rfl)

theorem last_of_lowerFrom {characters : List Char}
    (last : ∀ character ∈ characters.getLast?, isBlank character = false) (preceding : List Char) :
    ∀ made ∈ (lowerFrom preceding characters).getLast?, isBlank made = false := by
  induction characters generalizing preceding with
  | nil => simp [lowerFrom]
  | cons character rest hypothesis =>
      intro made isLast
      rw [lowerFrom] at isLast
      cases rest with
      | nil =>
          rw [lowerFrom, List.append_nil] at isLast
          exact (of_mem_lowerForm (List.mem_of_mem_getLast? isLast)).2 (last character rfl)
      | cons second rest =>
          rw [List.getLast?_append_of_ne_nil _
            (lowerFrom_ne_nil (List.cons_ne_nil _ _) _)] at isLast
          exact hypothesis last _ made isLast

end LetterCase

@[simp]
theorem lower_lower (text : String) : lower (lower text) = lower text := by
  unfold lower
  rw [String.toList_ofList, LetterCase.lowerFrom_of_isSettled]
  exact fun _ => LetterCase.isSettled_of_mem_lowerFrom

@[simp]
theorem trim_lower_trim (text : String) : trim (lower (trim text)) = lower (trim text) := by
  have plain := hasPlainEnds_trimCharacters text.toList
  rw [trim, lower, String.toList_ofList, toList_trim, trimCharacters_of_hasPlainEnds]
  exact ⟨LetterCase.first_of_lowerFrom plain.first [], LetterCase.last_of_lowerFrom plain.last []⟩

end Text

namespace Direction

theorem word_text (text : String) :
    word (.text text) =
      (spellings.get? (Text.lower (Text.trim text))).getD (Text.lower (Text.trim text)) :=
  rfl

theorem spellings_settled :
    ∀ spelling ∈ spellings, word (.text spelling.2) = spelling.2 := by
  decide +kernel

/-- The word for a direction means the direction, known or not. -/
@[simp]
theorem word_word (text : String) : word (.text (word (.text text))) = word (.text text) := by
  rw [word_text text]
  cases known : spellings.get? (Text.lower (Text.trim text)) with
  | some meant =>
      rw [Option.getD_some]
      exact spellings_settled (_, meant) (Dictionary.mem_of_get? known)
  | none =>
      rw [Option.getD_none, word_text, Text.trim_lower_trim, Text.lower_lower, known,
        Option.getD_none]

end Direction
end SchemaQuery
