import SchemaQuery.Proofs.JsonNumber
import SchemaQuery.Proofs.ValueType

/-!
# Reading what has been written

A record of scalars that has been written as JSON is read back: its keys are the same, in
the same order, and each value is what JSON can hold of it.  Dates and points in time come
back as their text, and text whose halves of surrogate pairs stand next to each other comes
back with the character that they make up.  Everything that is written is ASCII.
-/

namespace SchemaQuery
namespace Codec
namespace Json

open Number (WrittenDecimal)

/-- Whether a written form is read as a value, whatever closes it. -/
structure Spells (written : List Char) (value : Value) : Prop where
  starts : ∃ first tail, written = first :: tail ∧ isSpace first = false
  ascii : ∀ character ∈ written, character.toNat < 128
  reads : ∀ budget {rest : List Char}, Closes rest →
    readValue (budget + 1) (written ++ rest) = .ok (value, rest)

inductive Image : Value → Value → Prop where
  | null : Image .null .null
  | bool (truth : Bool) : Image (.bool truth) (.bool truth)
  | int (number : Int) : Image (.int number) (.int number)
  | float (number again : Number.Binary64) : Image (.float number) (.float again)
  | text (content : String) : Image (.text content) (.text content)
  | joined (codes : List Nat) (content : String) : Image (.unpaired codes) (.text content)
  | unpaired (codes again : List Nat) : Image (.unpaired codes) (.unpaired again)
  | date (day : Calendar.Date) : Image (.date day) (.text (String.ofList day.iso))
  | timestamp (moment : Calendar.Timestamp) :
      Image (.timestamp moment) (.text (String.ofList moment.iso))

theorem Image.isNull_eq {value again : Value} (image : Image value again) :
    again.isNull = value.isNull := by
  cases image <;> rfl

/-- Code points in quotes are read as the text of their units. -/
theorem spells_writeCodes (codes : List Nat) :
    Spells (writeCodes codes) (valueOfCodes (joinSurrogates (codes.flatMap unitsOf))) where
  starts := ⟨'"', _, rfl, rfl⟩
  ascii := ascii_writeCodes codes
  reads budget rest _ := by
    have shape : writeCodes codes ++ rest =
        '"' :: (codes.flatMap writeCode ++ '"' :: rest) := by
      simp [writeCodes]
    rw [shape, readValue, readText_writeCodes]
    rfl

theorem spells_writeText (text : String) : Spells (writeText text) (.text text) := by
  have spells := spells_writeCodes (codesOf text)
  rw [joinSurrogates_unitsOf (isCharacter_codesOf text), valueOfCodes,
    holdsSurrogate_codesOf, if_neg Bool.false_ne_true, textOfCodes_codesOf] at spells
  exact spells

theorem spells_writeInteger {number : Int} {written : List Char}
    (made : writeInteger number = .ok written) : Spells written (.int number) where
  starts := by
    obtain ⟨rfl, _⟩ := writeInteger_eq_ok made
    have starts := number_starts (decide (number < 0)) (Number.areDigits_digitsOf _)
      (Number.startsWell_digitsOf number.natAbs) []
    rw [List.append_nil] at starts
    exact starts
  ascii := by
    obtain ⟨rfl, _⟩ := writeInteger_eq_ok made
    exact ascii_append (ascii_signText _) (ascii_of_areDigits (Number.areDigits_digitsOf _))
  reads budget _ closes := readValue_writeInteger made budget closes

theorem spells_writtenDecimal (written : WrittenDecimal) (negative : Bool) :
    Spells (signText negative ++ written.text) (.float (written.number negative)) where
  starts := by
    unfold WrittenDecimal.text
    rw [List.append_assoc written.whole, ← List.append_assoc]
    exact number_starts negative written.whole_digits written.whole_starts _
  ascii := by
    apply ascii_append (ascii_signText negative)
    apply ascii_append
    · exact ascii_append (ascii_of_areDigits written.whole_digits)
        (ascii_fractionText written.fraction_digits)
    · exact ascii_exponentText written.exponent_digits
  reads budget _ closes := readValue_writtenDecimal written negative budget closes

/-- None of the named values has a name that starts like that of another. -/
theorem find?_named {name : List Char} {value : Value} (member : (name, value) ∈ namedValues)
    (rest : List Char) :
    (namedValues.find? fun named => named.1.isPrefixOf (name ++ rest)) = some (name, value) := by
  simp only [namedValues, List.mem_cons, List.not_mem_nil, or_false, Prod.mk.injEq] at member
  rcases member with ⟨rfl, rfl⟩ | ⟨rfl, rfl⟩ | ⟨rfl, rfl⟩ | ⟨rfl, rfl⟩ | ⟨rfl, rfl⟩ |
    ⟨rfl, rfl⟩ <;> rfl

theorem spells_named {name : List Char} {value : Value}
    (member : (name, value) ∈ namedValues) : Spells name value := by
  have found := find?_named member
  simp only [namedValues, List.mem_cons, List.not_mem_nil, or_false, Prod.mk.injEq] at member
  have read (budget : Nat) (rest : List Char) (plain : ∀ tail, name ++ rest ≠ '"' :: tail ∧
      name ++ rest ≠ '[' :: tail ∧ name ++ rest ≠ '\x7b' :: tail) :
      readValue (budget + 1) (name ++ rest) = .ok (value, rest) := by
    rw [readValue, readPlain, found]
    · change Except.ok (value, (name ++ rest).drop name.length) = _
      rw [List.drop_left]
    · exact fun tail => (plain tail).1
    · exact fun tail => (plain tail).2.1
    · exact fun tail => (plain tail).2.2
  refine ⟨?_, ?_, fun budget rest _ => read budget rest fun tail => ?_⟩ <;>
    rcases member with ⟨rfl, _⟩ | ⟨rfl, _⟩ | ⟨rfl, _⟩ | ⟨rfl, _⟩ | ⟨rfl, _⟩ | ⟨rfl, _⟩ <;>
    simp [isSpace]

theorem exists_spells_writeNumber (number : Number.Binary64) :
    ∃ again, Spells (writeNumber number) (.float again) := by
  cases number with
  | nan =>
      refine ⟨.nan, ?_⟩
      change Spells "NaN".toList _
      exact spells_named (by simp [namedValues])
  | infinite negative =>
      refine ⟨.infinite negative, ?_⟩
      cases negative with
      | true =>
          change Spells "-Infinity".toList _
          exact spells_named (by simp [namedValues])
      | false =>
          change Spells "Infinity".toList _
          exact spells_named (by simp [namedValues])
  | finite negative significand power =>
      obtain ⟨written, shape⟩ := Number.exists_writeBinary64 negative significand power
      refine ⟨written.number negative, ?_⟩
      have spells := spells_writtenDecimal written negative
      have same : writeNumber (.finite negative significand power) =
          signText negative ++ written.text := by
        change (Number.writeBinary64 (.finite negative significand power)).toList = _
        rw [shape]
        cases negative <;> rfl
      rw [same]
      exact spells

theorem exists_spells {value : Value} {dataType : DataType} {written : List Char}
    (fits : value.fits dataType = true) (made : write value = .ok written) :
    ∃ again, Image value again ∧ Spells written again := by
  cases value with
  | null =>
      obtain rfl := Except.ok.inj made
      exact ⟨.null, .null, spells_named (by simp [namedValues])⟩
  | bool truth =>
      obtain rfl := Except.ok.inj made
      refine ⟨.bool truth, .bool truth, spells_named ?_⟩
      cases truth <;> simp [namedValues]
  | int number =>
      rw [write] at made
      exact ⟨.int number, .int number, spells_writeInteger made⟩
  | float number =>
      obtain rfl := Except.ok.inj made
      obtain ⟨again, spells⟩ := exists_spells_writeNumber number
      exact ⟨.float again, .float number again, spells⟩
  | text content =>
      obtain rfl := Except.ok.inj made
      exact ⟨.text content, .text content, spells_writeText content⟩
  | unpaired codes =>
      obtain rfl := Except.ok.inj made
      refine ⟨_, ?_, spells_writeCodes codes⟩
      unfold valueOfCodes
      split
      · exact .unpaired _ _
      · exact .joined _ _
  | date day =>
      obtain rfl := Except.ok.inj made
      exact ⟨_, .date day, spells_writeText _⟩
  | timestamp moment =>
      obtain rfl := Except.ok.inj made
      exact ⟨_, .timestamp moment, spells_writeText _⟩
  | _ => cases dataType <;> simp [Value.fits, Value.isNull, Value.isOfType] at fits

theorem skipSpace_cons {first : Char} (tail : List Char) (noSpace : isSpace first = false) :
    skipSpace (first :: tail) = first :: tail := by
  rw [skipSpace, List.dropWhile_cons, noSpace]
  rfl

theorem Spells.skipSpace {written : List Char} {value : Value} (spells : Spells written value)
    (rest : List Char) : skipSpace (written ++ rest) = written ++ rest := by
  obtain ⟨first, tail, rfl, noSpace⟩ := spells.starts
  exact skipSpace_cons (tail ++ rest) noSpace

theorem Spells.read {written : List Char} {value : Value} (spells : Spells written value) :
    Json.read written = .ok value := by
  have closed := spells.reads (2 * written.length + 1) (Or.inl rfl)
  rw [List.append_nil] at closed
  have opened := spells.skipSpace []
  rw [List.append_nil] at opened
  have noMark : (written.head? == some '\ufeff') = false := by
    rw [beq_eq_false_iff_ne]
    intro marked
    exact absurd (spells.ascii _ (List.mem_of_head? marked)) (by decide)
  have whole : readWhole written = .ok value := by
    unfold readWhole budgetFor
    rw [noMark, opened, closed]
    rfl
  rw [Json.read, whole]

/-- What is read again of a value that can be written. -/
def ReadsBack (value again : Value) : Prop :=
  ∃ written, write value = .ok written ∧ read written = .ok again

theorem ReadsBack.unique {value again other : Value} (first : ReadsBack value again)
    (second : ReadsBack value other) : again = other := by
  obtain ⟨written, made, isRead⟩ := first
  obtain ⟨text, textMade, textRead⟩ := second
  obtain rfl := Except.ok.inj (made.symm.trans textMade)
  exact Except.ok.inj (isRead.symm.trans textRead)

theorem insertEntry_of_not_mem {name : List Nat} {value : Value}
    {entries : List (List Nat × Value)} (absent : name ∉ entries.map Prod.fst) :
    insertEntry name value entries = entries ++ [(name, value)] := by
  induction entries with
  | nil => rfl
  | cons entry rest hypothesis =>
      rw [List.map_cons, List.mem_cons, not_or] at absent
      rw [insertEntry, if_neg (Ne.symm absent.1), hypothesis absent.2]
      rfl

theorem separated_cons (piece : List Char) (pieces : List (List Char)) :
    separated (piece :: pieces) =
      piece ++ if pieces.isEmpty then [] else ',' :: separated pieces := by
  cases pieces with
  | nil => simp [separated, List.intercalate]
  | cons next pieces => simp [separated, List.intercalate]

def codedEntries (entries : List (String × Value)) : List (List Nat × Value) :=
  entries.map fun entry => (codesOf entry.1, entry.2)

theorem codesOf_injective {first second : String} (same : codesOf first = codesOf second) :
    first = second := by
  rw [← textOfCodes_codesOf first, same, textOfCodes_codesOf]

theorem recordOfEntries_codedEntries (entries : List (String × Value)) :
    recordOfEntries (codedEntries entries) = .record entries := by
  have noSurrogates : ((codedEntries entries).any fun entry => holdsSurrogate entry.1) =
      false := by
    rw [List.any_eq_false]
    intro entry member
    obtain ⟨original, _, rfl⟩ := List.mem_map.1 member
    rw [holdsSurrogate_codesOf]
    exact Bool.false_ne_true
  rw [recordOfEntries, noSurrogates, if_neg Bool.false_ne_true]
  unfold codedEntries
  rw [List.map_map]
  congr 1
  apply List.map_id''
  intro entry
  exact Prod.ext (textOfCodes_codesOf entry.1) rfl

theorem insertEntry_codedEntries {before : List (String × Value)} {key : String}
    (absent : key ∉ before.map Prod.fst) (value : Value) :
    insertEntry (codesOf key) value (codedEntries before) =
      codedEntries (before ++ [(key, value)]) := by
  have codesAbsent : codesOf key ∉ (codedEntries before).map Prod.fst := by
    unfold codedEntries
    rw [List.map_map]
    intro present
    obtain ⟨entry, member, same⟩ := List.mem_map.1 present
    rw [← codesOf_injective same] at absent
    exact absent (List.mem_map_of_mem member)
  rw [insertEntry_of_not_mem codesAbsent]
  unfold codedEntries
  rw [List.map_append]
  rfl

section Entry

variable {key : String} {written : List Char} {again : Value} {before : List (String × Value)}
  (spells : Spells written again) (absent : key ∉ before.map Prod.fst)

include spells absent

/-- An entry before the closing bracket is the last one of its record. -/
theorem readEntries_last (budget : Nat) (rest : List Char) :
    readEntries (budget + 2) (codedEntries before)
        ((writeText key ++ ':' :: written) ++ '\x7d' :: rest) =
      .ok (.record (before ++ [(key, again)]), rest) := by
  have shape : (writeText key ++ ':' :: written) ++ '\x7d' :: rest =
      '"' :: ((codesOf key).flatMap writeCode ++ '"' :: (':' :: (written ++ '\x7d' :: rest))) := by
    simp [writeText, writeCodes, codesOf]
  rw [shape, readEntries, readText_writeText]
  dsimp only
  rw [skipSpace_cons _ (rfl : isSpace ':' = false)]
  split
  · rename_i afterColon sameColon
    obtain rfl := (List.cons.inj sameColon).2
    rw [spells.skipSpace, spells.reads budget (Or.inr ⟨rest, Or.inr rfl⟩)]
    dsimp only
    rw [skipSpace_cons _ rfl, insertEntry_codedEntries absent, recordOfEntries_codedEntries]
    rfl
  · rename_i noColon
    exact absurd rfl (noColon _)

/-- Behind an entry before a comma, the entries after it are read. -/
theorem readEntries_comma (budget : Nat) (rest : List Char) :
    readEntries (budget + 2) (codedEntries before)
        ((writeText key ++ ':' :: written) ++ ',' :: rest) =
      readEntries (budget + 1) (codedEntries (before ++ [(key, again)])) (skipSpace rest) := by
  have shape : (writeText key ++ ':' :: written) ++ ',' :: rest =
      '"' :: ((codesOf key).flatMap writeCode ++ '"' :: (':' :: (written ++ ',' :: rest))) := by
    simp [writeText, writeCodes, codesOf]
  rw [shape, readEntries, readText_writeText]
  dsimp only
  rw [skipSpace_cons _ (rfl : isSpace ':' = false)]
  split
  · rename_i afterColon sameColon
    obtain rfl := (List.cons.inj sameColon).2
    rw [spells.skipSpace, spells.reads budget (Or.inr ⟨rest, Or.inl rfl⟩)]
    dsimp only
    rw [skipSpace_cons _ rfl, insertEntry_codedEntries absent]
    rfl
  · rename_i noColon
    exact absurd rfl (noColon _)

end Entry

/-- Entries with other values, which their written pieces are read as. -/
inductive SpellsEach : List (String × Value) → List (List Char) → List (String × Value) → Prop
  | nil : SpellsEach [] [] []
  | cons {key : String} {value again : Value} {written : List Char}
      {entries others : List (String × Value)} {pieces : List (List Char)}
      (made : write value = .ok written) (image : Image value again)
      (spells : Spells written again) (rest : SpellsEach entries pieces others) :
      SpellsEach ((key, value) :: entries) ((writeText key ++ ':' :: written) :: pieces)
        ((key, again) :: others)

theorem exists_spellsEach {entries : List (String × Value)} {pieces : List (List Char)}
    (fits : ∀ entry ∈ entries, ∃ dataType, entry.2.fits dataType = true)
    (made : writeEntries entries = .ok pieces) :
    ∃ others, SpellsEach entries pieces others := by
  induction entries generalizing pieces with
  | nil =>
      obtain rfl := Except.ok.inj made
      exact ⟨[], .nil⟩
  | cons entry rest hypothesis =>
      obtain ⟨key, value⟩ := entry
      rw [writeEntries, Success.bind_eq_ok] at made
      obtain ⟨written, valueMade, made⟩ := made
      obtain ⟨otherPieces, restMade, made⟩ := (Success.bind_eq_ok _ _ _).1 made
      obtain rfl := (Success.pure_eq_ok _ _).1 made
      obtain ⟨dataType, valueFits⟩ := fits (key, value) List.mem_cons_self
      obtain ⟨again, image, spells⟩ := exists_spells valueFits valueMade
      obtain ⟨others, spellsRest⟩ := hypothesis
        (fun entry member => fits entry (List.mem_cons_of_mem _ member)) restMade
      exact ⟨(key, again) :: others, .cons valueMade image spells spellsRest⟩

namespace SpellsEach

variable {entries others : List (String × Value)} {pieces : List (List Char)}

theorem keys (spells : SpellsEach entries pieces others) :
    others.map Prod.fst = entries.map Prod.fst := by
  induction spells with
  | nil => rfl
  | cons made image spells rest hypothesis => rw [List.map_cons, List.map_cons, hypothesis]

theorem exists_written {key : String} {again : Value} (spells : SpellsEach entries pieces others)
    (member : (key, again) ∈ others) :
    ∃ value, (key, value) ∈ entries ∧ Image value again ∧ ReadsBack value again := by
  induction spells with
  | nil => exact absurd member List.not_mem_nil
  | cons made image spells rest hypothesis =>
      rcases List.mem_cons.1 member with here | there
      · obtain ⟨rfl, rfl⟩ := Prod.mk.inj here
        exact ⟨_, List.mem_cons_self, image, _, made, spells.read⟩
      · obtain ⟨value, within, others⟩ := hypothesis there
        exact ⟨value, List.mem_cons_of_mem _ within, others⟩

theorem ascii (spells : SpellsEach entries pieces others) :
    ∀ character ∈ separated pieces, character.toNat < 128 := by
  induction spells with
  | nil => exact ascii_of_all rfl
  | @cons key value again written entries others pieces made image spells rest hypothesis =>
      rw [separated_cons]
      apply ascii_append
      · apply ascii_append (ascii_writeCodes _)
        intro character member
        rcases List.mem_cons.1 member with rfl | within
        · decide
        · exact spells.ascii character within
      · split
        · exact ascii_of_all rfl
        · intro character member
          rcases List.mem_cons.1 member with rfl | within
          · decide
          · exact hypothesis character within

theorem length_le (spells : SpellsEach entries pieces others) :
    entries.length ≤ (separated pieces).length := by
  induction spells with
  | nil => exact Nat.zero_le _
  | cons made image spells rest hypothesis =>
      rw [separated_cons, List.length_append, List.length_append, List.length_cons,
        List.length_cons]
      cases rest with
      | nil =>
          simp only [List.length_nil]
          omega
      | cons made image spells rest =>
          rw [List.isEmpty_cons, if_neg Bool.false_ne_true]
          simp only [List.length_cons] at hypothesis ⊢
          omega

theorem exists_quote (spells : SpellsEach entries pieces others) (nonempty : entries ≠ []) :
    ∃ tail, separated pieces = '"' :: tail := by
  cases spells with
  | nil => exact absurd rfl nonempty
  | cons made image spells rest =>
      rw [separated_cons]
      exact ⟨_, rfl⟩

/-- By induction on the entries; each is closed by a comma, or the last by the bracket. -/
theorem readEntries (spells : SpellsEach entries pieces others) (nonempty : entries ≠ [])
    {before : List (String × Value)}
    (nodup : (before.map Prod.fst ++ entries.map Prod.fst).Nodup) {budget : Nat}
    (enough : entries.length + 1 ≤ budget) (rest : List Char) :
    Json.readEntries budget (codedEntries before) (separated pieces ++ '\x7d' :: rest) =
      .ok (.record (before ++ others), rest) := by
  induction spells generalizing before budget with
  | nil => exact absurd rfl nonempty
  | @cons key value again written entries others pieces made image spells following
      hypothesis =>
      obtain ⟨budget, rfl⟩ : ∃ less, budget = less + 2 := by
        rw [List.length_cons] at enough
        exact ⟨budget - 2, by omega⟩
      have absent : key ∉ before.map Prod.fst := by
        intro present
        exact (List.nodup_append.1 nodup).2.2 key present key List.mem_cons_self rfl
      rw [separated_cons, List.append_assoc]
      by_cases last : entries = []
      · obtain ⟨rfl, rfl⟩ : pieces = [] ∧ others = [] := by
          subst last
          cases following
          exact ⟨rfl, rfl⟩
        rw [List.isEmpty_nil, if_pos rfl, List.nil_append, readEntries_last spells absent]
      · obtain ⟨tail, quote⟩ := following.exists_quote last
        have somePieces : pieces.isEmpty = false := by
          rw [List.isEmpty_eq_false_iff]
          rintro rfl
          exact absurd quote (List.cons_ne_nil _ _).symm
        have noSpace : skipSpace (separated pieces ++ '\x7d' :: rest) =
            separated pieces ++ '\x7d' :: rest := by
          rw [quote, List.cons_append, skipSpace_cons _ rfl]
        have nodupNext : ((before ++ [(key, again)]).map Prod.fst ++
            entries.map Prod.fst).Nodup := by
          rw [List.map_append, List.append_assoc]
          exact nodup
        have enoughNext : entries.length + 1 ≤ budget + 1 := Nat.le_of_succ_le_succ enough
        rw [somePieces, if_neg Bool.false_ne_true, List.cons_append,
          readEntries_comma spells absent, noSpace, hypothesis last nodupNext enoughNext,
          List.append_assoc]
        rfl

end SpellsEach

/-- A written record is read back, with what JSON holds of its values. -/
theorem read_written {entries others : List (String × Value)} {pieces : List (List Char)}
    (spells : SpellsEach entries pieces others) (nonempty : entries ≠ [])
    (nodup : (entries.map Prod.fst).Nodup) :
    read ('\x7b' :: separated pieces ++ ['\x7d']) = .ok (.record others) := by
  obtain ⟨tail, quote⟩ := spells.exists_quote nonempty
  have enough : entries.length + 1 ≤
      2 * ('\x7b' :: separated pieces ++ ['\x7d']).length + 1 := by
    have bound := spells.length_le
    simp only [List.length_append, List.length_cons, List.length_nil]
    omega
  have entriesRead := @SpellsEach.readEntries _ _ _ spells nonempty [] nodup _ enough []
  have opened : skipSpace (separated pieces ++ ['\x7d']) = separated pieces ++ ['\x7d'] := by
    rw [quote, List.cons_append, skipSpace_cons _ rfl]
  have valueRead : readValue (budgetFor ('\x7b' :: separated pieces ++ ['\x7d']).length)
      ('\x7b' :: (separated pieces ++ ['\x7d'])) = .ok (.record others, []) := by
    unfold budgetFor
    rw [readValue, opened]
    change _ = Except.ok (Value.record ([] ++ others), [])
    rw [← entriesRead, quote]
    rfl
  have whole : readWhole ('\x7b' :: separated pieces ++ ['\x7d']) = .ok (.record others) := by
    rw [← List.cons_append] at valueRead
    unfold readWhole
    rw [List.cons_append, skipSpace_cons _ rfl, ← List.cons_append, valueRead]
    rfl
  rw [read, whole]

end Json
end Codec
end SchemaQuery
