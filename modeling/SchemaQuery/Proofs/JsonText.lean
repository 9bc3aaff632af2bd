import SchemaQuery.Codec.Json

/-!
# Reading text that has been written

Code points are written in quotes, those outside ASCII by the units of UTF-16.  They are read
back as what the units make up: text is read as it was, and so are code points unless halves
of a surrogate pair stand next to each other.
-/

namespace SchemaQuery
namespace Codec
namespace Json

def unitsOf (code : Nat) : List Nat :=
  if code < 0x10000 then [code]
  else
    [(0xD800 + (code - 0x10000) / 0x400) % 0x10000, 0xDC00 + (code - 0x10000) % 0x400]

theorem hexadecimal_four (unit : Nat) :
    Text.hexadecimal 4 unit =
      [Nat.digitChar (unit / 4096 % 16), Nat.digitChar (unit / 256 % 16),
        Nat.digitChar (unit / 16 % 16), Nat.digitChar (unit % 16)] := by
  simp only [Text.hexadecimal, Nat.div_div_eq_div_mul, List.nil_append, List.cons_append]

theorem unitOfDigits?_hexadecimal (unit : Nat) :
    unitOfDigits? (Nat.digitChar (unit / 4096 % 16)) (Nat.digitChar (unit / 256 % 16))
      (Nat.digitChar (unit / 16 % 16)) (Nat.digitChar (unit % 16)) =
        some (unit % 0x10000) := by
  have digit (number : Nat) :
      Text.hexDigitValue? (Nat.digitChar (number % 16)) = some (number % 16) :=
    Text.hexDigitValue?_digitChar _ (Nat.mod_lt _ (by decide))
  simp only [unitOfDigits?, digit, Option.bind_eq_bind, Option.bind_some, Option.pure_def,
    Option.some.injEq]
  omega

theorem readCodes_unitEscape (opening : List Char) (unit : Nat) {tail : List Char}
    (goesOn : tail ≠ []) :
    readCodes opening (unitEscape unit ++ tail) =
      (readCodes opening tail).map fun result =>
        (unit % 0x10000 :: result.1, result.2) := by
  obtain ⟨next, following, rfl⟩ := List.exists_cons_of_ne_nil goesOn
  rw [unitEscape, hexadecimal_four]
  simp only [List.cons_append, List.nil_append]
  rw [readCodes, unitOfDigits?_hexadecimal]

theorem readCodes_plain (opening : List Char) {character : Char} (tail : List Char)
    (noQuote : character ≠ '"') (noBackslash : character ≠ '\\')
    (visible : ¬character.toNat < 0x20) :
    readCodes opening (character :: tail) =
      (readCodes opening tail).map fun result => (character.toNat :: result.1, result.2) := by
  rw [readCodes]
  · rw [if_neg visible]
  · exact noQuote
  · intro rest same
    exact absurd same noBackslash
  · intro same
    exact absurd same noBackslash
  · intro letter rest same
    exact absurd same noBackslash

theorem readCodes_writeCode (opening : List Char) (code : Nat) {tail : List Char}
    (goesOn : tail ≠ []) :
    readCodes opening (writeCode code ++ tail) =
      (readCodes opening tail).map fun result => (unitsOf code ++ result.1, result.2) := by
  unfold writeCode
  -- Quotes, backslashes and five control characters have escapes of their own.
  split
  · subst code
    rfl
  split
  · subst code
    rfl
  split
  · subst code
    rfl
  split
  · subst code
    rfl
  split
  · subst code
    rfl
  split
  · subst code
    rfl
  split
  · subst code
    rfl
  -- What is visible stands for itself.
  split
  · rename_i noQuote noBackslash _ _ _ _ _ visible
    have number : (Char.ofNat code).toNat = code := by
      have valid : code.isValidChar := Or.inl (by omega)
      rw [Char.ofNat, dif_pos valid]
      rfl
    have differs (other : Char) (otherCode : other.toNat ≠ code) : Char.ofNat code ≠ other := by
      rintro rfl
      exact otherCode number
    rw [List.cons_append, List.nil_append,
      readCodes_plain opening tail (differs _ (Ne.symm noQuote))
        (differs _ (Ne.symm noBackslash)) (by omega), number, unitsOf,
      if_pos (by omega)]
    rfl
  split
  · rename_i small
    rw [readCodes_unitEscape opening code goesOn, unitsOf, if_pos small, Nat.mod_eq_of_lt small]
    rfl
  · -- A character beyond the first plane has two units.
    rename_i large
    have second : 0xDC00 + (code - 0x10000) % 0x400 < 0x10000 := by omega
    rw [List.append_assoc, readCodes_unitEscape opening _ (by simp [unitEscape]),
      readCodes_unitEscape opening _ goesOn, unitsOf, if_neg large, Nat.mod_eq_of_lt second]
    cases readCodes opening tail <;> rfl

/-- Code points in quotes are read as their units, up to the closing quote. -/
theorem readCodes_writeCodes (opening : List Char) (codes : List Nat) (rest : List Char) :
    readCodes opening (codes.flatMap writeCode ++ '"' :: rest) =
      .ok (codes.flatMap unitsOf, rest) := by
  induction codes with
  | nil =>
      rw [List.flatMap_nil, List.nil_append, readCodes]
      rfl
  | cons code codes hypothesis =>
      rw [List.flatMap_cons, List.append_assoc, readCodes_writeCode opening code (by simp),
        hypothesis, List.flatMap_cons]
      rfl

theorem readText_writeCodes (codes : List Nat) (rest : List Char) :
    readText (codes.flatMap writeCode ++ '"' :: rest) =
      .ok (joinSurrogates (codes.flatMap unitsOf), rest) := by
  rw [readText, readCodes_writeCodes]
  rfl

def codesOf (text : String) : List Nat :=
  text.toList.map Char.toNat

def IsCharacter (code : Nat) : Prop :=
  code < 0xD800 ∨ 0xDFFF < code ∧ code < 0x110000

theorem isCharacter_toNat (character : Char) : IsCharacter character.toNat := by
  have valid := character.valid
  exact valid

theorem noSurrogate_of_isCharacter {code : Nat} (isCharacter : IsCharacter code) :
    isHighSurrogate code = false ∧ isLowSurrogate code = false := by
  unfold IsCharacter at isCharacter
  unfold isHighSurrogate isLowSurrogate
  simp only [Bool.and_eq_false_iff, decide_eq_false_iff_not]
  omega

theorem joinSurrogates_cons {code : Nat} (noHigh : isHighSurrogate code = false)
    (codes : List Nat) : joinSurrogates (code :: codes) = code :: joinSurrogates codes := by
  cases codes with
  | nil => rfl
  | cons next codes =>
      rw [joinSurrogates, noHigh]
      rfl

/-- The units of characters make up the characters again. -/
theorem joinSurrogates_unitsOf {codes : List Nat}
    (characters : ∀ code ∈ codes, IsCharacter code) :
    joinSurrogates (codes.flatMap unitsOf) = codes := by
  induction codes with
  | nil => rfl
  | cons code codes hypothesis =>
      have isCharacter := characters code List.mem_cons_self
      have others := hypothesis fun other member =>
        characters other (List.mem_cons_of_mem _ member)
      rw [List.flatMap_cons, unitsOf]
      split
      · rw [List.cons_append, List.nil_append,
          joinSurrogates_cons (noSurrogate_of_isCharacter isCharacter).1, others]
      · rename_i large
        unfold IsCharacter at isCharacter
        have pair : (isHighSurrogate ((0xD800 + (code - 0x10000) / 0x400) % 0x10000) &&
            isLowSurrogate (0xDC00 + (code - 0x10000) % 0x400)) = true := by
          unfold isHighSurrogate isLowSurrogate
          simp only [Bool.and_eq_true, decide_eq_true_eq]
          omega
        simp only [List.cons_append, List.nil_append]
        rw [joinSurrogates, pair, if_pos rfl, others]
        have sameCode : 0x10000 + ((0xD800 + (code - 0x10000) / 0x400) % 0x10000 - 0xD800) *
            0x400 + (0xDC00 + (code - 0x10000) % 0x400 - 0xDC00) = code := by
          omega
        rw [sameCode]

theorem isCharacter_codesOf (text : String) : ∀ code ∈ codesOf text, IsCharacter code := by
  intro code member
  obtain ⟨character, _, rfl⟩ := List.mem_map.1 member
  exact isCharacter_toNat character

theorem holdsSurrogate_codesOf (text : String) : holdsSurrogate (codesOf text) = false := by
  unfold holdsSurrogate
  rw [List.any_eq_false]
  intro code member
  obtain ⟨noHigh, noLow⟩ := noSurrogate_of_isCharacter (isCharacter_codesOf text code member)
  rw [noHigh, noLow]
  exact Bool.false_ne_true

theorem textOfCodes_codesOf (text : String) : textOfCodes (codesOf text) = text := by
  have same : (codesOf text).map Char.ofNat = text.toList := by
    unfold codesOf
    rw [List.map_map]
    exact List.map_id'' Char.ofNat_toNat text.toList
  rw [textOfCodes, same, String.ofList_toList]

/-- Text is read back as it was. -/
theorem readText_writeText (text : String) (rest : List Char) :
    readText ((codesOf text).flatMap writeCode ++ '"' :: rest) = .ok (codesOf text, rest) := by
  rw [readText_writeCodes, joinSurrogates_unitsOf (isCharacter_codesOf text)]

theorem ascii_of_all {characters : List Char}
    (all : (characters.all fun character => character.toNat < 128) = true) :
    ∀ character ∈ characters, character.toNat < 128 := by
  intro character member
  exact of_decide_eq_true (List.all_eq_true.1 all character member)

theorem ascii_append {first second : List Char}
    (left : ∀ character ∈ first, character.toNat < 128)
    (right : ∀ character ∈ second, character.toNat < 128) :
    ∀ character ∈ first ++ second, character.toNat < 128 := by
  intro character member
  rcases List.mem_append.1 member with here | there
  · exact left character here
  · exact right character there

theorem ascii_unitEscape (unit : Nat) :
    ∀ character ∈ unitEscape unit, character.toNat < 128 := by
  have digit : ∀ number < 16, (Nat.digitChar number).toNat < 128 := by decide
  have low (number : Nat) : (Nat.digitChar (number % 16)).toNat < 128 :=
    digit _ (Nat.mod_lt _ (by decide))
  intro character member
  rw [unitEscape, hexadecimal_four] at member
  simp only [List.mem_cons, List.not_mem_nil, or_false] at member
  rcases member with rfl | rfl | rfl | rfl | rfl | rfl
  · decide
  · decide
  · exact low _
  · exact low _
  · exact low _
  · exact low _

theorem ascii_writeCode (code : Nat) : ∀ character ∈ writeCode code, character.toNat < 128 := by
  unfold writeCode
  repeat' split
  all_goals first
    | exact ascii_of_all (by decide)
    | exact ascii_unitEscape _
    | skip
  · rename_i visible
    intro character member
    obtain rfl := List.mem_singleton.1 member
    have valid : code.isValidChar := Or.inl (by omega)
    rw [Char.ofNat, dif_pos valid]
    change code < 128
    omega
  · intro character member
    rcases List.mem_append.1 member with high | low
    · exact ascii_unitEscape _ character high
    · exact ascii_unitEscape _ character low

theorem ascii_writeCodes (codes : List Nat) :
    ∀ character ∈ writeCodes codes, character.toNat < 128 := by
  intro character member
  rw [writeCodes, List.cons_append, List.mem_cons, List.mem_append, List.mem_singleton,
    List.mem_flatMap] at member
  rcases member with rfl | ⟨code, _, within⟩ | rfl
  · decide
  · exact ascii_writeCode code character within
  · decide

end Json
end Codec
end SchemaQuery
