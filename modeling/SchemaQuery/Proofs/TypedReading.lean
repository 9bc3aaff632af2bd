import SchemaQuery.Proofs.IsoReading
import SchemaQuery.Proofs.JsonReading
import SchemaQuery.Proofs.TokenText
import SchemaQuery.Cast.Registry

/-!
# Values come back with their type

A value of a data type that has been written as JSON and read back is cast to the data
type again.  Most values are read as what they were; dates and points in time are read as
text, and casting reads that.
-/

namespace SchemaQuery

namespace Text

theorem isBlank_of_isDigit {character : Char} (isDigit : character.isDigit = true) :
    isBlank character = false := by
  simp only [Char.isDigit, Bool.and_eq_true, decide_eq_true_eq] at isDigit
  have lower := UInt32.le_iff_toNat_le.1 isDigit.1
  have upper := UInt32.le_iff_toNat_le.1 isDigit.2
  change 48 ≤ character.toNat at lower
  change character.toNat ≤ 57 at upper
  rw [isBlank, List.contains_eq_mem, decide_eq_false_iff_not]
  intro blank
  simp only [blankCodes, List.mem_cons, List.not_mem_nil, or_false] at blank
  omega

end Text

namespace Cast

open Calendar (Date Timestamp)

theorem writtenForm_text {characters : List Char}
    (visible : ∀ character ∈ characters, Text.isBlank character = false) :
    writtenForm (.text (String.ofList characters)) = .text (String.ofList characters) := by
  rw [writtenForm]
  · rw [Value.plain, Text.trim, String.toList_ofList, Text.trimCharacters_eq_self visible]
  · simp

theorem visible_date (day : Date) : ∀ character ∈ day.iso, Text.isBlank character = false := by
  intro character member
  rcases day.mem_iso member with isDigit | rfl
  · exact Text.isBlank_of_isDigit isDigit
  · decide

theorem toDate_iso (day : Date) :
    toDate (.text (String.ofList day.iso)) = .ok (.date day) := by
  have noTime : holdsTime (.text (String.ofList day.iso)) = false := by
    rw [holdsTime, String.toList_ofList, List.any_eq_false]
    intro character member
    rw [Bool.or_eq_true, beq_iff_eq, beq_iff_eq]
    rcases day.mem_iso member with isDigit | rfl
    · rintro (rfl | rfl) <;> exact absurd isDigit Bool.false_ne_true
    · decide
  rw [toDate, writtenForm_text (visible_date day), noTime]
  · dsimp only
    rw [if_neg Bool.false_ne_true, String.toList_ofList, day.ofIso_iso]
  · simp
  · simp

theorem visible_timestamp (moment : Timestamp) :
    ∀ character ∈ moment.iso, Text.isBlank character = false := by
  intro character member
  rcases moment.mem_iso member with isDigit | mark
  · exact Text.isBlank_of_isDigit isDigit
  · have visible : (['-', '+', ':', '.', 'T'].all fun mark => !Text.isBlank mark) = true := by
      decide
    simpa using List.all_eq_true.1 visible character mark

/-- A written point in time is cast to what its form is read as. -/
theorem toTimestamp_iso {moment again : Timestamp} (read : Timestamp.ofIso moment.iso = .ok again) :
    toTimestamp (.text (String.ofList moment.iso)) = .ok (.timestamp again) := by
  have noMark : (moment.iso.getLast? == some 'Z') = false := by
    rw [beq_eq_false_iff_ne]
    intro last
    rcases moment.mem_iso (List.mem_of_getLast? last) with isDigit | mark
    · exact absurd isDigit Bool.false_ne_true
    · exact absurd mark (by decide)
  rw [toTimestamp, writtenForm_text (visible_timestamp moment), timestampOfText]
  · dsimp only
    rw [String.toList_ofList, noMark]
    simp only [Bool.false_eq_true, if_false, calendarCharacters?, String.toList_ofList]
    rw [read]
    rfl
  · simp
  · simp

open Codec.Json (Image)

/-- A written value of a data type is cast to it again. -/
theorem exists_cast_image {dataType : DataType} {value again : Value}
    (ofType : value.isOfType dataType = true) (image : Image value again) :
    ∃ typed, standard dataType again = .ok typed ∧ typed.isOfType dataType = true := by
  cases image with
  | null => cases dataType <;> exact absurd ofType Bool.false_ne_true
  | bool truth =>
      cases dataType with
      | bool => exact ⟨.bool truth, rfl, rfl⟩
      | _ => exact absurd ofType Bool.false_ne_true
  | int number =>
      cases dataType with
      | int => exact ⟨.int number, rfl, rfl⟩
      | lookup => exact ⟨.int number, rfl, rfl⟩
      | junction => exact ⟨.int number, rfl, rfl⟩
      | _ => exact absurd ofType Bool.false_ne_true
  | float number again =>
      cases dataType with
      | float => exact ⟨.float again, rfl, rfl⟩
      | _ => exact absurd ofType Bool.false_ne_true
  | text content =>
      cases dataType with
      | string => exact ⟨_, rfl, rfl⟩
      | text => exact ⟨_, rfl, rfl⟩
      | _ => exact absurd ofType Bool.false_ne_true
  | joined codes content =>
      cases dataType with
      | string => exact ⟨_, rfl, rfl⟩
      | text => exact ⟨_, rfl, rfl⟩
      | _ => exact absurd ofType Bool.false_ne_true
  | unpaired codes again =>
      cases dataType with
      | string => exact ⟨_, rfl, rfl⟩
      | text => exact ⟨_, rfl, rfl⟩
      | _ => exact absurd ofType Bool.false_ne_true
  | date day =>
      cases dataType with
      | date => exact ⟨.date day, toDate_iso day, rfl⟩
      | _ => exact absurd ofType Bool.false_ne_true
  | timestamp moment =>
      cases dataType with
      | datetime =>
          have made := toTimestamp_iso moment.ofIso_iso
          exact ⟨.timestamp _, made, rfl⟩
      | _ => exact absurd ofType Bool.false_ne_true

/-- A value is cast to itself, unless it is a floating-point number, holds half of a surrogate pair,
or is a point in time that is read as another one. -/
theorem cast_image {dataType : DataType} {value again : Value}
    (ofType : value.isOfType dataType = true) (noFloat : dataType ≠ .float)
    (noHalf : ∀ codes, value ≠ .unpaired codes)
    (readsBack : ∀ moment, value = .timestamp moment → Timestamp.ofIso moment.iso = .ok moment)
    (image : Image value again) : standard dataType again = .ok value := by
  cases image with
  | null => cases dataType <;> exact absurd ofType Bool.false_ne_true
  | bool truth =>
      cases dataType with
      | bool => rfl
      | _ => exact absurd ofType Bool.false_ne_true
  | int number =>
      cases dataType with
      | int => rfl
      | lookup => rfl
      | junction => rfl
      | _ => exact absurd ofType Bool.false_ne_true
  | float number again =>
      cases dataType with
      | float => exact absurd rfl noFloat
      | _ => exact absurd ofType Bool.false_ne_true
  | text content =>
      cases dataType with
      | string => rfl
      | text => rfl
      | _ => exact absurd ofType Bool.false_ne_true
  | joined codes content => exact absurd rfl (noHalf codes)
  | unpaired codes again => exact absurd rfl (noHalf codes)
  | date day =>
      cases dataType with
      | date => exact toDate_iso day
      | _ => exact absurd ofType Bool.false_ne_true
  | timestamp moment =>
      cases dataType with
      | datetime =>
          have made := toTimestamp_iso (readsBack moment rfl)
          exact made
      | _ => exact absurd ofType Bool.false_ne_true

/-- A value that JSON holds without loss is cast to itself. -/
theorem cast_image_of_isExact {dataType : DataType} {value again : Value}
    (ofType : value.isOfType dataType = true) (exactly : value.isExact = true)
    (image : Image value again) : standard dataType again = .ok value := by
  apply cast_image ofType _ _ _ image
  · rintro rfl
    cases value <;> exact Bool.false_ne_true (by assumption)
  · rintro codes rfl
    exact Bool.false_ne_true exactly
  · rintro moment rfl
    exact absurd exactly Bool.false_ne_true

end Cast

end SchemaQuery
