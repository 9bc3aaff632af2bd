import SchemaQuery.Calendar.Iso
import SchemaQuery.Proofs.WrittenNumber

/-!
# Reading dates and times that have been written

A date is read back from its form.  So is a point in time, as far as its clock does not differ
from universal time by less than a second: such an offset is read as none.
-/

namespace SchemaQuery
namespace Calendar

open Number (AreDigits paddedDigits naturalOfDigits areDigits_paddedDigits
  length_paddedDigits naturalOfDigits_paddedDigits)

theorem takeDigits_append {digits : List Char} (all : AreDigits digits) (rest : List Char) :
    takeDigits digits.length (digits ++ rest) = some (digits, rest) := by
  induction digits with
  | nil => rfl
  | cons digit digits hypothesis =>
      have isDigit := all digit List.mem_cons_self
      rw [List.length_cons, List.cons_append, takeDigits, if_pos isDigit,
        hypothesis fun character member => all character (List.mem_cons_of_mem _ member)]
      rfl

/-- A number that fits into a width is read back from it. -/
theorem readFixed_paddedDigits (width : Nat) {number : Nat} (positive : 0 < width)
    (fits : number < Nat.pow 10 width) (rest : List Char) :
    readFixed width (paddedDigits width number ++ rest) = some (number, rest) := by
  have taken := takeDigits_append (areDigits_paddedDigits width number) rest
  rw [length_paddedDigits width positive fits] at taken
  rw [readFixed, taken, Option.map_some, naturalOfDigits_paddedDigits]

theorem paddedDigits_head (width number : Nat) (behind : List Char) :
    ∃ first tail, paddedDigits width number ++ behind = first :: tail ∧
      first.isDigit = true := by
  obtain ⟨first, tail, shape⟩ :=
    List.exists_cons_of_ne_nil (Number.paddedDigits_ne_nil width number)
  refine ⟨first, tail ++ behind, by rw [shape]; rfl, ?_⟩
  apply areDigits_paddedDigits width number
  rw [shape]
  exact List.mem_cons_self

namespace Date

variable (date : Date)

theorem numbers_lt : date.year < 10000 ∧ date.month < 100 ∧ date.day < 100 := by
  obtain ⟨_, yearSmall, _, monthSmall, _, dayFits⟩ := date.valid
  have daySmall : daysInMonth date.year date.month ≤ 31 := by
    unfold daysInMonth
    split
    · split <;> decide
    · split <;> decide
  omega

theorem length_iso : date.iso.length = 10 := by
  obtain ⟨year, month, day⟩ := date.numbers_lt
  unfold iso
  simp only [List.length_append, List.length_cons, length_paddedDigits 4 (by decide) year,
    length_paddedDigits 2 (by decide) month, length_paddedDigits 2 (by decide) day]

theorem readDateNumbers_iso :
    readDateNumbers date.iso = some (date.year, date.month, date.day) := by
  obtain ⟨yearSmall, monthSmall, daySmall⟩ := date.numbers_lt
  have yearRead := readFixed_paddedDigits 4 (by decide) yearSmall
    ('-' :: paddedDigits 2 date.month ++ '-' :: paddedDigits 2 date.day)
  have monthRead := readFixed_paddedDigits 2 (by decide) monthSmall
    ('-' :: paddedDigits 2 date.day)
  have dayRead := readFixed_paddedDigits 2 (by decide) daySmall []
  rw [List.append_nil] at dayRead
  obtain ⟨first, tail, shape, isDigit⟩ :=
    paddedDigits_head 2 date.month ('-' :: paddedDigits 2 date.day)
  have shapeOfAll : date.iso = paddedDigits 4 date.year ++
      ('-' :: paddedDigits 2 date.month ++ '-' :: paddedDigits 2 date.day) := by
    unfold iso
    simp
  rw [shapeOfAll, readDateNumbers, yearRead]
  simp only [Option.bind_eq_bind, Option.bind_some, List.cons_append, List.head?_cons,
    beq_self_eq_true, if_true, List.drop_succ_cons, List.drop_zero]
  rw [shape]
  split
  · rename_i same
    rw [(List.cons.inj same).1] at isDigit
    exact absurd isDigit Bool.false_ne_true
  · rw [← shape, monthRead]
    simp only [Option.bind_some, skipSeparator, if_true, dayRead]
    rfl

theorem mem_iso {character : Char} (member : character ∈ date.iso) :
    character.isDigit = true ∨ character = '-' := by
  unfold iso at member
  simp only [List.mem_append, List.mem_cons] at member
  rcases member with (year | rfl | month) | rfl | day
  · exact Or.inl (areDigits_paddedDigits _ _ character year)
  · exact Or.inr rfl
  · exact Or.inl (areDigits_paddedDigits _ _ character month)
  · exact Or.inr rfl
  · exact Or.inl (areDigits_paddedDigits _ _ character day)

end Date

theorem utf8ByteSize_ofList {characters : List Char}
    (ascii : ∀ character ∈ characters, character.toNat < 128) :
    (String.ofList characters).utf8ByteSize = characters.length := by
  induction characters with
  | nil => rfl
  | cons character rest hypothesis =>
      have small : character.val ≤ 0x7F := by
        rw [UInt32.le_iff_toNat_le]
        have bound := ascii character List.mem_cons_self
        change character.toNat ≤ 127
        omega
      rw [String.ofList_cons, String.utf8ByteSize_append, String.utf8ByteSize_singleton,
        Char.utf8Size_eq_one_iff.2 small,
        hypothesis fun other member => ascii other (List.mem_cons_of_mem _ member),
        List.length_cons, Nat.add_comm]

theorem Date.ofIso_iso (date : Date) : Date.ofIso date.iso = .ok date := by
  have size : (String.ofList date.iso).utf8ByteSize = 10 := by
    rw [utf8ByteSize_ofList, date.length_iso]
    intro character member
    rcases date.mem_iso member with isDigit | rfl
    · exact Number.ascii_of_isDigit isDigit
    · decide
  rw [Date.ofIso, size, if_pos (by decide), date.readDateNumbers_iso]
  exact Date.ofNumbers_numbers date

theorem readClockFields_colon (separated : Option Bool) (colons : separated ≠ some false)
    (read : List Nat) (fields : Nat) {number : Nat} (fits : number < 100)
    {following : List Char} (goesOn : following ≠ []) :
    readClockFields separated read (fields + 1)
        (paddedDigits 2 number ++ ':' :: following) =
      readClockFields (some true) (number :: read) fields following := by
  have separates : separated.getD ((':' :: following).head? == some ':') = true := by
    cases separated with
    | none => rfl
    | some flag =>
        cases flag with
        | true => rfl
        | false => exact absurd rfl colons
  have more : following.isEmpty = false := List.isEmpty_eq_false_iff.2 goesOn
  rw [readClockFields, readFixed_paddedDigits 2 (by decide) fits]
  simp only [Option.bind_eq_bind, Option.bind_some, separates, more, Bool.false_and,
    Bool.false_eq_true, if_false, beq_self_eq_true, Bool.and_self, if_true]

theorem readClockFields_end (separated : Option Bool) (read : List Nat) (fields : Nat)
    {number : Nat} (fits : number < 100) :
    readClockFields separated read (fields + 1) (paddedDigits 2 number) =
      some (number :: read, 0, false) := by
  have numberRead := readFixed_paddedDigits 2 (by decide) fits []
  rw [List.append_nil] at numberRead
  rw [readClockFields, numberRead]
  rfl

theorem readFraction_paddedDigits {microsecond : Nat} (fits : microsecond < 1000000) :
    readFraction (paddedDigits 6 microsecond) = some (microsecond, false) := by
  have length := length_paddedDigits 6 (by decide) fits
  have taken := takeDigits_append (areDigits_paddedDigits 6 microsecond) []
  rw [List.append_nil, length] at taken
  rw [readFraction, length, Nat.min_self, taken]
  simp only [Option.bind_eq_bind, Option.bind_some, naturalOfDigits_paddedDigits]
  simp [Number.powerOfTen, isLeftOver]

theorem readClockFields_fraction (read : List Nat) (fields : Nat) {number microsecond : Nat}
    (fits : number < 100) (fraction : microsecond < 1000000) :
    readClockFields (some true) read (fields + 1)
        (paddedDigits 2 number ++ isoFraction microsecond) =
      some (number :: read, microsecond, false) := by
  unfold isoFraction
  split
  · rename_i none
    rw [List.append_nil, readClockFields_end _ _ _ fits, none]
  · have more : (paddedDigits 6 microsecond).isEmpty = false :=
      List.isEmpty_eq_false_iff.2 (Number.paddedDigits_ne_nil 6 microsecond)
    rw [readClockFields, readFixed_paddedDigits 2 (by decide) fits]
    simp only [Option.bind_eq_bind, Option.bind_some, more, Bool.false_and,
      Bool.false_eq_true, if_false]
    rw [readFraction_paddedDigits fraction]
    rfl

theorem readClock_minutes {hour minute : Nat} (hours : hour < 100)
    (minutes : minute < 100) :
    readClock (paddedDigits 2 hour ++ ':' :: paddedDigits 2 minute) =
      some ⟨hour, minute, 0, 0, false⟩ := by
  rw [readClock, readClockFields_colon none (by decide) [] 2 hours
      (Number.paddedDigits_ne_nil 2 minute),
    readClockFields_end _ _ _ minutes]
  rfl

theorem readClock_seconds {hour minute second microsecond : Nat} (hours : hour < 100)
    (minutes : minute < 100) (seconds : second < 100) (fraction : microsecond < 1000000) :
    readClock (paddedDigits 2 hour ++ ':' :: (paddedDigits 2 minute ++
        ':' :: (paddedDigits 2 second ++ isoFraction microsecond))) =
      some ⟨hour, minute, second, microsecond, false⟩ := by
  rw [readClock, readClockFields_colon none (by decide) [] 2 hours (by simp),
    readClockFields_colon (some true) (by decide) [hour] 1 minutes
      (by simp [Number.paddedDigits_ne_nil 2 second]),
    readClockFields_fraction [minute, hour] 0 seconds fraction]
  rfl

theorem mem_isoFraction {microsecond : Nat} {character : Char}
    (member : character ∈ isoFraction microsecond) :
    character.isDigit = true ∨ character ∈ [':', '.'] := by
  unfold isoFraction at member
  split at member
  · exact absurd member List.not_mem_nil
  · rcases List.mem_cons.1 member with rfl | digit
    · exact Or.inr (by decide)
    · exact Or.inl (areDigits_paddedDigits _ _ character digit)

theorem TimeOfDay.mem_iso {time : TimeOfDay} {character : Char}
    (member : character ∈ time.iso) : character.isDigit = true ∨ character ∈ [':', '.'] := by
  unfold iso at member
  simp only [List.mem_append, List.mem_cons] at member
  rcases member with ((hour | rfl | minute) | rfl | second) | fraction
  · exact Or.inl (areDigits_paddedDigits _ _ character hour)
  · exact Or.inr (by decide)
  · exact Or.inl (areDigits_paddedDigits _ _ character minute)
  · exact Or.inr (by decide)
  · exact Or.inl (areDigits_paddedDigits _ _ character second)
  · exact mem_isoFraction fraction

theorem TimeOfDay.noOffset_of_mem_iso {time : TimeOfDay} {character : Char}
    (member : character ∈ time.iso) : startsOffset character = false := by
  rcases time.mem_iso member with isDigit | mark
  · have differs {other : Char} (noDigit : other.isDigit = false) :
        (character == other) = false :=
      beq_eq_false_iff_ne.2 fun same => by
        rw [same, noDigit] at isDigit
        exact absurd isDigit Bool.false_ne_true
    rw [startsOffset, differs rfl, differs rfl, differs rfl]
    rfl
  · simp only [List.mem_cons, List.not_mem_nil, or_false] at mark
    rcases mark with rfl | rfl <;> rfl

theorem TimeOfDay.readClock_iso (time : TimeOfDay) :
    readClock time.iso =
      some ⟨time.hour, time.minute, time.second, time.microsecond, false⟩ := by
  obtain ⟨hour, minute, second, microsecond⟩ := time.valid
  have read := @readClock_seconds time.hour time.minute time.second time.microsecond
    (by omega) (by omega) (by omega) (by omega)
  unfold iso
  simp only [List.append_assoc, List.cons_append] at read ⊢
  exact read

/-- What a written offset is read as: less than a second counts as none. -/
def Offset.again (offset : Offset) : Offset :=
  if offset.microseconds.natAbs < 1000000 then .universal else offset

theorem Offset.again_eq_self_iff (offset : Offset) :
    offset.again = offset ↔
      offset.microseconds = 0 ∨ 1000000 ≤ offset.microseconds.natAbs := by
  unfold again
  split
  · rename_i small
    constructor
    · intro same
      exact Or.inl (congrArg microseconds same).symm
    · rintro (none | whole)
      · obtain ⟨microseconds, valid⟩ := offset
        obtain rfl := none
        rfl
      · exact absurd small (Nat.not_lt.2 whole)
  · rename_i large
    exact ⟨fun _ => Or.inr (Nat.not_lt.1 large), fun _ => rfl⟩

/-- An offset is read with the size that its clock shows. -/
theorem readOffset_of_readClock {sign : Char} {rest : List Char} {reading : ClockReading}
    (noUniversal : sign ≠ 'Z') (clockRead : readClock rest = some reading)
    (noneLeft : reading.leftOver = false) :
    ∃ size : Int, readOffset (sign :: rest) = some (if sign == '-' then -size else size) ∧
      size =
        (if reading.hour * 3600 + reading.minute * 60 + reading.second = 0 then 0
          else (reading.hour * 3600 + reading.minute * 60 + reading.second) * 1000000 +
            reading.microsecond) := by
  rw [readOffset, clockRead]
  · simp only [Option.bind_eq_bind, Option.bind_some, noneLeft, Bool.false_eq_true, if_false]
    refine ⟨_, rfl, ?_⟩
    split <;> simp
  · exact noUniversal

/-- An offset is read as what is left of it, in either form. -/
theorem Offset.readOffset_iso (offset : Offset) :
    readOffset offset.iso = some offset.again.microseconds := by
  have bound := offset.valid
  unfold microsecondsPerDay at bound
  have noUniversal : (if offset.microseconds < 0 then '-' else '+') ≠ 'Z' := by
    split <;> decide
  have sign_eq : ((if offset.microseconds < 0 then '-' else '+') == '-') =
      decide (offset.microseconds < 0) := by
    split <;> simp_all
  have again_eq : offset.again.microseconds =
      if offset.microseconds.natAbs < 1000000 then 0 else offset.microseconds := by
    unfold again
    split <;> rfl
  have hours : offset.microseconds.natAbs / 1000000 / 3600 < 100 := by omega
  have minutes : offset.microseconds.natAbs / 1000000 / 60 % 60 < 100 := by omega
  have seconds : offset.microseconds.natAbs / 1000000 % 60 < 100 := by omega
  have fraction : offset.microseconds.natAbs % 1000000 < 1000000 := by omega
  rw [again_eq]
  unfold iso
  simp only [List.cons_append, List.append_assoc]
  generalize (if offset.microseconds < 0 then '-' else '+') = sign at noUniversal sign_eq ⊢
  split
  · obtain ⟨size, read, size_eq⟩ :=
      readOffset_of_readClock noUniversal (readClock_minutes hours minutes) rfl
    rw [List.append_nil, read, sign_eq]
    dsimp only at size_eq
    congr 1
    split at size_eq <;> simp only [decide_eq_true_eq] <;> omega
  · obtain ⟨size, read, size_eq⟩ :=
      readOffset_of_readClock noUniversal (readClock_seconds hours minutes seconds fraction) rfl
    rw [read, sign_eq]
    dsimp only at size_eq
    congr 1
    split at size_eq <;> simp only [decide_eq_true_eq] <;> omega

theorem Offset.mem_iso {offset : Offset} {character : Char} (member : character ∈ offset.iso) :
    character.isDigit = true ∨ character ∈ ['-', '+', ':', '.'] := by
  unfold iso at member
  simp only [List.mem_append, List.mem_cons] at member
  rcases member with ((sign | hour) | rfl | minute) | behind
  · rw [sign]
    split <;> exact Or.inr (by decide)
  · exact Or.inl (areDigits_paddedDigits _ _ character hour)
  · exact Or.inr (by decide)
  · exact Or.inl (areDigits_paddedDigits _ _ character minute)
  · split at behind
    · exact absurd behind List.not_mem_nil
    · simp only [List.mem_append, List.mem_cons] at behind
      rcases behind with (rfl | second) | fraction
      · exact Or.inr (by decide)
      · exact Or.inl (areDigits_paddedDigits _ _ character second)
      · exact (mem_isoFraction fraction).imp_right fun mark =>
          List.mem_cons_of_mem _ (List.mem_cons_of_mem _ mark)

theorem Offset.exists_sign (offset : Offset) :
    ∃ sign rest, offset.iso = sign :: rest ∧ startsOffset sign = true := by
  refine ⟨if offset.microseconds < 0 then '-' else '+', _, rfl, ?_⟩
  split <;> rfl

/-- A time of day with an offset behind it, if there is one. -/
theorem readTime_iso (time : TimeOfDay) (offset : Option Offset) :
    readTime (time.iso ++ isoOffset offset) =
      some (⟨time.hour, time.minute, time.second, time.microsecond, false⟩,
        offset.map fun offset => offset.again.microseconds) := by
  have clock : ∀ character ∈ time.iso, (!startsOffset character) = true := by
    intro character member
    rw [TimeOfDay.noOffset_of_mem_iso member]
    rfl
  cases offset with
  | none =>
      have taken : (time.iso ++ []).takeWhile (fun character => !startsOffset character) =
          time.iso := by
        rw [List.takeWhile_append_of_pos clock, List.takeWhile_nil, List.append_nil]
      have dropped : (time.iso ++ []).dropWhile (fun character => !startsOffset character) =
          [] := by
        rw [List.dropWhile_append_of_pos clock, List.dropWhile_nil]
      rw [isoOffset, readTime, taken, dropped, time.readClock_iso]
      rfl
  | some offset =>
      obtain ⟨sign, rest, shape, starts⟩ := offset.exists_sign
      have taken : (time.iso ++ offset.iso).takeWhile
          (fun character => !startsOffset character) = time.iso := by
        rw [List.takeWhile_append_of_pos clock, shape, List.takeWhile_cons, starts]
        simp
      have dropped : (time.iso ++ offset.iso).dropWhile
          (fun character => !startsOffset character) = offset.iso := by
        rw [List.dropWhile_append_of_pos clock, shape, List.dropWhile_cons, starts]
        simp
      have given : offset.iso.isEmpty = false := by
        rw [shape]
        rfl
      rw [isoOffset, readTime, taken, dropped, time.readClock_iso]
      simp only [Option.bind_eq_bind, Option.bind_some, given, Bool.false_eq_true, if_false]
      rw [offset.readOffset_iso]
      rfl

theorem dateLength?_iso (date : Date) (behind : List Char) :
    dateLength? (date.iso ++ behind) = some 10 := by
  obtain ⟨yearSmall, _, _⟩ := date.numbers_lt
  have length := date.length_iso
  obtain ⟨first, tail, shape, isDigit⟩ :=
    paddedDigits_head 2 date.month ('-' :: paddedDigits 2 date.day ++ behind)
  have whole : date.iso ++ behind = paddedDigits 4 date.year ++ '-' :: first :: tail := by
    unfold Date.iso
    rw [← shape]
    simp
  have yearLength : (paddedDigits 4 date.year).length = 4 :=
    length_paddedDigits 4 (by decide) yearSmall
  have separator : (date.iso ++ behind)[4]? = some '-' := by
    rw [whole, List.getElem?_append_right (by omega), yearLength]
    rfl
  have afterSeparator : (date.iso ++ behind)[5]? = some first := by
    rw [whole, List.getElem?_append_right (by omega), yearLength]
    rfl
  have noWeek : (first == 'W') = false := by
    rw [beq_eq_false_iff_ne]
    rintro rfl
    exact absurd isDigit Bool.false_ne_true
  have noShort : ((date.iso ++ behind).length == 7) = false := by
    rw [beq_eq_false_iff_ne, List.length_append, length]
    omega
  rw [dateLength?, noShort, separator, afterSeparator]
  simp [noWeek]

theorem Offset.ofMicroseconds_microseconds (offset : Offset) :
    Offset.ofMicroseconds offset.microseconds = .ok offset := by
  rw [ofMicroseconds, dif_pos offset.valid]

/-- A point in time is read back, with what is left of its offset. -/
theorem Timestamp.ofIso_iso (moment : Timestamp) :
    Timestamp.ofIso moment.iso = .ok { moment with offset := moment.offset.map (·.again) } := by
  obtain ⟨date, time, offset⟩ := moment
  have whole : Timestamp.iso ⟨date, time, offset⟩ =
      date.iso ++ 'T' :: (time.iso ++ isoOffset offset) := by
    unfold iso isoWith
    simp only [List.append_assoc, List.cons_append]
  have numbersRead :
      readTimestampNumbers (date.iso ++ 'T' :: (time.iso ++ isoOffset offset)) =
      some ((date.year, date.month, date.day),
        ⟨time.hour, time.minute, time.second, time.microsecond, false⟩,
        offset.map fun offset => offset.again.microseconds) := by
    rw [readTimestampNumbers, dateLength?_iso]
    simp only [Option.bind_eq_bind, Option.bind_some]
    rw [List.take_left' date.length_iso, List.drop_left' date.length_iso,
      date.readDateNumbers_iso]
    simp only [Option.bind_some]
    rw [readTime_iso]
    rfl
  have offsetRead : (offset.map fun offset => offset.again.microseconds).mapM
      Offset.ofMicroseconds = .ok (offset.map (·.again)) := by
    cases offset with
    | none => rfl
    | some offset =>
        change (Offset.ofMicroseconds offset.again.microseconds).map some = _
        rw [Offset.ofMicroseconds_microseconds]
        rfl
  rw [whole, Timestamp.ofIso, numbersRead]
  dsimp only
  rw [offsetRead, date.ofNumbers_numbers, time.ofNumbers_numbers]
  rfl

/-- A point in time comes back as it was, unless its offset is less than a second. -/
theorem Timestamp.ofIso_iso_eq_self_iff (moment : Timestamp) :
    Timestamp.ofIso moment.iso = .ok moment ↔
      ∀ offset, moment.offset = some offset →
        offset.microseconds = 0 ∨ 1000000 ≤ offset.microseconds.natAbs := by
  rw [moment.ofIso_iso]
  obtain ⟨date, time, offset⟩ := moment
  cases offset with
  | none => simp
  | some offset =>
      rw [Except.ok.injEq, Timestamp.mk.injEq]
      simp [offset.again_eq_self_iff]

theorem Timestamp.mem_iso {moment : Timestamp} {character : Char}
    (member : character ∈ moment.iso) :
    character.isDigit = true ∨ character ∈ ['-', '+', ':', '.', 'T'] := by
  unfold iso isoWith isoOffset at member
  simp only [List.mem_append, List.mem_cons] at member
  rcases member with (date | rfl | time) | offset
  · rcases moment.date.mem_iso date with isDigit | rfl
    · exact Or.inl isDigit
    · exact Or.inr (by decide)
  · exact Or.inr (by decide)
  · refine (TimeOfDay.mem_iso time).imp_right ?_
    intro mark
    simp only [List.mem_cons, List.not_mem_nil, or_false] at mark
    rcases mark with rfl | rfl <;> decide
  · split at offset
    · refine (Offset.mem_iso offset).imp_right ?_
      intro mark
      simp only [List.mem_cons, List.not_mem_nil, or_false] at mark
      rcases mark with rfl | rfl | rfl | rfl <;> decide
    · exact absurd offset List.not_mem_nil

end Calendar
end SchemaQuery
