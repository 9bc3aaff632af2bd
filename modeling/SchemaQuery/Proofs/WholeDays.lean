import SchemaQuery.Proofs.Database
import SchemaQuery.Proofs.TypedConstraints

/-!
# Rows of one day

A filter by a day asks for what lies between two points in time: the start of the day, which
belongs to it, and the start of the next day, which does not.  Points in time are ordered by their
numbers from the year down, while the next day is found by counting up, over the ends of months and
years.  This file proves that the two belong together: just the points in time of that day lie
between, and the opposite filter asks for all others, although it has bounds of its own.
-/

namespace SchemaQuery

namespace Calendar

def Date.numbers (date : Date) : List Nat :=
  [date.year, date.month, date.day]

def TimeOfDay.numbers (time : TimeOfDay) : List Nat :=
  [time.hour, time.minute, time.second, time.microsecond]

/-- The numbers of a point in time, from the year down, as its own clock shows them. -/
def Timestamp.numbers (moment : Timestamp) : List Nat :=
  moment.date.numbers ++ moment.time.numbers

/-- How points in time are ordered: the first number in which they differ decides. -/
def Timestamp.order (one other : Timestamp) : Ordering :=
  compare one.numbers other.numbers

namespace Date

def Precedes (one other : Date) : Prop :=
  one.year < other.year ∨ one.year = other.year ∧
    (one.month < other.month ∨ one.month = other.month ∧ one.day < other.day)

theorem eq_iff {one other : Date} :
    one = other ↔ (one.year, one.month, one.day) = (other.year, other.month, other.day) := by
  cases one
  cases other
  simp

theorem eq_of_not_precedes {one other : Date} (notBefore : ¬one.Precedes other)
    (notBehind : ¬other.Precedes one) : one = other := by
  unfold Precedes at notBefore notBehind
  rw [eq_iff, Prod.mk.injEq, Prod.mk.injEq]
  omega

theorem not_precedes_self (date : Date) : ¬date.Precedes date := by
  unfold Precedes
  omega

/-- What comes before the next day does not come behind the day itself. -/
theorem precedes_next_iff {day next : Date} (follows : day.next? = some next) (other : Date) :
    other.Precedes next ↔ ¬day.Precedes other := by
  have dayValid := day.valid
  have otherValid := other.valid
  unfold IsDate at dayValid otherValid
  have inSameMonth : other.year = day.year → other.month = day.month →
      other.day ≤ daysInMonth day.year day.month := by
    intro sameYear sameMonth
    rw [← sameYear, ← sameMonth]
    exact otherValid.2.2.2.2.2
  unfold Precedes
  unfold next? at follows
  split at follows
  · obtain rfl := Option.some.inj follows
    dsimp only
    omega
  · -- No day of the month is left, and days of the next one are counted from its first.
    split at follows
    · obtain rfl := Option.some.inj follows
      dsimp only
      omega
    · split at follows
      · obtain rfl := Option.some.inj follows
        dsimp only
        omega
      · simp at follows

theorem compare_numbers_eq_lt {one other : Date} :
    compare one.numbers other.numbers = .lt ↔ one.Precedes other := by
  simp [numbers, Precedes, List.compare_cons_cons, Ordering.then_eq_lt, Nat.compare_eq_lt]

end Date

/-- A point in time is before a day if its date is. -/
theorem Timestamp.order_startOf_eq_lt {moment : Timestamp} {day : Date} :
    moment.order (startOf day) = .lt ↔ moment.date.Precedes day := by
  have notEarlier : compare moment.time.numbers TimeOfDay.midnight.numbers ≠ .lt := by
    simp [TimeOfDay.numbers, TimeOfDay.midnight, List.compare_cons_cons, Ordering.then_eq_lt,
      Nat.compare_eq_lt]
  rw [← Date.compare_numbers_eq_lt]
  simp [order, numbers, startOf, Date.numbers, List.compare_cons_cons, Ordering.then_eq_lt,
    notEarlier]

end Calendar

/-- The point in time that a column without offsets holds. -/
def Value.moment? : Value → Option Calendar.Timestamp
  | .date day => some (.startOf day)
  | .timestamp moment => if moment.offset = none then some moment else none
  | _ => none

namespace Sql

/-- Whether a database orders the points in time in a column by their numbers. -/
def Database.OrdersMoments (database : Database) (column : Column) : Prop :=
  ∀ ⦃one other : Value⦄ ⦃first second : Calendar.Timestamp⦄, one.moment? = some first →
    other.moment? = some second →
      database.compare column one other = first.order second

section Bounds

variable {database : Database} {column : Column} (orders : database.OrdersMoments column)
  {value : Value} {moment : Calendar.Timestamp} (isMoment : value.moment? = some moment)
  (day : Calendar.Date)

include orders isMoment

theorem compared_startOf (comparison : Comparison) :
    database.compared comparison column value (.timestamp (.startOf day)) =
      .ofBool (comparison.accepts (moment.order (.startOf day))) := by
  have present : value.isNull = false := by
    cases value with
    | null => exact nomatch isMoment
    | _ => rfl
  unfold Database.compared
  rw [orders isMoment rfl, present]
  rfl

theorem compared_less_startOf :
    database.compared .less column value (.timestamp (.startOf day)) = .holds ↔
      moment.date.Precedes day := by
  rw [compared_startOf orders isMoment, Truth.ofBool_eq_holds,
    ← Calendar.Timestamp.order_startOf_eq_lt]
  exact Ordering.isLT_iff_eq_lt

theorem compared_greaterOrEqual_startOf :
    database.compared .greaterOrEqual column value (.timestamp (.startOf day)) = .holds ↔
      ¬moment.date.Precedes day := by
  rw [compared_startOf orders isMoment, Truth.ofBool_eq_holds,
    ← Calendar.Timestamp.order_startOf_eq_lt]
  exact Ordering.isGE_iff_ne_lt

end Bounds

namespace Condition

/-- The points in time from the start of one day to that of another. -/
def within (column : Column) (day next : Calendar.Date) : Condition :=
  .all [.compare .greaterOrEqual column (.timestamp (.startOf day)),
    .compare .less column (.timestamp (.startOf next))]

/-- The points in time before the start of one day, and from that of another on. -/
def outside (column : Column) (day next : Calendar.Date) : Condition :=
  .any [.compare .less column (.timestamp (.startOf day)),
    .compare .greaterOrEqual column (.timestamp (.startOf next))]

variable {database : Database} {column : Column} (orders : database.OrdersMoments column)
  {row : Tuple} {moment : Calendar.Timestamp} (isMoment : (row.value column).moment? = some moment)
  {day next : Calendar.Date} (follows : day.next? = some next)

include orders isMoment follows

theorem within_holds_iff :
    (within column day next).truth database row = .holds ↔ moment.date = day := by
  have starts := compared_greaterOrEqual_startOf orders isMoment day
  have ends := compared_less_startOf orders isMoment next
  rw [Calendar.Date.precedes_next_iff follows] at ends
  unfold within
  rw [truth_all, List.map_cons, List.map_singleton, Truth.all_cons, Truth.all_cons, Truth.all_nil,
    Truth.and_holds, Truth.and_eq_holds, truth, truth, starts, ends]
  constructor
  · rintro ⟨notBefore, notBehind⟩
    exact Calendar.Date.eq_of_not_precedes notBefore notBehind
  · rintro rfl
    exact ⟨moment.date.not_precedes_self, moment.date.not_precedes_self⟩

theorem outside_holds_iff :
    (outside column day next).truth database row = .holds ↔ moment.date ≠ day := by
  have ends := compared_less_startOf orders isMoment day
  have starts := compared_greaterOrEqual_startOf orders isMoment next
  rw [Calendar.Date.precedes_next_iff follows, not_not] at starts
  unfold outside
  rw [truth_any, List.map_cons, List.map_singleton, Truth.any_cons, Truth.any_cons, Truth.any_nil,
    Truth.or_fails, Truth.or_eq_holds, truth, truth, ends, starts]
  constructor
  · rintro (before | behind) rfl
    · exact moment.date.not_precedes_self before
    · exact moment.date.not_precedes_self behind
  · intro differs
    by_contra neither
    rw [not_or] at neither
    exact differs (Calendar.Date.eq_of_not_precedes neither.1 neither.2)

end Condition

end Sql

namespace Operator

open Sql (Column Condition)

variable {value : Value} {day next : Calendar.Date} (isDay : dayOf value = .ok day)
  (follows : day.next? = some next) (column : Column) (others : List Value)

include isDay follows

theorem dayBounds_eq :
    dayBounds (value :: others) =
      .ok (.timestamp (.startOf day), .timestamp (.startOf next)) := by
  unfold dayBounds first
  dsimp only [bind, Except.bind]
  rw [isDay]
  dsimp only
  rw [follows]
  rfl

theorem onDay_eq : onDay column (value :: others) = .ok (.within column day next) := by
  unfold onDay
  rw [dayBounds_eq isDay follows]
  rfl

theorem offDay_eq : offDay column (value :: others) = .ok (.outside column day next) := by
  unfold offDay
  rw [dayBounds_eq isDay follows]
  rfl

end Operator

/-- A value that has been cast to a type with days is on a day. -/
theorem Cast.exists_dayOf {dataType : DataType} (hasDays : dataType ∈ Operators.dayTypes)
    {written value : Value} (cast : Cast.standard dataType written = .ok value) :
    ∃ day, Operator.dayOf value = .ok day ∧
      (value = .date day ∨ ∃ moment, value = .timestamp moment ∧ moment.date = day) := by
  rcases List.mem_pair.1 hasDays with rfl | rfl
  · obtain ⟨day, rfl⟩ := isDate_of_toDate cast
    exact ⟨day, rfl, Or.inl rfl⟩
  · obtain ⟨moment, rfl⟩ := isTimestamp_of_toTimestamp cast
    exact ⟨moment.date, rfl, Or.inr ⟨moment, rfl, rfl⟩⟩

namespace ResolvedFilter

open Sql

/-- The filter for the day of a value asks for the points in time with the same year, month and day,
and the opposite one for all others. Only the last day of the calendar does not end. -/
theorem days_are_selected_whole {database : Database} {column : Column}
    (orders : database.OrdersMoments column) (target : ResolvedPath) (combination : Combination)
    {dataType : DataType} (hasDays : dataType ∈ Operators.dayTypes) {written value : Value}
    (cast : Cast.standard dataType written = .ok value) (others : List Value) :
    let condition (operator : String) : Except Fault Condition :=
      condition .standard ⟨target, combination, [⟨operator, value :: others⟩]⟩ column
    ∃ day : Calendar.Date,
      (value = .date day ∨ ∃ moment, value = .timestamp moment ∧ moment.date = day) ∧
      ((day.year, day.month, day.day) ≠ (9999, 12, 31) →
        ∃ onDay offDay, condition "dateIs" = .ok onDay ∧ condition "dateIsNot" = .ok offDay ∧
          ∀ (row : Tuple) (moment : Calendar.Timestamp),
            (row.value column).moment? = some moment →
              (onDay.truth database row = .holds ↔
                (moment.date.year, moment.date.month, moment.date.day) =
                  (day.year, day.month, day.day)) ∧
              (offDay.truth database row = .holds ↔ onDay.truth database row ≠ .holds)) := by
  intro condition
  obtain ⟨day, isDay, isOf⟩ := Cast.exists_dayOf hasDays cast
  refine ⟨day, isOf, fun notLast => ?_⟩
  obtain ⟨next, follows⟩ : ∃ next, day.next? = some next := by
    rw [← Option.isSome_iff_exists, Option.isSome_iff_ne_none]
    exact fun isLast => notLast (day.next?_eq_none_iff.1 isLast)
  have onMade := Operator.onDay_eq isDay follows column others
  have offMade := Operator.offDay_eq isDay follows column others
  refine ⟨.within column day next, .outside column day next, (condition_singleton ..).trans onMade,
    (condition_singleton ..).trans offMade, fun row moment isMoment => ?_⟩
  have onIff := Condition.within_holds_iff orders isMoment follows
  have offIff := Condition.outside_holds_iff orders isMoment follows
  exact ⟨onIff.trans Calendar.Date.eq_iff, offIff.trans onIff.not.symm⟩

def clockReader : Database where
  compare _ := compareOn fun value => (value.moment?.map Calendar.Timestamp.numbers).getD []
  ordered _ := inferInstance
  missingFirst _ := true
  isLike _ _ _ := false
  lowered value := value
  lowered_null := rfl

theorem ordersMoments_clockReader (column : Column) : clockReader.OrdersMoments column := by
  intro one other first second isFirst isSecond
  unfold clockReader compareOn
  dsimp only
  rw [isFirst, isSecond]
  rfl

def timeOfNote : ResolvedPath where
  path := "written"
  relationship := ""
  steps := []
  leaf := (Attribute.ofColumn "written" .datetime).load "notes"

def writtenAt (moment : Calendar.Timestamp) : Tuple := ⟨fun _ => .timestamp moment, fun _ => rfl⟩

def leapDay : Calendar.Date := ⟨2028, 2, 29, by decide⟩

def dayBehind : Calendar.Date := ⟨2028, 3, 1, by decide⟩

/-- The last microsecond of a leap day, by a clock ahead of universal time. -/
def lastOfLeapDay : Calendar.Timestamp :=
  ⟨leapDay, ⟨23, 59, 59, 999999, by decide⟩, some ⟨7200000000, by decide⟩⟩

theorem cast_lastOfLeapDay :
    Cast.standard .datetime (.text "2028-02-29T23:59:59.999999+02:00") =
      .ok (.timestamp lastOfLeapDay) := by
  have written : (Cast.timestampOfText
      (Cast.writtenForm (.text "2028-02-29T23:59:59.999999+02:00"))).toOption =
        some lastOfLeapDay := by decide +kernel
  unfold Cast.standard Cast.toTimestamp
  dsimp only
  cases made : Cast.timestampOfText
      (Cast.writtenForm (.text "2028-02-29T23:59:59.999999+02:00")) with
  | error fault => simp [made, Except.toOption] at written
  | ok moment =>
      rw [made] at written
      obtain rfl := Option.some.inj written
      rfl

/-- The whole leap day is asked for by its last microsecond. -/
theorem leap_day_is_selected_whole :
    Cast.standard .datetime (.text "2028-02-29T23:59:59.999999+02:00") =
        .ok (.timestamp lastOfLeapDay) ∧
      ∃ onDay offDay,
        condition .standard ⟨timeOfNote, .all, [⟨"dateIs", [.timestamp lastOfLeapDay]⟩]⟩
          ⟨.root "notes", "written"⟩ = .ok onDay ∧
        condition .standard ⟨timeOfNote, .all, [⟨"dateIsNot", [.timestamp lastOfLeapDay]⟩]⟩
          ⟨.root "notes", "written"⟩ = .ok offDay ∧
        onDay.truth clockReader (writtenAt (.startOf leapDay)) = .holds ∧
        onDay.truth clockReader (writtenAt { lastOfLeapDay with offset := none }) = .holds ∧
        onDay.truth clockReader (writtenAt (.startOf dayBehind)) ≠ .holds ∧
        offDay.truth clockReader (writtenAt (.startOf dayBehind)) = .holds := by
  have cast := cast_lastOfLeapDay
  obtain ⟨day, isOf, selected⟩ := days_are_selected_whole
    (ordersMoments_clockReader ⟨.root "notes", "written"⟩) timeOfNote .all (by decide) cast []
  obtain rfl : leapDay = day := by
    rcases isOf with isDate | ⟨moment, isMoment, rfl⟩
    · exact nomatch isDate
    · rw [← Value.timestamp.inj isMoment]
      rfl
  obtain ⟨onDay, offDay, onMade, offMade, tells⟩ := selected (by decide)
  have atStart := tells (writtenAt (.startOf leapDay)) _ rfl
  have atEnd := tells (writtenAt { lastOfLeapDay with offset := none }) _ rfl
  have behind := tells (writtenAt (.startOf dayBehind)) _ rfl
  have notOn : onDay.truth clockReader (writtenAt (.startOf dayBehind)) ≠ .holds :=
    fun holds => absurd (behind.1.1 holds) (by decide)
  exact ⟨cast, onDay, offDay, onMade, offMade, atStart.1.2 rfl, atEnd.1.2 rfl, notOn,
    behind.2.2 notOn⟩

end ResolvedFilter
end SchemaQuery
