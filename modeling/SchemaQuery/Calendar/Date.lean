/-!
# Calendar dates

Dates of the Gregorian calendar, extended backwards to year 1, up to the end of
year 9999.  A `Date` carries the proof that its day exists.
-/

namespace SchemaQuery
namespace Calendar

def isLeapYear (year : Nat) : Bool :=
  year % 4 == 0 && (year % 100 != 0 || year % 400 == 0)

/-- The number of days in a month; months are counted from 1. -/
def daysInMonth (year month : Nat) : Nat :=
  if month == 2 then
    if isLeapYear year then 29 else 28
  else if month == 4 || month == 6 || month == 9 || month == 11 then 30
  else 31

theorem daysInMonth_pos (year month : Nat) : 0 < daysInMonth year month := by
  unfold daysInMonth
  split
  · split <;> decide
  · split <;> decide

def IsDate (year month day : Nat) : Prop :=
  1 ≤ year ∧ year ≤ 9999 ∧ 1 ≤ month ∧ month ≤ 12 ∧ 1 ≤ day ∧ day ≤ daysInMonth year month

instance (year month day : Nat) : Decidable (IsDate year month day) := by
  unfold IsDate
  infer_instance

structure Date where
  year : Nat
  month : Nat
  day : Nat
  valid : IsDate year month day
deriving DecidableEq, Repr

/-- Why numbers name no day, time of day or difference from universal time. -/
inductive Fault where
  | malformed
  | year (year : Nat)
  | month
  | day
  | hour
  | minute
  | second
  | offset (microseconds : Int)
deriving Repr, DecidableEq

namespace Date

instance : Inhabited Date :=
  ⟨⟨1, 1, 1, by decide⟩⟩

def ofNumbers (year month day : Nat) : Except Fault Date :=
  if valid : IsDate year month day then .ok ⟨year, month, day, valid⟩
  else if year < 1 ∨ 9999 < year then .error (.year year)
  else if month < 1 ∨ 12 < month then .error .month
  else .error .day

theorem ofNumbers_numbers (date : Date) :
    ofNumbers date.year date.month date.day = .ok date := by
  simp [ofNumbers, date.valid]

def next? (date : Date) : Option Date :=
  if inMonth : date.day + 1 ≤ daysInMonth date.year date.month then
    some ⟨date.year, date.month, date.day + 1, by
      obtain ⟨_, _, _, _, _, _⟩ := date.valid
      exact ⟨by assumption, by assumption, by assumption, by assumption, by omega, inMonth⟩⟩
  else if inYear : date.month + 1 ≤ 12 then
    some ⟨date.year, date.month + 1, 1, by
      obtain ⟨_, _, _, _, _, _⟩ := date.valid
      exact ⟨by assumption, by assumption, by omega, inYear, by omega,
        daysInMonth_pos _ _⟩⟩
  else if inCalendar : date.year + 1 ≤ 9999 then
    some ⟨date.year + 1, 1, 1, by
      exact ⟨by omega, inCalendar, by omega, by omega, by omega, daysInMonth_pos _ _⟩⟩
  else none

end Date

def daysBeforeYear (year : Nat) : Nat :=
  let past := year - 1
  past * 365 + past / 4 - past / 100 + past / 400

def weekdayOfNewYear (year : Nat) : Nat :=
  daysBeforeYear year % 7

def daysInYear (year : Nat) : Nat :=
  if isLeapYear year then 366 else 365

def hasLongWeekYear (year : Nat) : Bool :=
  weekdayOfNewYear year == 3 || (weekdayOfNewYear year == 2 && isLeapYear year)

/-- Month and day of the day with this number in its year, from 0. -/
def monthAndDay (year : Nat) : (months month dayNumber : Nat) → Nat × Nat
  | 0, month, dayNumber => (month, dayNumber + 1)
  | months + 1, month, dayNumber =>
      if dayNumber < daysInMonth year month then (month, dayNumber + 1)
      else monthAndDay year months (month + 1) (dayNumber - daysInMonth year month)

/-- Year, month and day of a day of a week. Week 1 holds the first Thursday of the year. -/
def numbersOfWeek? (year week weekday : Nat) : Option (Nat × Nat × Nat) :=
  let lastWeek := if hasLongWeekYear year then 53 else 52
  if week < 1 || lastWeek < week || weekday < 1 || 7 < weekday then none
  else if year = 0 then some (1, 0, weekday)
  else
    let newYear := weekdayOfNewYear year
    let firstMonday : Int := if newYear ≤ 3 then -newYear else 7 - (newYear : Int)
    let dayNumber : Int := firstMonday + (week - 1) * 7 + (weekday - 1)
    if dayNumber < 0 then
      let previous := year - 1
      some (previous, monthAndDay previous 12 1 ((daysInYear previous : Int) + dayNumber).toNat)
    else if dayNumber < daysInYear year then
      some (year, monthAndDay year 12 1 dayNumber.toNat)
    else
      some (year + 1, monthAndDay (year + 1) 12 1 (dayNumber - daysInYear year).toNat)

end Calendar
end SchemaQuery
