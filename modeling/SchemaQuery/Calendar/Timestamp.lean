import SchemaQuery.Calendar.Date

/-!
# Points in time

A timestamp is a date with a time of day to the microsecond.  It may say by how
much its clock differs from universal time.
-/

namespace SchemaQuery
namespace Calendar

def IsTimeOfDay (hour minute second microsecond : Nat) : Prop :=
  hour < 24 ∧ minute < 60 ∧ second < 60 ∧ microsecond < 1000000

instance (hour minute second microsecond : Nat) :
    Decidable (IsTimeOfDay hour minute second microsecond) := by
  unfold IsTimeOfDay
  infer_instance

structure TimeOfDay where
  hour : Nat
  minute : Nat
  second : Nat
  microsecond : Nat
  valid : IsTimeOfDay hour minute second microsecond
deriving DecidableEq, Repr

namespace TimeOfDay

def midnight : TimeOfDay :=
  ⟨0, 0, 0, 0, by decide⟩

instance : Inhabited TimeOfDay :=
  ⟨midnight⟩

/-- The time of day with the given numbers, with fewer than a million microseconds. -/
def ofNumbers (hour minute second microsecond : Nat) : Except Fault TimeOfDay :=
  if valid : IsTimeOfDay hour minute second microsecond then
    .ok ⟨hour, minute, second, microsecond, valid⟩
  else if 24 ≤ hour then .error .hour
  else if 60 ≤ minute then .error .minute
  else if 60 ≤ second then .error .second
  else .error .malformed

theorem ofNumbers_numbers (time : TimeOfDay) :
    ofNumbers time.hour time.minute time.second time.microsecond = .ok time := by
  simp [ofNumbers, time.valid]

end TimeOfDay

def microsecondsPerDay : Nat := 86400 * 1000000

/-- The difference of a clock from universal time, positive to the east. -/
structure Offset where
  microseconds : Int
  valid : microseconds.natAbs < microsecondsPerDay
deriving DecidableEq, Repr

namespace Offset

def universal : Offset :=
  ⟨0, by decide⟩

instance : Inhabited Offset :=
  ⟨universal⟩

/-- The offset of the given size, less than a day either way. -/
def ofMicroseconds (microseconds : Int) : Except Fault Offset :=
  if valid : microseconds.natAbs < microsecondsPerDay then .ok ⟨microseconds, valid⟩
  else .error (.offset microseconds)

end Offset

/-- A date with a time of day, with or without an offset. -/
structure Timestamp where
  date : Date
  time : TimeOfDay
  offset : Option Offset
deriving DecidableEq, Repr, Inhabited

namespace Timestamp

def startOf (date : Date) : Timestamp :=
  ⟨date, .midnight, none⟩

end Timestamp

end Calendar
end SchemaQuery
