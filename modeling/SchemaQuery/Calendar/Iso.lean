import SchemaQuery.Calendar.Timestamp
import SchemaQuery.Number.Literal

/-!
# Dates and times in ISO 8601 form

Writing always uses the extended form.  Reading also takes the basic form
without separators, week dates, any one character between date and time, a
comma for the decimal point, and offsets down to fractions of a second.
-/

namespace SchemaQuery
namespace Calendar

open Number (paddedDigits naturalOfDigits)

def Date.iso (date : Date) : List Char :=
  paddedDigits 4 date.year ++ '-' :: paddedDigits 2 date.month ++
    '-' :: paddedDigits 2 date.day

/-- Six digits of a second's fraction behind a point, or nothing for none. -/
def isoFraction (microsecond : Nat) : List Char :=
  if microsecond = 0 then [] else '.' :: paddedDigits 6 microsecond

def TimeOfDay.iso (time : TimeOfDay) : List Char :=
  paddedDigits 2 time.hour ++ ':' :: paddedDigits 2 time.minute ++
    ':' :: paddedDigits 2 time.second ++ isoFraction time.microsecond

/-- An offset as in `+02:00`; seconds are written only where there are some. -/
def Offset.iso (offset : Offset) : List Char :=
  let magnitude := offset.microseconds.natAbs
  let seconds := magnitude / 1000000
  let fraction := magnitude % 1000000
  (if offset.microseconds < 0 then '-' else '+') ::
    paddedDigits 2 (seconds / 3600) ++ ':' :: paddedDigits 2 (seconds / 60 % 60) ++
      (if seconds % 60 = 0 ∧ fraction = 0 then []
        else ':' :: paddedDigits 2 (seconds % 60) ++ isoFraction fraction)

def isoOffset : Option Offset → List Char
  | some offset => offset.iso
  | none => []

def Timestamp.isoWith (separator : Char) (timestamp : Timestamp) : List Char :=
  timestamp.date.iso ++ separator :: timestamp.time.iso ++ isoOffset timestamp.offset

/-- A timestamp as in `2024-02-29T10:30:00`. -/
def Timestamp.iso (timestamp : Timestamp) : List Char :=
  timestamp.isoWith 'T'

def takeDigits : (count : Nat) → List Char → Option (List Char × List Char)
  | 0, characters => some ([], characters)
  | count + 1, character :: rest =>
      if character.isDigit then
        (takeDigits count rest).map fun result => (character :: result.1, result.2)
      else none
  | _ + 1, [] => none

def readFixed (count : Nat) (characters : List Char) : Option (Nat × List Char) :=
  (takeDigits count characters).map fun result => (naturalOfDigits result.1, result.2)

def skipSeparator (separated : Bool) (characters : List Char) : Option (List Char) :=
  if separated then
    match characters with
    | '-' :: rest => some rest
    | _ => none
  else some characters

def readDateNumbers (characters : List Char) : Option (Nat × Nat × Nat) := do
  let (year, afterYear) ← readFixed 4 characters
  let separated := afterYear.head? == some '-'
  let rest := if separated then afterYear.drop 1 else afterYear
  match rest with
  | 'W' :: afterMark =>
      let (week, afterWeek) ← readFixed 2 afterMark
      if afterWeek.isEmpty then numbersOfWeek? year week 1
      else
        let dayText ← skipSeparator separated afterWeek
        let (weekday, _) ← readFixed 1 dayText
        numbersOfWeek? year week weekday
  | _ =>
      let (month, afterMonth) ← readFixed 2 rest
      let dayText ← skipSeparator separated afterMonth
      let (day, _) ← readFixed 2 dayText
      return (year, month, day)

/-- Numbers of a time of day, and whether something is left over after them. -/
structure ClockReading where
  hour : Nat
  minute : Nat
  second : Nat
  microsecond : Nat
  leftOver : Bool
deriving Repr, DecidableEq

def isLeftOver (characters : List Char) : Bool :=
  !characters.isEmpty && characters.head? != some '\x00'

/-- The fraction of a second, cut to microseconds. -/
def readFraction (characters : List Char) : Option (Nat × Bool) := do
  let count := min 6 characters.length
  let (digits, rest) ← takeDigits count characters
  let microsecond := naturalOfDigits digits * Number.powerOfTen (6 - count)
  return (microsecond, isLeftOver (rest.dropWhile Char.isDigit))

/-- Reads up to `fields` further two-digit numbers, in reverse. A colon after the first must stand
between all of them. -/
def readClockFields (separated : Option Bool) (read : List Nat) :
    (fields : Nat) → List Char → Option (List Nat × Nat × Bool)
  | 0, characters => do
      let (microsecond, leftOver) ← readFraction characters
      return (read, microsecond, leftOver)
  | fields + 1, characters => do
      let (number, rest) ← readFixed 2 characters
      let read := number :: read
      let separated := separated.getD (rest.head? == some ':')
      match rest with
      | [] => return (read, 0, false)
      | character :: following =>
          if following.isEmpty && character.toNat < 128 then
            return (read, 0, isLeftOver rest)
          else if separated && character == ':' then
            readClockFields (some separated) read fields following
          else if character == '.' || character == ',' then
            let (microsecond, leftOver) ← readFraction following
            return (read, microsecond, leftOver)
          else if separated then none
          else readClockFields (some separated) read fields rest

def readClock (characters : List Char) : Option ClockReading := do
  let (numbers, microsecond, leftOver) ← readClockFields none [] 3 characters
  match numbers.reverse with
  | [hour] => return ⟨hour, 0, 0, microsecond, leftOver⟩
  | [hour, minute] => return ⟨hour, minute, 0, microsecond, leftOver⟩
  | [hour, minute, second] => return ⟨hour, minute, second, microsecond, leftOver⟩
  | _ => none

def startsOffset (character : Char) : Bool :=
  character == '+' || character == '-' || character == 'Z'

def readOffset (characters : List Char) : Option Int := do
  match characters with
  | 'Z' :: rest => if isLeftOver rest then none else some 0
  | sign :: rest =>
      let reading ← readClock rest
      if reading.leftOver then none
      let seconds := reading.hour * 3600 + reading.minute * 60 + reading.second
      let size : Int := if seconds = 0 then 0 else seconds * 1000000 + reading.microsecond
      return if sign == '-' then -size else size
  | [] => none

def readTime (characters : List Char) : Option (ClockReading × Option Int) := do
  let offsetText := characters.dropWhile fun character => !startsOffset character
  let reading ← readClock (characters.takeWhile fun character => !startsOffset character)
  if offsetText.isEmpty then
    if reading.leftOver then none else return (reading, none)
  else
    let offset ← readOffset offsetText
    return (reading, some offset)

def dateLength? (characters : List Char) : Option Nat :=
  if characters.length == 7 then some 7
  else if characters[4]? == some '-' then
    if characters[5]? == some 'W' then
      if characters[8]? == some '-' then
        if characters.length == 9 then none
        else if characters[10]?.any Char.isDigit then some 8
        else some 10
      else some 8
    else some 10
  else if characters[4]? == some 'W' then
    let digitsEnd := 7 + ((characters.drop 7).takeWhile Char.isDigit).length
    if digitsEnd < 9 then some digitsEnd
    else if digitsEnd % 2 == 0 then some 7
    else some 8
  else some 8

def readTimestampNumbers (characters : List Char) :
    Option ((Nat × Nat × Nat) × ClockReading × Option Int) := do
  let length ← dateLength? characters
  let date ← readDateNumbers (characters.take length)
  match characters.drop length with
  | [] => return (date, ⟨0, 0, 0, 0, false⟩, none)
  | _ :: timeText =>
      let (reading, offset) ← readTime timeText
      return (date, reading, offset)

/-- Reads a date alone; the number of its bytes tells the form. -/
def Date.ofIso (characters : List Char) : Except Fault Date :=
  if [7, 8, 10].contains (String.ofList characters).utf8ByteSize then
    match readDateNumbers characters with
    | some (year, month, day) => Date.ofNumbers year month day
    | none => .error .malformed
  else .error .malformed

/-- Reads a timestamp: first the offset, then the date, then the time of day. -/
def Timestamp.ofIso (characters : List Char) : Except Fault Timestamp :=
  match readTimestampNumbers characters with
  | none => .error .malformed
  | some ((year, month, day), reading, size) => do
      let offset ← size.mapM Offset.ofMicroseconds
      let date ← Date.ofNumbers year month day
      let time ←
        TimeOfDay.ofNumbers reading.hour reading.minute reading.second reading.microsecond
      return ⟨date, time, offset⟩

end Calendar
end SchemaQuery
