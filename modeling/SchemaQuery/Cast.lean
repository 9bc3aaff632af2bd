import SchemaQuery.Schema.DataType
import SchemaQuery.Text.LetterCase
import SchemaQuery.Value.Display

/-!
# Casting values to data types

Requests and tokens carry values as they were written.  A caster turns such a
value into one of an attribute's data type.  Values that are no text are read
in their plain form, so that a number may stand where a text is expected and a
text where a number is.  Lookups and junctions hold keys, which are integers.
-/

namespace SchemaQuery

inductive CastFault where
  | noScalar (nest : Value)
  | booleanAsInteger
  | booleanAsNumber
  | fractional (number : Number.Binary64)
  | noInteger (written : Value)
  | tooManyDigits (count : Nat)
  | noNumber (written : Value)
  | tooLarge
  | noBoolean (raw : Value)
  | calendar (written : Value) (fault : Calendar.Fault)
deriving Inhabited

abbrev Caster := Value → Except CastFault Value

namespace Cast

/-- The text that stands for a value, without blank space at its ends. -/
def writtenForm : Value → Value
  | .unpaired codes =>
      let isBlankCode (code : Nat) : Bool := Text.blankCodes.contains code
      .unpaired ((codes.dropWhile isBlankCode).reverse.dropWhile isBlankCode).reverse
  | raw => .text (Text.trim raw.plain)

def toText : Caster
  | .record entries => .error (.noScalar (.record entries))
  | .unpairedRecord entries => .error (.noScalar (.unpairedRecord entries))
  | .list items => .error (.noScalar (.list items))
  | .tuple items => .error (.noScalar (.tuple items))
  | .unpaired codes => .ok (.unpaired codes)
  | raw => .ok (.text raw.plain)

def integerOfText (raw : Value) : Except CastFault Value :=
  match writtenForm raw with
  | .text content =>
      match Number.readInteger content.toList with
      | .ok number => .ok (.int number)
      | .error .malformed => .error (.noInteger (.text content))
      | .error (.tooManyDigits count) => .error (.tooManyDigits count)
  | written => .error (.noInteger written)

/-- An integer; of other numbers only those without a fraction. -/
def toInteger : Caster
  | .bool _ => .error .booleanAsInteger
  | .int number => .ok (.int number)
  | .float number =>
      match number.toInt? with
      | some whole => .ok (.int whole)
      | none => .error (.fractional number)
  | raw => integerOfText raw

def numberOfText (raw : Value) : Except CastFault Value :=
  match writtenForm raw with
  | .text content =>
      match Number.readBinary64 content.toList with
      | some number => .ok (.float number)
      | none => .error (.noNumber (.text content))
  | written => .error (.noNumber written)

def toNumber : Caster
  | .bool _ => .error .booleanAsNumber
  | .int number =>
      match Number.Binary64.ofInt? number with
      | some rounded => .ok (.float rounded)
      | none => .error .tooLarge
  | .float number => .ok (.float number)
  | raw => numberOfText raw

def trueWords : List String := ["true", "t", "1", "yes", "y"]

def falseWords : List String := ["false", "f", "0", "no", "n"]

/-- A flag, from one of the words for it in any case. -/
def toBoolean : Caster
  | .bool truth => .ok (.bool truth)
  | raw =>
      match writtenForm raw with
      | .text content =>
          let word := Text.lower content
          if trueWords.contains word then .ok (.bool true)
          else if falseWords.contains word then .ok (.bool false)
          else .error (.noBoolean raw)
      | _ => .error (.noBoolean raw)

/-- The characters of a written date or time, with a `T` for a surrogate between the two. -/
def calendarCharacters? : Value → Option (List Char)
  | .text content => some content.toList
  | .unpaired codes =>
      let isSurrogate (code : Nat) : Bool := 0xD800 ≤ code && code < 0xE000
      let place := codes.findIdx isSurrogate
      if codes.countP isSurrogate = 1 ∧ (place = 7 ∨ place = 8 ∨ place = 10) then
        some (codes.map fun code => if isSurrogate code then 'T' else Char.ofNat code)
      else none
  | _ => none

def timestampOfText (written : Value) : Except CastFault Calendar.Timestamp :=
  let spelled : Value :=
    match written with
    | .text content =>
        let characters := content.toList
        if characters.getLast? == some 'Z' then
          .text (String.ofList (characters.dropLast ++ "+00:00".toList))
        else written
    | .unpaired codes =>
        if codes.getLast? == some 'Z'.toNat then
          .unpaired (codes.dropLast ++ "+00:00".toList.map Char.toNat)
        else written
    | _ => written
  match calendarCharacters? spelled with
  | some characters =>
      match Calendar.Timestamp.ofIso characters with
      | .ok moment => .ok moment
      | .error fault => .error (.calendar spelled fault)
  | none => .error (.calendar spelled .malformed)

def toTimestamp : Caster
  | .timestamp moment => .ok (.timestamp moment)
  | .date day => .ok (.timestamp (.startOf day))
  | raw => (timestampOfText (writtenForm raw)).map .timestamp

/-- Whether a written date has a time behind it. -/
def holdsTime : Value → Bool
  | .text content => content.toList.any fun character => character == 'T' || character == ' '
  | .unpaired codes => codes.any fun code => code == 'T'.toNat || code == ' '.toNat
  | _ => false

/-- A date; of a timestamp the day is kept. -/
def toDate : Caster
  | .timestamp moment => .ok (.date moment.date)
  | .date day => .ok (.date day)
  | raw =>
      let written := writtenForm raw
      if holdsTime written then
        (timestampOfText written).map fun moment => .date moment.date
      else
        match written with
        | .text content =>
            match Calendar.Date.ofIso content.toList with
            | .ok day => .ok (.date day)
            | .error fault => .error (.calendar written fault)
        | _ => .error (.calendar written .malformed)

/-- The caster that comes with a data type. -/
def standard : DataType → Caster
  | .string => toText
  | .text => toText
  | .int => toInteger
  | .float => toNumber
  | .bool => toBoolean
  | .datetime => toTimestamp
  | .date => toDate
  | .lookup => toInteger
  | .junction => toInteger

end Cast

namespace CastFault

def digitLimitMessage (count : Nat) : String :=
  "Exceeds the limit (4300 digits) for integer string conversion: value has " ++
    Number.writeNatural count ++
    " digits; use sys.set_int_max_str_digits() to increase the limit"

def calendarMessage (written : Value) : Calendar.Fault → String
  | .malformed => "Invalid isoformat string: " ++ written.literal
  | .year number => "year " ++ Number.writeNatural number ++ " is out of range"
  | .month => "month must be in 1..12"
  | .day => "day is out of range for month"
  | .hour => "hour must be in 0..23"
  | .minute => "minute must be in 0..59"
  | .second => "second must be in 0..59"
  | .offset microseconds =>
      "offset must be a timedelta strictly between -timedelta(hours=24) and " ++
        "timedelta(hours=24), not " ++ Value.durationLiteral microseconds ++ "."

def shownCharacters : Nat := 200

def message : CastFault → String
  | .noScalar nest => "expected a scalar, got " ++ nest.typeName
  | .booleanAsInteger => "expected an integer, got a boolean"
  | .booleanAsNumber => "expected a number, got a boolean"
  | .fractional number => Number.writeBinary64 number ++ " is not an integer"
  | .noInteger written =>
      "invalid literal for int() with base 10: " ++
        String.ofList (written.literal.toList.take shownCharacters)
  | .tooManyDigits count => digitLimitMessage count
  | .noNumber written => "could not convert string to float: " ++ written.literal
  | .tooLarge => "int too large to convert to float"
  | .noBoolean raw => raw.literal ++ " is not a boolean"
  | .calendar written fault => calendarMessage written fault

end CastFault

end SchemaQuery
