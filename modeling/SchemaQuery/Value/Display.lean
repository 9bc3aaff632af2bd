import SchemaQuery.Calendar.Iso
import SchemaQuery.Text.Quoted
import SchemaQuery.Value

/-!
# Values in messages

A value is shown in one of two forms.  The literal form tells values of
different types apart: text is quoted, and dates and other values without a
notation of their own are shown as the call that builds them.  The plain form
shows a scalar as one would write it down; nests have the same plain form as
literal form.
-/

namespace SchemaQuery
namespace Value

open Calendar (Date Timestamp Offset)

/-- The word by which messages name the type of a value. -/
def typeName : Value → String
  | .null => "NoneType"
  | .bool _ => "bool"
  | .int _ => "int"
  | .float _ => "float"
  | .decimal _ => "decimal.Decimal"
  | .text _ => "str"
  | .unpaired _ => "str"
  | .bytes _ => "bytes"
  | .date _ => "datetime.date"
  | .timestamp _ => "datetime.datetime"
  | .list _ => "list"
  | .tuple _ => "tuple"
  | .record _ => "dict"
  | .unpairedRecord _ => "dict"

def commaSeparated (items : List String) : String :=
  ", ".intercalate items

def durationLiteral (microseconds : Int) : String :=
  let perDay : Int := Calendar.microsecondsPerDay
  let days := microseconds.fdiv perDay
  let withinDay := (microseconds.fmod perDay).toNat
  let seconds := withinDay / 1000000
  let fraction := withinDay % 1000000
  let parts :=
    (if days = 0 then [] else ["days=" ++ Number.writeInteger days]) ++
    (if seconds = 0 then [] else ["seconds=" ++ Number.writeNatural seconds]) ++
    (if fraction = 0 then [] else ["microseconds=" ++ Number.writeNatural fraction])
  "datetime.timedelta(" ++ (if parts.isEmpty then "0" else commaSeparated parts) ++ ")"

def offsetLiteral (offset : Offset) : String :=
  if offset.microseconds = 0 then "datetime.timezone.utc"
  else "datetime.timezone(" ++ durationLiteral offset.microseconds ++ ")"

def dateLiteral (date : Date) : String :=
  "datetime.date(" ++
    commaSeparated ([date.year, date.month, date.day].map Number.writeNatural) ++ ")"

/-- A timestamp as a call, in which seconds and microseconds may be left out. -/
def timestampLiteral (moment : Timestamp) : String :=
  let time := moment.time
  let fine :=
    if time.microsecond ≠ 0 then [time.second, time.microsecond]
    else if time.second ≠ 0 then [time.second]
    else []
  let numbers :=
    [moment.date.year, moment.date.month, moment.date.day, time.hour, time.minute] ++ fine
  let offset :=
    match moment.offset with
    | some offset => ["tzinfo=" ++ offsetLiteral offset]
    | none => []
  "datetime.datetime(" ++
    commaSeparated (numbers.map Number.writeNatural ++ offset) ++ ")"

mutual

def literal : Value → String
  | .null => "None"
  | .bool truth => if truth then "True" else "False"
  | .int number => Number.writeInteger number
  | .float number => Number.writeBinary64 number
  | .decimal digits => "Decimal(" ++ Text.quoted digits ++ ")"
  | .text content => Text.quoted content
  | .unpaired codes => Text.quotedCodes codes
  | .bytes content => Text.quotedBytes content
  | .date day => dateLiteral day
  | .timestamp moment => timestampLiteral moment
  | .list items => "[" ++ commaSeparated (literals items) ++ "]"
  | .tuple [item] => "(" ++ literal item ++ ",)"
  | .tuple items => "(" ++ commaSeparated (literals items) ++ ")"
  | .record entries => "\x7b" ++ commaSeparated (entryLiterals entries) ++ "\x7d"
  | .unpairedRecord entries =>
      "\x7b" ++ commaSeparated (unpairedEntryLiterals entries) ++ "\x7d"

def literals : List Value → List String
  | [] => []
  | item :: rest => literal item :: literals rest

def entryLiterals : List (String × Value) → List String
  | [] => []
  | (key, value) :: rest =>
      (Text.quoted key ++ ": " ++ literal value) :: entryLiterals rest

def unpairedEntryLiterals : List (List Nat × Value) → List String
  | [] => []
  | (key, value) :: rest =>
      (Text.quotedCodes key ++ ": " ++ literal value) :: unpairedEntryLiterals rest

end

/-- The plain form of a value, with replacements for characters that text cannot hold. -/
def plain : Value → String
  | .text content => content
  | .unpaired codes => String.ofList (codes.map fun code =>
      if 0xD800 ≤ code && code ≤ 0xDFFF then '\ufffd' else Char.ofNat code)
  | .decimal digits => digits
  | .date day => String.ofList day.iso
  | .timestamp moment => String.ofList (moment.isoWith ' ')
  | value => literal value

/-- The entries of a record, by the plain forms of their keys. -/
def entries? : Value → Option (List (String × Value))
  | .record entries => some entries
  | .unpairedRecord entries =>
      some (entries.map fun entry => ((Value.unpaired entry.1).plain, entry.2))
  | _ => none

end Value
end SchemaQuery
