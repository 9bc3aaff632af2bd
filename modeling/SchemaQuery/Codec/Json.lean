import SchemaQuery.Number.Literal
import SchemaQuery.Text.Quoted
import SchemaQuery.Value.Display

/-!
# JSON

Values as JSON text and back.  Writing is compact and uses ASCII alone.  Reading
answers, where the text is malformed, what was wrong and at which place.  Both
know the numbers `NaN`, `Infinity` and `-Infinity`.

Readers take the characters that are left and answer those left behind what was
read.  Where one stops, it names the characters from the offending one on; the
place is found from their number.
-/

namespace SchemaQuery
namespace Codec
namespace Json

def unitEscape (unit : Nat) : List Char :=
  '\\' :: 'u' :: Text.hexadecimal 4 unit

def writeCode (code : Nat) : List Char :=
  if code = 0x22 then ['\\', '"']
  else if code = 0x5C then ['\\', '\\']
  else if code = 0x08 then ['\\', 'b']
  else if code = 0x0C then ['\\', 'f']
  else if code = 0x0A then ['\\', 'n']
  else if code = 0x0D then ['\\', 'r']
  else if code = 0x09 then ['\\', 't']
  else if 0x20 ≤ code ∧ code ≤ 0x7E then [Char.ofNat code]
  else if code < 0x10000 then unitEscape code
  else
    unitEscape (0xD800 + (code - 0x10000) / 0x400) ++
      unitEscape (0xDC00 + (code - 0x10000) % 0x400)

def writeCodes (codes : List Nat) : List Char :=
  '"' :: codes.flatMap writeCode ++ ['"']

def writeText (text : String) : List Char :=
  writeCodes (text.toList.map Char.toNat)

def writeNumber : Number.Binary64 → List Char
  | .nan => "NaN".toList
  | .infinite true => "-Infinity".toList
  | .infinite false => "Infinity".toList
  | number => (Number.writeBinary64 number).toList

def separated (pieces : List (List Char)) : List Char :=
  [','].intercalate pieces

inductive Unwritable where
  | bytes
  | tooManyDigits
deriving Repr, DecidableEq

/-- An integer, which may not have too many digits. -/
def writeInteger (number : Int) : Except Unwritable (List Char) :=
  if Number.integerDigitLimit < (Number.digitsOf number.natAbs).length then
    .error .tooManyDigits
  else .ok (Number.writeInteger number).toList

mutual

/-- A value as JSON. Decimals and points in time are text; bytes have no form. -/
def write : Value → Except Unwritable (List Char)
  | .null => .ok "null".toList
  | .bool truth => .ok (if truth then "true".toList else "false".toList)
  | .int number => writeInteger number
  | .float number => .ok (writeNumber number)
  | .decimal digits => .ok (writeText digits)
  | .text content => .ok (writeText content)
  | .unpaired codes => .ok (writeCodes codes)
  | .bytes _ => .error .bytes
  | .date day => .ok (writeText (String.ofList day.iso))
  | .timestamp moment => .ok (writeText (String.ofList moment.iso))
  | .list items => do
      let pieces ← writeItems items
      return '[' :: separated pieces ++ [']']
  | .tuple items => do
      let pieces ← writeItems items
      return '[' :: separated pieces ++ [']']
  | .record entries => do
      let pieces ← writeEntries entries
      return '\x7b' :: separated pieces ++ ['\x7d']
  | .unpairedRecord entries => do
      let pieces ← writeUnpairedEntries entries
      return '\x7b' :: separated pieces ++ ['\x7d']

def writeItems : List Value → Except Unwritable (List (List Char))
  | [] => .ok []
  | item :: rest => do
      let written ← write item
      let others ← writeItems rest
      return written :: others

def writeEntries : List (String × Value) → Except Unwritable (List (List Char))
  | [] => .ok []
  | (key, value) :: rest => do
      let written ← write value
      let others ← writeEntries rest
      return (writeText key ++ ':' :: written) :: others

def writeUnpairedEntries : List (List Nat × Value) → Except Unwritable (List (List Char))
  | [] => .ok []
  | (key, value) :: rest => do
      let written ← write value
      let others ← writeUnpairedEntries rest
      return (writeCodes key ++ ':' :: written) :: others

end

inductive Problem where
  | noValue
  | noName
  | noColon
  | noComma
  | extraData
  | openText
  | controlCharacter
  | unknownEscape
  | brokenEscape
  | byteOrderMark
deriving Repr, DecidableEq

inductive Stop where
  | problem (problem : Problem) (left : List Char)
  | tooManyDigits (count : Nat)
deriving Repr, DecidableEq

/-- What a reader answers: its result and the characters behind it. -/
abbrev Reading (α : Type) := Except Stop (α × List Char)

def isSpace (character : Char) : Bool :=
  character == ' ' || character == '\t' || character == '\n' || character == '\r'

def skipSpace (characters : List Char) : List Char :=
  characters.dropWhile isSpace

/-- The code point for the character behind a backslash. -/
def simpleEscape? : Char → Option Nat
  | '"' => some 0x22
  | '\\' => some 0x5C
  | '/' => some 0x2F
  | 'b' => some 0x08
  | 'f' => some 0x0C
  | 'n' => some 0x0A
  | 'r' => some 0x0D
  | 't' => some 0x09
  | _ => none

def unitOfDigits? (first second third fourth : Char) : Option Nat := do
  let high ← Text.hexDigitValue? first
  let upper ← Text.hexDigitValue? second
  let lower ← Text.hexDigitValue? third
  let low ← Text.hexDigitValue? fourth
  return high * 4096 + upper * 256 + lower * 16 + low

/-- Reads up to the closing quote, each escape as one code. -/
def readCodes (opening : List Char) : List Char → Reading (List Nat)
  | [] => .error (.problem .openText opening)
  | '"' :: rest => .ok ([], rest)
  | '\\' :: 'u' :: rest =>
      match rest with
      | first :: second :: third :: fourth :: next :: following =>
          match unitOfDigits? first second third fourth with
          | some unit =>
              (readCodes opening (next :: following)).map fun result =>
                (unit :: result.1, result.2)
          | none => .error (.problem .brokenEscape ('u' :: rest))
      | _ => .error (.problem .brokenEscape ('u' :: rest))
  | ['\\'] => .error (.problem .openText opening)
  | '\\' :: letter :: rest =>
      match simpleEscape? letter with
      | some code =>
          (readCodes opening rest).map fun result => (code :: result.1, result.2)
      | none => .error (.problem .unknownEscape ('\\' :: letter :: rest))
  | character :: rest =>
      if character.toNat < 0x20 then
        .error (.problem .controlCharacter (character :: rest))
      else
        (readCodes opening rest).map fun result => (character.toNat :: result.1, result.2)

def isHighSurrogate (code : Nat) : Bool :=
  0xD800 ≤ code && code < 0xDC00

def isLowSurrogate (code : Nat) : Bool :=
  0xDC00 ≤ code && code < 0xE000

/-- Code points for codes: a surrogate pair becomes the character it stands for. -/
def joinSurrogates : List Nat → List Nat
  | [] => []
  | [code] => [code]
  | high :: low :: rest =>
      if isHighSurrogate high && isLowSurrogate low then
        (0x10000 + (high - 0xD800) * 0x400 + (low - 0xDC00)) :: joinSurrogates rest
      else high :: joinSurrogates (low :: rest)

def holdsSurrogate (codes : List Nat) : Bool :=
  codes.any fun code => isHighSurrogate code || isLowSurrogate code

def textOfCodes (codes : List Nat) : String :=
  String.ofList (codes.map Char.ofNat)

def valueOfCodes (codes : List Nat) : Value :=
  if holdsSurrogate codes then .unpaired codes else .text (textOfCodes codes)

def readText (characters : List Char) : Reading (List Nat) :=
  (readCodes ('"' :: characters) characters).map fun result =>
    (joinSurrogates result.1, result.2)

/-- Entries with one more. A name that is there keeps its place. -/
def insertEntry (name : List Nat) (value : Value) :
    List (List Nat × Value) → List (List Nat × Value)
  | [] => [(name, value)]
  | (other, old) :: rest =>
      if other = name then (other, value) :: rest
      else (other, old) :: insertEntry name value rest

def recordOfEntries (entries : List (List Nat × Value)) : Value :=
  if entries.any fun entry => holdsSurrogate entry.1 then .unpairedRecord entries
  else .record (entries.map fun entry => (textOfCodes entry.1, entry.2))

/-- The digits of a whole number without leading zeros, and what follows them. -/
def splitWhole : List Char → List Char × List Char
  | '0' :: rest => (['0'], rest)
  | characters => (characters.takeWhile Char.isDigit, characters.dropWhile Char.isDigit)

/-- The digits behind a decimal point, which needs some, and what follows them. -/
def splitFraction (characters : List Char) : List Char × List Char :=
  match characters with
  | '.' :: rest =>
      let digits := rest.takeWhile Char.isDigit
      if digits.isEmpty then ([], characters) else (digits, rest.dropWhile Char.isDigit)
  | _ => ([], characters)

/-- The exponent, if there is one with digits, and what follows it. -/
def splitExponent (characters : List Char) : Option Int × List Char :=
  match characters with
  | letter :: rest =>
      let (negative, magnitude) := Number.readSign rest
      let digits := magnitude.takeWhile Char.isDigit
      if (letter == 'e' || letter == 'E') && !digits.isEmpty then
        (some (Number.signed negative (Number.naturalOfDigits digits)),
          magnitude.dropWhile Char.isDigit)
      else (none, characters)
  | [] => (none, [])

def splitMinus : List Char → Bool × List Char
  | '-' :: rest => (true, rest)
  | characters => (false, characters)

/-- Reads a number.  One without fraction and exponent is an integer. -/
def readNumber (characters : List Char) : Reading Value :=
  let (negative, magnitude) := splitMinus characters
  let (whole, afterWhole) := splitWhole magnitude
  let (fraction, afterFraction) := splitFraction afterWhole
  let (exponent, rest) := splitExponent afterFraction
  if whole.isEmpty then .error (.problem .noValue characters)
  else if fraction.isEmpty && exponent.isNone then
    if Number.integerDigitLimit < whole.length then .error (.tooManyDigits whole.length)
    else .ok (.int (Number.signed negative (Number.naturalOfDigits whole)), rest)
  else
    let number := Number.Binary64.ofDecimal negative (Number.naturalOfDigits (whole ++ fraction))
      (exponent.getD 0 - fraction.length)
    .ok (.float number, rest)

def namedValues : List (List Char × Value) :=
  [("null".toList, .null), ("true".toList, .bool true), ("false".toList, .bool false),
    ("NaN".toList, .float .nan), ("Infinity".toList, .float (.infinite false)),
    ("-Infinity".toList, .float (.infinite true))]

def readPlain (characters : List Char) : Reading Value :=
  match namedValues.find? fun named => named.1.isPrefixOf characters with
  | some (name, value) => .ok (value, characters.drop name.length)
  | none => readNumber characters

mutual

/-- Reads a value.  The budget bounds the number of nested steps. -/
def readValue : (budget : Nat) → List Char → Reading Value
  | 0, characters => .error (.problem .noValue characters)
  | _ + 1, '"' :: rest =>
      (readText rest).map fun result => (valueOfCodes result.1, result.2)
  | budget + 1, '[' :: rest =>
      match skipSpace rest with
      | ']' :: following => .ok (.list [], following)
      | inside => readItems budget [] inside
  | budget + 1, '\x7b' :: rest =>
      match skipSpace rest with
      | '\x7d' :: following => .ok (.record [], following)
      | inside => readEntries budget [] inside
  | _ + 1, characters => readPlain characters

def readItems : (budget : Nat) → (before : List Value) → List Char → Reading Value
  | 0, _, characters => .error (.problem .noValue characters)
  | budget + 1, before, characters =>
      match readValue budget characters with
      | .error stop => .error stop
      | .ok (item, rest) =>
          match skipSpace rest with
          | ']' :: following => .ok (.list (item :: before).reverse, following)
          | ',' :: following => readItems budget (item :: before) (skipSpace following)
          | others => .error (.problem .noComma others)

/-- Reads the entries of a record from one of them on. -/
def readEntries :
    (budget : Nat) → (before : List (List Nat × Value)) → List Char → Reading Value
  | 0, _, characters => .error (.problem .noName characters)
  | budget + 1, before, '"' :: characters =>
      match readText characters with
      | .error stop => .error stop
      | .ok (name, afterName) =>
          match skipSpace afterName with
          | ':' :: afterColon =>
              match readValue budget (skipSpace afterColon) with
              | .error stop => .error stop
              | .ok (value, rest) =>
                  let entries := insertEntry name value before
                  match skipSpace rest with
                  | '\x7d' :: following => .ok (recordOfEntries entries, following)
                  | ',' :: following => readEntries budget entries (skipSpace following)
                  | others => .error (.problem .noComma others)
          | others => .error (.problem .noColon others)
  | _ + 1, _, characters => .error (.problem .noName characters)

end

/-- A character starts at most one value and one list. -/
def budgetFor (length : Nat) : Nat :=
  2 * length + 2

def readWhole (characters : List Char) : Except Stop Value :=
  if characters.head? == some '\ufeff' then .error (.problem .byteOrderMark characters)
  else
    match readValue (budgetFor characters.length) (skipSpace characters) with
    | .error stop => .error stop
    | .ok (value, rest) =>
        match skipSpace rest with
        | [] => .ok value
        | others => .error (.problem .extraData others)

/-- A place in a text; lines and columns are counted from 1. -/
structure Place where
  line : Nat
  column : Nat
  offset : Nat
deriving Repr, DecidableEq

def Place.behind (characters : List Char) : Place where
  line := characters.count '\n' + 1
  column := (characters.reverse.takeWhile (· != '\n')).length + 1
  offset := characters.length

inductive Fault where
  | malformed (problem : Problem) (place : Place)
  | tooManyDigits (count : Nat)
deriving Repr, DecidableEq

def read (characters : List Char) : Except Fault Value :=
  match readWhole characters with
  | .ok value => .ok value
  | .error (.tooManyDigits count) => .error (.tooManyDigits count)
  | .error (.problem problem left) =>
      .error (.malformed problem (Place.behind (characters.take (characters.length - left.length))))

end Json
end Codec
end SchemaQuery
