import SchemaQuery.Number.Shortest
import SchemaQuery.Text.Blank
import SchemaQuery.Text.Digit

/-!
# Numbers in text

Reading and writing integers and double-precision numbers.  Readers accept the
decimal digits of every script, single underscores between digits and blank
space around the number.  Writers use ASCII alone.
-/

namespace SchemaQuery
namespace Number

/-- Blank space that may surround a number, unlike the four record separators of ASCII. -/
def isSurroundingSpace (character : Char) : Bool :=
  Text.isBlank character && !(0x1C ≤ character.toNat && character.toNat ≤ 0x1F)

def prepared (characters : List Char) : List Char :=
  let trimmed :=
    ((characters.dropWhile isSurroundingSpace).reverse.dropWhile isSurroundingSpace).reverse
  trimmed.map fun character =>
    match Text.digitValue? character with
    | some value => Nat.digitChar value
    | none => character

/-- The digits at the start of some characters, single underscores between them, and the rest. -/
def readDigits : (afterDigit : Bool) → List Char → Option (List Char × List Char)
  | afterDigit, [] => if afterDigit then some ([], []) else none
  | afterDigit, character :: rest =>
      if character.isDigit then
        (readDigits true rest).map fun result => (character :: result.1, result.2)
      else if character == '_' then
        if afterDigit then readDigits false rest else none
      else if afterDigit then some ([], character :: rest)
      else none

def naturalOfDigits (digits : List Char) : Nat :=
  digits.foldl (fun number digit => 10 * number + (digit.toNat - '0'.toNat)) 0

/-- How many digits an integer may be written with. -/
def integerDigitLimit : Nat := 4300

/-- Why a text is not read as an integer. -/
inductive IntegerFault where
  | malformed
  | tooManyDigits (count : Nat)
deriving Repr, DecidableEq

def readSign : List Char → Bool × List Char
  | '-' :: rest => (true, rest)
  | '+' :: rest => (false, rest)
  | characters => (false, characters)

def signed (negative : Bool) (magnitude : Nat) : Int :=
  if negative then -magnitude else magnitude

/-- Reads an integer.  The limit on digits is checked before what follows them. -/
def readInteger (characters : List Char) : Except IntegerFault Int :=
  let (negative, magnitude) := readSign (prepared characters)
  match readDigits false magnitude with
  | none => .error .malformed
  | some (digits, rest) =>
      if integerDigitLimit < digits.length then .error (.tooManyDigits digits.length)
      else if rest.isEmpty then .ok (signed negative (naturalOfDigits digits))
      else .error .malformed

/-- Digits that may be missing altogether. -/
def readOptionalDigits (characters : List Char) : Option (List Char × List Char) :=
  match characters with
  | character :: _ =>
      if character.isDigit then readDigits false characters else some ([], characters)
  | [] => some ([], [])

/-- The exponent at the end of a number: a letter, a sign and digits. -/
def readExponent (characters : List Char) : Option Int :=
  match characters with
  | [] => some 0
  | letter :: rest =>
      if letter == 'e' || letter == 'E' then
        let (negative, magnitude) := readSign rest
        match readDigits false magnitude with
        | some (digits, []) => some (signed negative (naturalOfDigits digits))
        | _ => none
      else none

/-- Reads an unsigned decimal number with an optional point and exponent. -/
def readDecimal (negative : Bool) (characters : List Char) : Option Binary64 := do
  let (whole, afterWhole) ← readOptionalDigits characters
  let (fraction, afterFraction) ←
    match afterWhole with
    | '.' :: rest => readOptionalDigits rest
    | rest => some ([], rest)
  if whole.isEmpty && fraction.isEmpty then none
  let exponent ← readExponent afterFraction
  return .ofDecimal negative (naturalOfDigits (whole ++ fraction)) (exponent - fraction.length)

def readBinary64 (characters : List Char) : Option Binary64 :=
  let (negative, magnitude) := readSign (prepared characters)
  let name := String.ofList (magnitude.map Char.toLower)
  if name == "inf" || name == "infinity" then some (.infinite negative)
  else if name == "nan" then some .nan
  else readDecimal negative magnitude

def digitsOf (number : Nat) : List Char :=
  Nat.toDigits 10 number

def paddedDigits (width number : Nat) : List Char :=
  let digits := digitsOf number
  List.replicate (width - digits.length) '0' ++ digits

def writeNatural (number : Nat) : String :=
  String.ofList (digitsOf number)

def writeInteger (number : Int) : String :=
  String.ofList <|
    if number < 0 then '-' :: digitsOf number.natAbs else digitsOf number.natAbs

/-- The least power of ten from which numbers are written without an exponent. -/
def leastPositional : Int := -4

/-- The power of ten from which numbers are written with an exponent. -/
def leastExponential : Int := 16

/-- Digits with the decimal point after the first `point` of them. -/
def positional (digits : List Char) (point : Int) : List Char :=
  if point ≤ 0 then '0' :: '.' :: List.replicate (-point).toNat '0' ++ digits
  else
    let whole := point.toNat
    let fraction := digits.drop whole
    digits.take whole ++ List.replicate (whole - digits.length) '0' ++
      '.' :: (if fraction.isEmpty then ['0'] else fraction)

def scientific (digits : List Char) (exponent : Int) : List Char :=
  let mantissa :=
    match digits with
    | [digit] => [digit]
    | digit :: fraction => digit :: '.' :: fraction
    | [] => []
  mantissa ++ 'e' :: (if exponent < 0 then '-' else '+') :: paddedDigits 2 exponent.natAbs

def withoutTrailingZeros (digits : List Char) : List Char :=
  (digits.reverse.dropWhile (· == '0')).reverse

/-- A double-precision number in the fewest digits that read back. -/
def writeBinary64 : Binary64 → String
  | .nan => "nan"
  | .infinite negative => if negative then "-inf" else "inf"
  | .finite negative significand power =>
      let magnitude :=
        if significand = 0 then ['0', '.', '0']
        else
          let (decimal, exponent) := (RoundingInterval.ofFinite significand power).shortest
          let written := digitsOf decimal
          let leading := exponent + written.length - 1
          let digits := withoutTrailingZeros written
          if leading < leastPositional || leastExponential ≤ leading then
            scientific digits leading
          else positional digits (leading + 1)
      String.ofList (if negative then '-' :: magnitude else magnitude)

end Number
end SchemaQuery
