import SchemaQuery.Text.Printable

/-!
# Quoted text

Messages show a value in quotes, so that its ends and its invisible characters
can be seen.  Single quotes are used unless the text holds a single quote and
no double quote.  Inside, the chosen quote, the backslash and all characters
without a visible form are escaped.
-/

namespace SchemaQuery
namespace Text

def hexadecimal : (width : Nat) → Nat → List Char
  | 0, _ => []
  | width + 1, number =>
      hexadecimal width (number / 16) ++ [Nat.digitChar (number % 16)]

/-- A numeric escape, in the shortest of the three forms that has room. -/
def numericEscape (code : Nat) : List Char :=
  if code < 0x100 then '\\' :: 'x' :: hexadecimal 2 code
  else if code < 0x10000 then '\\' :: 'u' :: hexadecimal 4 code
  else '\\' :: 'U' :: hexadecimal 8 code

/-- The double quote is put around text in which only single quotes occur. -/
def chooseQuote (holdsSingle holdsDouble : Bool) : Char :=
  if holdsSingle && !holdsDouble then '"' else '\''

def quoteCharacter (quote character : Char) : List Char :=
  if character == quote || character == '\\' then ['\\', character]
  else if character == '\n' then ['\\', 'n']
  else if character == '\r' then ['\\', 'r']
  else if character == '\t' then ['\\', 't']
  else if isPrintable character then [character]
  else numericEscape character.toNat

def quoted (text : String) : String :=
  let characters := text.toList
  let quote := chooseQuote (characters.contains '\'') (characters.contains '"')
  String.ofList (quote :: characters.flatMap (quoteCharacter quote) ++ [quote])

/-- One byte between quotes; bytes beyond ASCII are always escaped. -/
def quoteByte (quote : Char) (byte : UInt8) : List Char :=
  if byte < 128 then quoteCharacter quote (Char.ofNat byte.toNat)
  else numericEscape byte.toNat

def quotedBytes (bytes : List UInt8) : String :=
  let quote := chooseQuote (bytes.contains 39) (bytes.contains 34)
  String.ofList ('b' :: quote :: bytes.flatMap (quoteByte quote) ++ [quote])

/-- Code points in quotes.  Surrogates are no characters and are escaped. -/
def quotedCodes (codes : List Nat) : String :=
  let quote := chooseQuote (codes.contains 39) (codes.contains 34)
  let quoteCode (code : Nat) : List Char :=
    if 0xD800 ≤ code && code ≤ 0xDFFF then numericEscape code
    else quoteCharacter quote (Char.ofNat code)
  String.ofList (quote :: codes.flatMap quoteCode ++ [quote])

end Text
end SchemaQuery
