import SchemaQuery.Codec.Utf8
import SchemaQuery.Text.Digit
import SchemaQuery.Text.Segments

/-!
# Querystrings

A querystring is a list of keys and values.  Pairs are separated by ampersands,
and the first equals sign of a pair separates its key from its value.  Plus
signs stand for spaces and percent escapes for the bytes of characters; an
escape that is not followed by two hexadecimal digits stands for itself.
-/

namespace SchemaQuery
namespace Codec
namespace QueryString

def escapedBytes : List Char → List UInt8
  | [] => []
  | '%' :: high :: low :: rest =>
      match Text.hexDigitValue? high, Text.hexDigitValue? low with
      | some upper, some lower => Utf8.byte (upper * 16 + lower) :: escapedBytes rest
      | _, _ => Utf8.byte '%'.toNat :: escapedBytes (high :: low :: rest)
  | character :: rest => Utf8.byte character.toNat :: escapedBytes rest

def decodeRun (characters : List Char) : List Char :=
  Utf8.decodeLeniently (escapedBytes characters)

/-- The characters of a text with its ASCII run so far. A character beyond ASCII ends a run. -/
def decodeFrom (run : List Char) : List Char → List Char
  | [] => decodeRun run.reverse
  | character :: rest =>
      if character.toNat < 128 then decodeFrom (character :: run) rest
      else decodeRun run.reverse ++ character :: decodeFrom [] rest

def decode (characters : List Char) : List Char :=
  decodeFrom [] (characters.map fun character => if character == '+' then ' ' else character)

/-- The pair of a piece between ampersands, which may be a mere key. -/
def pairOf (piece : List Char) : String × String :=
  let (key, value) := Text.splitFirst '=' piece
  (String.ofList (decode key), String.ofList (decode (value.getD [])))

/-- The pairs of a querystring in order; empty pieces are passed over. -/
def parse (text : String) : List (String × String) :=
  ((Text.segments '&' text.toList).filter fun piece => !piece.isEmpty).map pairOf

end QueryString
end Codec
end SchemaQuery
