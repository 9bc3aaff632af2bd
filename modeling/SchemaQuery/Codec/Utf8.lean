/-!
# UTF-8

Characters as bytes and back.  Bytes are read piece by piece: a piece is a
character or the longest run of bytes that starts like a character and is none.
A strict reading stops at the first malformed piece and says where and why; a
lenient one puts the replacement character in its place.
-/

namespace SchemaQuery
namespace Codec
namespace Utf8

def byte (number : Nat) : UInt8 :=
  UInt8.ofNat number

def encodeCharacter (character : Char) : List UInt8 :=
  let code := character.toNat
  if code < 0x80 then [byte code]
  else if code < 0x800 then [byte (0xC0 + code / 64), byte (0x80 + code % 64)]
  else if code < 0x10000 then
    [byte (0xE0 + code / 4096), byte (0x80 + code / 64 % 64), byte (0x80 + code % 64)]
  else
    [byte (0xF0 + code / 262144), byte (0x80 + code / 4096 % 64),
      byte (0x80 + code / 64 % 64), byte (0x80 + code % 64)]

def encode (characters : List Char) : List UInt8 :=
  characters.flatMap encodeCharacter

inductive Reason where
  | startByte
  | continuationByte
  | endOfData
deriving Repr, DecidableEq

inductive Piece where
  | character (value : Char) (length : Nat)
  | malformed (reason : Reason) (length : Nat)
deriving Repr, DecidableEq

def Piece.length : Piece → Nat
  | .character _ length => length
  | .malformed _ length => length

def isContinuation (next : UInt8) : Bool :=
  0x80 ≤ next && next < 0xC0

/-- Whether a byte may follow the first. This excludes overlong forms and surrogates. -/
def isSecond (first next : UInt8) : Bool :=
  isContinuation next &&
    (if first == 0xE0 then 0xA0 ≤ next
    else if first == 0xED then next < 0xA0
    else if first == 0xF0 then 0x90 ≤ next
    else if first == 0xF4 then next < 0x90
    else true)

def payload (next : UInt8) : Nat :=
  next.toNat % 64

/-- Reads the continuation bytes after the second, which add to a `code`. -/
def readContinuations (code length : Nat) : (count : Nat) → List UInt8 → Piece
  | 0, _ => .character (Char.ofNat code) length
  | _ + 1, [] => .malformed .endOfData length
  | count + 1, next :: following =>
      if isContinuation next then
        readContinuations (code * 64 + payload next) (length + 1) count following
      else .malformed .continuationByte length

def readSecond (first : UInt8) (code count : Nat) : List UInt8 → Piece
  | [] => .malformed .endOfData 1
  | next :: following =>
      if isSecond first next then
        readContinuations (code * 64 + payload next) 2 (count - 1) following
      else .malformed .continuationByte 1

def readPiece (first : UInt8) (following : List UInt8) : Piece :=
  if first < 0x80 then .character (Char.ofNat first.toNat) 1
  else if first < 0xC2 then .malformed .startByte 1
  else if first < 0xE0 then readSecond first (first.toNat % 32) 1 following
  else if first < 0xF0 then readSecond first (first.toNat % 16) 2 following
  else if first < 0xF5 then readSecond first (first.toNat % 8) 3 following
  else .malformed .startByte 1

/-- The pieces of some bytes; the first `skip` bytes belong to the piece before. -/
def piecesFrom : (skip : Nat) → List UInt8 → List Piece
  | _, [] => []
  | skip + 1, _ :: rest => piecesFrom skip rest
  | 0, first :: rest =>
      let piece := readPiece first rest
      piece :: piecesFrom (piece.length - 1) rest

def pieces (bytes : List UInt8) : List Piece :=
  piecesFrom 0 bytes

/-- The first bytes that are no character. -/
structure Fault where
  position : Nat
  length : Nat
  reason : Reason
deriving Repr, DecidableEq

def strictFrom (position : Nat) : List Piece → Except Fault (List Char)
  | [] => .ok []
  | .character value length :: rest =>
      (strictFrom (position + length) rest).map (value :: ·)
  | .malformed reason length :: _ => .error ⟨position, length, reason⟩

def decode (bytes : List UInt8) : Except Fault (List Char) :=
  strictFrom 0 (pieces bytes)

/-- The characters of some bytes, with a replacement for each malformed piece. -/
def decodeLeniently (bytes : List UInt8) : List Char :=
  (pieces bytes).map fun piece =>
    match piece with
    | .character value _ => value
    | .malformed _ _ => '\ufffd'

end Utf8
end Codec
end SchemaQuery
