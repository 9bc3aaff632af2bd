/-!
# Base64

Bytes as text of sixty-four characters.  Writing uses the alphabet that is safe
in addresses and leaves out the padding.  Reading takes both alphabets, and is
strict: padding may stand only at the end, and only as much of it as the last
group needs.
-/

namespace SchemaQuery
namespace Codec
namespace Base64

def alphabet : List Char :=
  "ABCDEFGHIJKLMNOPQRSTUVWXYZabcdefghijklmnopqrstuvwxyz0123456789-_".toList

def character (sextet : Nat) : Char :=
  alphabet.getD sextet 'A'

def sextet? (character : Char) : Option Nat :=
  if character.isUpper then some (character.toNat - 'A'.toNat)
  else if character.isLower then some (character.toNat - 'a'.toNat + 26)
  else if character.isDigit then some (character.toNat - '0'.toNat + 52)
  else if character == '-' || character == '+' then some 62
  else if character == '_' || character == '/' then some 63
  else none

theorem sextet?_character : ∀ sextet < 64, sextet? (character sextet) = some sextet := by
  decide +kernel

def encode : List UInt8 → List Char
  | [] => []
  | [first] =>
      [character (first.toNat / 4), character (first.toNat % 4 * 16)]
  | [first, second] =>
      [character (first.toNat / 4),
        character (first.toNat % 4 * 16 + second.toNat / 16),
        character (second.toNat % 16 * 4)]
  | first :: second :: third :: rest =>
      character (first.toNat / 4) ::
        character (first.toNat % 4 * 16 + second.toNat / 16) ::
        character (second.toNat % 16 * 4 + third.toNat / 64) ::
        character (third.toNat % 64) :: encode rest

inductive Fault where
  | notAscii
  | leadingPadding
  | excessData
  | foreignCharacter
  | interruptedPadding
  | loneCharacter (dataCharacters : Nat)
  | missingPadding
deriving Repr, DecidableEq

/-- The whole bytes in the numbers of a group; bits left over are dropped. -/
def bytesOfGroup : List Nat → List UInt8
  | [first, second] => [UInt8.ofNat (first * 4 + second / 16)]
  | [first, second, third] =>
      [UInt8.ofNat (first * 4 + second / 16), UInt8.ofNat (second % 16 * 16 + third / 4)]
  | [first, second, third, fourth] =>
      [UInt8.ofNat (first * 4 + second / 16), UInt8.ofNat (second % 16 * 16 + third / 4),
        UInt8.ofNat (third % 4 * 64 + fourth)]
  | _ => []

/-- Reads on behind `groups` full groups, an unfinished one, and `padding` characters. -/
def decodeFrom (groups : Nat) (group : List Nat) (padding : Nat) (padded : Bool) :
    List Char → Except Fault (List UInt8)
  | [] =>
      match group with
      | [] => .ok []
      | [_] => .error (.loneCharacter (groups * 4 + 1))
      | _ => .error .missingPadding
  | next :: rest =>
      if next == '=' then
        if 2 ≤ group.length then
          if 4 ≤ group.length + (padding + 1) then
            if rest.isEmpty then .ok (bytesOfGroup group) else .error .excessData
          else decodeFrom groups group (padding + 1) true rest
        else decodeFrom groups group padding true rest
      else
        match sextet? next with
        | none => .error .foreignCharacter
        | some number =>
            if padded then .error .interruptedPadding
            else if group.length = 3 then
              (decodeFrom (groups + 1) [] 0 false rest).map
                (bytesOfGroup (group ++ [number]) ++ ·)
            else decodeFrom groups (group ++ [number]) 0 false rest

def decodePadded (characters : List Char) : Except Fault (List UInt8) :=
  if characters.any fun character => 128 ≤ character.toNat then .error .notAscii
  else if characters.head? == some '=' then .error .leadingPadding
  else decodeFrom 0 [] 0 false characters

/-- The bytes of a text, which is padded first. -/
def decode (characters : List Char) : Except Fault (List UInt8) :=
  decodePadded (characters ++ List.replicate ((4 - characters.length % 4) % 4) '=')

end Base64
end Codec
end SchemaQuery
