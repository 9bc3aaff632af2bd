import SchemaQuery.Text.LetterCase.Table

/-!
# Letter case

Lower, upper and title forms of text in any script.  A letter may become
several characters, and the lower-case form of the Greek capital sigma depends
on its place: it has a form of its own at the end of a word.
-/

namespace SchemaQuery
namespace Text
namespace LetterCase

def partner? (shifts : List Shift) (code : Nat) : Option Nat :=
  (shifts.find? fun run =>
    run.first ≤ code && code ≤ run.last && (code - run.first) % run.stride == 0).map
      fun run => ((code : Int) + run.distance).toNat

def charactersOfCodes (codes : List Nat) : List Char :=
  codes.map Char.ofNat

def isCased (character : Char) : Bool :=
  if character.toNat < 128 then character.isAlpha
  else cased.contains character

/-- Whether a character is passed over in looking for the neighbouring letter. -/
def isCaseIgnorable (character : Char) : Bool :=
  caseIgnorable.contains character

/-- A sigma is final when the nearest letter before it has a case and the nearest
after it has none. -/
def isFinalSigma (preceding following : List Char) : Bool :=
  (preceding.dropWhile isCaseIgnorable).head?.any isCased &&
    !(following.dropWhile isCaseIgnorable).head?.any isCased

def lowerForm (preceding following : List Char) (character : Char) : List Char :=
  if character.toNat < 128 then [character.toLower]
  else if character == 'Σ' then
    [if isFinalSigma preceding following then 'ς' else 'σ']
  else if character == 'İ' then ['i', '\u0307']
  else
    match partner? lowerShifts character.toNat with
    | some code => [Char.ofNat code]
    | none => [character]

def upperForm (character : Char) : List Char :=
  if character.toNat < 128 then [character.toUpper]
  else
    match upperExpansions.lookup character.toNat with
    | some codes => charactersOfCodes codes
    | none =>
        match partner? upperShifts character.toNat with
        | some code => [Char.ofNat code]
        | none => [character]

def titleForm (character : Char) : List Char :=
  match titleExceptions.lookup character.toNat with
  | some codes => charactersOfCodes codes
  | none =>
      if unchangedInTitle.contains character then [character]
      else upperForm character

def lowerFrom (preceding : List Char) : List Char → List Char
  | [] => []
  | character :: rest =>
      lowerForm preceding rest character ++ lowerFrom (character :: preceding) rest

end LetterCase

def lower (text : String) : String :=
  String.ofList (LetterCase.lowerFrom [] text.toList)

end Text
end SchemaQuery
