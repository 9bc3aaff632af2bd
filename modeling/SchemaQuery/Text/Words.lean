import SchemaQuery.Text.Digit
import SchemaQuery.Text.LetterCase
import SchemaQuery.Text.WordCharacter

/-!
# Words inside names

Names in a schema are written in camel case or with underscores.  This file
turns a name into its underscored form, which tables and columns are named by,
and into the title that heads a column.
-/

namespace SchemaQuery
namespace Text

/-- Puts an underscore before the last capital of an acronym, as in `HTMLPage`. -/
def separateAcronyms : List Char → List Char
  | first :: second :: third :: rest =>
      if first.isUpper && second.isUpper && third.isLower then
        first :: '_' :: separateAcronyms (second :: third :: rest)
      else first :: separateAcronyms (second :: third :: rest)
  | characters => characters

def separateCapitals : List Char → List Char
  | first :: second :: rest =>
      if (first.isLower || isDecimalDigit first) && second.isUpper then
        first :: '_' :: separateCapitals (second :: rest)
      else first :: separateCapitals (second :: rest)
  | characters => characters

/-- A name with its words joined by underscores. Only ASCII capitals separate words. -/
def underscored (name : String) : String :=
  let separated := separateCapitals (separateAcronyms name.toList)
  lower (String.ofList (separated.map fun character =>
    if character == '-' then '_' else character))

/-- Drops the `_id` that ends a column's name; one line break may follow it. -/
def withoutKeySuffix (characters : List Char) : List Char :=
  match characters.reverse with
  | '\n' :: 'd' :: 'i' :: '_' :: stem => stem.reverse ++ ['\n']
  | 'd' :: 'i' :: '_' :: stem => stem.reverse
  | _ => characters

def capitalizeFirst : List Char → List Char
  | [] => []
  | first :: rest =>
      if isWordCharacter first then LetterCase.upperForm first ++ rest
      else first :: rest

def titleFrom (preceding : List Char) (afterCased : Bool) : List Char → List Char
  | [] => []
  | character :: rest =>
      (if afterCased then LetterCase.lowerForm preceding rest character
        else LetterCase.titleForm character) ++
        titleFrom (character :: preceding) (LetterCase.isCased character) rest

/-- Capitalises each word. The letter after an apostrophe is made small. -/
def capitalizeWords (afterWord : Bool) : List Char → List Char
  | [] => []
  | [character] =>
      if isWordCharacter character && !afterWord then LetterCase.titleForm character
      else [character]
  | first :: second :: rest =>
      if afterWord && first == '\'' && isWordCharacter second then
        first :: LetterCase.lowerForm [first] [] second ++ capitalizeWords true rest
      else if isWordCharacter first && !afterWord then
        LetterCase.titleForm first ++ capitalizeWords true (second :: rest)
      else first :: capitalizeWords (isWordCharacter first) (second :: rest)

def titled (name : String) : String :=
  let stem := withoutKeySuffix (underscored name).toList
  let spaced := stem.map fun character => if character == '_' then ' ' else character
  String.ofList (capitalizeWords false (titleFrom [] false (capitalizeFirst spaced)))

end Text
end SchemaQuery
