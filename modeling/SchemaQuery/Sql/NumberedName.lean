import SchemaQuery.Number.Literal

/-!
# Numbered names

A statement makes up names of its own: labels for the columns that it selects
again, and names for its placeholders.  Such a name is a stem and a number.  The
stem comes from the name of a column, and the number counts how often the
statement has used the stem so far.
-/

namespace SchemaQuery
namespace Sql

/-- Whether a character has no place in a stem. -/
def isOutsideStem (character : Char) : Bool :=
  character == '%' || character == '(' || character == ')' || character == ' ' ||
    character == '$'

/-- Writes each run of characters outside stems as one underscore. -/
def underscoreRuns (inRun : Bool) : List Char → List Char
  | [] => []
  | character :: rest =>
      if isOutsideStem character then
        if inRun then underscoreRuns true rest
        else '_' :: underscoreRuns true rest
      else character :: underscoreRuns false rest

def withoutOuterUnderscores (characters : List Char) : List Char :=
  ((characters.dropWhile (· == '_')).reverse.dropWhile (· == '_')).reverse

def labelStem (name : String) : String :=
  String.ofList (underscoreRuns false (name.toList ++ ['_']))

/-- The stem of the placeholders for values that a column is compared with. -/
def placeholderStem (name : String) : String :=
  String.ofList (withoutOuterUnderscores (underscoreRuns false name.toList))

def numbered (before : List String) (stem : String) : String :=
  stem ++ "_" ++ Number.writeNatural (before.count stem + 1)

end Sql
end SchemaQuery
