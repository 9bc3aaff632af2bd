import SchemaQuery.Failure
import SchemaQuery.Sql.Identifier
import SchemaQuery.Sql.NumberedName

/-!
# Conditions

A condition says of a row whether it is wanted.  Conditions are kept as trees
of comparisons under conjunctions and disjunctions.  Values are never part of
the text of a condition: they are its parameters, in the order in which their
placeholders occur.  Only truth values are written out where a column is
compared for equality with them.  A list of values that cannot be written out
stays behind a mark, and its values are not among the parameters.
-/

namespace SchemaQuery
namespace Sql

/-- A table as it occurs in a statement: the root, or one joined under an alias. -/
inductive Occurrence where
  | root (table : String)
  | joined (knownAs : String)
deriving DecidableEq, Repr, Inhabited

def Occurrence.name : Occurrence → String
  | .root table => table
  | .joined knownAs => knownAs

structure Column where
  table : Occurrence
  name : String
deriving DecidableEq, Repr, Inhabited

def Column.text (column : Column) : String :=
  identifier column.table.name ++ "." ++ identifier column.name

/-- The stem of the placeholders for values that a column is compared with. -/
def Column.placeholderStem (column : Column) : String :=
  Sql.placeholderStem column.name

inductive Comparison where
  | equal
  | notEqual
  | less
  | lessOrEqual
  | greater
  | greaterOrEqual
deriving DecidableEq, Repr, Inhabited

namespace Comparison

def sign : Comparison → String
  | .equal => "="
  | .notEqual => "!="
  | .less => "<"
  | .lessOrEqual => "<="
  | .greater => ">"
  | .greaterOrEqual => ">="

def isEquality : Comparison → Bool
  | .equal => true
  | .notEqual => true
  | _ => false

end Comparison

inductive TextPlace where
  | anywhere
  | atStart
  | atEnd
deriving DecidableEq, Repr, Inhabited

inductive Condition where
  | never
  | compare (comparison : Comparison) (column : Column) (operand : Value)
  | isNull (column : Column)
  | isNotNull (column : Column)
  | among (column : Column) (operands : List Value)
  | notAmong (column : Column) (operands : List Value)
  | between (column : Column) (low high : Value)
  | like (column : Column) (pattern : Value)
  | likeInAnyCase (column : Column) (pattern : Value)
  | holdsText (place : TextPlace) (column : Column) (sought : String)
  | lacksText (place : TextPlace) (column : Column) (sought : String)
  | all (conditions : List Condition)
  | any (conditions : List Condition)
deriving Inhabited

namespace Condition

/-- Compares a column with a value. Equality to missing ones asks whether there is a value. -/
def compared (comparison : Comparison) (column : Column) (operand : Value) :
    Except Fault Condition :=
  match comparison, operand with
  | .equal, .null => .ok (.isNull column)
  | .notEqual, .null => .ok (.isNotNull column)
  | _, .null => .error .truthComparison
  | _, .bool _ =>
      if comparison.isEquality then .ok (.compare comparison column operand)
      else .error .truthComparison
  | _, _ => .ok (.compare comparison column operand)

def conjuncts : Condition → List Condition
  | .all conditions => conditions
  | condition => [condition]

def disjuncts : Condition → List Condition
  | .any conditions => conditions
  | .never => []
  | condition => [condition]

def isNever : Condition → Bool
  | .never => true
  | _ => false

/-- The conjunction of simple conditions, opened, where one that no row meets decides. -/
def allOf (conditions : List Condition) : Condition :=
  let opened := conditions.flatMap conjuncts
  if opened.any isNever then .never
  else
    match opened with
    | [condition] => condition
    | _ => .all opened

/-- The disjunction of simple conditions, opened, without those that no row meets. -/
def anyOf (conditions : List Condition) : Condition :=
  match conditions.flatMap disjuncts with
  | [] => .never
  | [condition] => condition
  | opened => .any opened

mutual

def simplify : Condition → Condition
  | .all conditions => allOf (simplifyEach conditions)
  | .any conditions => anyOf (simplifyEach conditions)
  | condition => condition

def simplifyEach : List Condition → List Condition
  | [] => []
  | condition :: rest => simplify condition :: simplifyEach rest

end

/-- The character that marks others to stand for themselves in a pattern. -/
def escapeMark : Char := '/'

/-- A text as part of a pattern in which its characters stand for themselves. -/
def literalPattern (sought : String) : String :=
  String.ofList <| sought.toList.flatMap fun character =>
    if character == escapeMark || character == '%' || character == '_' then
      [escapeMark, character]
    else [character]

def patternText : TextPlace → String
  | .anywhere => "'%' || ? || '%' ESCAPE '/'"
  | .atStart => "? || '%' ESCAPE '/'"
  | .atEnd => "'%' || ? ESCAPE '/'"

def operandText : Value → String
  | .bool true => "1"
  | .bool false => "0"
  | _ => "?"

def operandParameters : Value → List Value
  | .bool _ => []
  | operand => [operand]

/-- Whether a list of values is written out. This takes a name of one word. -/
def isWrittenOut (column : Column) : Bool :=
  !column.placeholderStem.toList.any Text.isBlank

/-- A list of values between parentheses: written out, or as a mark. `before` are the stems of the
placeholders before it. -/
def listText (before : List String) (column : Column) (operands : List Value) : String :=
  if isWrittenOut column then ", ".intercalate (operands.map fun _ => "?")
  else "__[POSTCOMPILE_" ++ numbered before column.placeholderStem ++ "]"

def listParameters (column : Column) (operands : List Value) : List Value :=
  if isWrittenOut column then operands else []

mutual

/-- The stems of the placeholders of a condition in order; a list has one. -/
def stems : Condition → List String
  | .never => []
  | .compare _ column operand => (operandParameters operand).map fun _ => column.placeholderStem
  | .isNull _ => []
  | .isNotNull _ => []
  | .among column _ => [column.placeholderStem]
  | .notAmong column _ => [column.placeholderStem]
  | .between column _ _ => [column.placeholderStem, column.placeholderStem]
  | .like column _ => [column.placeholderStem]
  | .likeInAnyCase _ _ => ["lower"]
  | .holdsText _ column _ => [column.placeholderStem]
  | .lacksText _ column _ => [column.placeholderStem]
  | .all conditions => stemsOfEach conditions
  | .any conditions => stemsOfEach conditions

def stemsOfEach : List Condition → List String
  | [] => []
  | condition :: rest => stems condition ++ stemsOfEach rest

end

def isDisjunction : Condition → Bool
  | .any _ => true
  | _ => false

mutual

/-- The text of a simple condition behind placeholders with the stems `before`. -/
def text (before : List String) : Condition → String
  | .never => "0 = 1"
  | .compare comparison column operand =>
      column.text ++ " " ++ comparison.sign ++ " " ++ operandText operand
  | .isNull column => column.text ++ " IS NULL"
  | .isNotNull column => column.text ++ " IS NOT NULL"
  | .among column operands => column.text ++ " IN (" ++ listText before column operands ++ ")"
  | .notAmong column operands =>
      "(" ++ column.text ++ " NOT IN (" ++ listText before column operands ++ "))"
  | .between column _ _ => column.text ++ " BETWEEN ? AND ?"
  | .like column _ => column.text ++ " LIKE ?"
  | .likeInAnyCase column _ => "lower(" ++ column.text ++ ") LIKE lower(?)"
  | .holdsText place column _ => "(" ++ column.text ++ " LIKE " ++ patternText place ++ ")"
  | .lacksText place column _ => "(" ++ column.text ++ " NOT LIKE " ++ patternText place ++ ")"
  | .all conditions => " AND ".intercalate (conjunctTexts before conditions)
  | .any conditions => " OR ".intercalate (disjunctTexts before conditions)

/-- The texts of the parts of a conjunction; a disjunction is put in parentheses. -/
def conjunctTexts (before : List String) : List Condition → List String
  | [] => []
  | condition :: rest =>
      (if condition.isDisjunction then "(" ++ text before condition ++ ")"
        else text before condition) ::
        conjunctTexts (before ++ stems condition) rest

def disjunctTexts (before : List String) : List Condition → List String
  | [] => []
  | condition :: rest =>
      text before condition :: disjunctTexts (before ++ stems condition) rest

end

mutual

def parameters : Condition → List Value
  | .never => []
  | .compare _ _ operand => operandParameters operand
  | .isNull _ => []
  | .isNotNull _ => []
  | .among column operands => listParameters column operands
  | .notAmong column operands => listParameters column operands
  | .between _ low high => [low, high]
  | .like _ pattern => [pattern]
  | .likeInAnyCase _ pattern => [pattern]
  | .holdsText _ _ sought => [.text (literalPattern sought)]
  | .lacksText _ _ sought => [.text (literalPattern sought)]
  | .all conditions => parametersOfEach conditions
  | .any conditions => parametersOfEach conditions

def parametersOfEach : List Condition → List Value
  | [] => []
  | condition :: rest => parameters condition ++ parametersOfEach rest

end

end Condition

end Sql
end SchemaQuery
