import SchemaQuery.Sort
import SchemaQuery.Sql.Condition

/-!
# Select statements

A statement selects columns from a table and the tables joined to it, keeps the
rows that meet a condition, orders them and takes a window of them.  Its text
holds no values but is made from names alone; values are its parameters.
-/

namespace SchemaQuery
namespace Sql

/-- A selected column, with a label if it has another name. -/
structure Projection where
  column : Column
  label : Option String := none
deriving DecidableEq, Repr, Inhabited

def Projection.name (projection : Projection) : String :=
  projection.label.getD projection.column.name

/-- A table joined under an alias by equating one of its columns with one before. -/
structure Join where
  table : String
  knownAs : String
  column : String
  owner : Column
deriving DecidableEq, Repr, Inhabited

def Join.text (join : Join) : String :=
  "LEFT OUTER JOIN " ++ identifier join.table ++ " AS " ++ identifier join.knownAs ++ " ON " ++
    (Column.mk (.joined join.knownAs) join.column).text ++ " = " ++ join.owner.text

/-- A column to order by. Missing values rank below all others in both directions. -/
structure OrderTerm where
  column : Column
  direction : Direction
  mayBeMissing : Bool
deriving DecidableEq, Repr, Inhabited

def OrderTerm.text (term : OrderTerm) : String :=
  let ordered := term.column.text
  match term.direction, term.mayBeMissing with
  | .ascending, true => ordered ++ " ASC NULLS FIRST"
  | .ascending, false => ordered ++ " ASC"
  | .descending, true => ordered ++ " DESC NULLS LAST"
  | .descending, false => ordered ++ " DESC"

structure Select where
  distinct : Bool
  projections : List Projection
  root : String
  joins : List Join
  conditions : List Condition
  order : List OrderTerm
  limit : Int
  offset : Int
deriving Inhabited

namespace Select

/-- Selected columns as they stand in a statement behind columns without a label and labels with
some stems. One that is selected again has a numbered label. -/
def projectionTexts (before : List Column) (stems : List String) :
    List Projection → List String
  | [] => []
  | projection :: rest =>
      let column := projection.column
      match projection.label with
      | some label =>
          (column.text ++ " AS " ++ identifier label) :: projectionTexts before stems rest
      | none =>
          if column ∈ before then
            let stem := labelStem column.name
            (column.text ++ " AS " ++ identifier (numbered stems stem)) ::
              projectionTexts before (stem :: stems) rest
          else column.text :: projectionTexts (column :: before) stems rest

def condition (statement : Select) : Condition :=
  Condition.simplify (.all statement.conditions)

def clause (opening separator : String) (parts : List String) : String :=
  if parts.isEmpty then "" else " " ++ opening ++ " " ++ separator.intercalate parts

def text (statement : Select) : String :=
  Text.singleLine <|
    "SELECT " ++ (if statement.distinct then "DISTINCT " else "") ++
      ", ".intercalate (projectionTexts [] [] statement.projections) ++
      clause "FROM" " " (identifier statement.root :: statement.joins.map Join.text) ++
      clause "WHERE" ""
        (if statement.conditions.isEmpty then [] else [statement.condition.text []]) ++
      clause "ORDER BY" ", " (statement.order.map OrderTerm.text) ++
      " LIMIT ? OFFSET ?"

def parameters (statement : Select) : List Value :=
  statement.condition.parameters ++ [.int statement.limit, .int statement.offset]

def columnNames (statement : Select) : List String :=
  statement.projections.map Projection.name

end Select

end Sql
end SchemaQuery
