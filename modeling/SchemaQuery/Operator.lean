import SchemaQuery.Cast.Registry
import SchemaQuery.Dictionary
import SchemaQuery.Sql.Condition

/-!
# Match operators

A match operator makes a condition from a column and the values of one
constraint.  Operators are registered under names; a name may be restricted to
some data types, and requests may use aliases for some names.  Three rules go by
name whatever is registered: which operators take several values at once, how
many, and which takes a flag instead of a value of the column's type.
-/

namespace SchemaQuery

abbrev Operator := Sql.Column → List Value → Except Fault Sql.Condition

namespace Operator

open Sql (Column Comparison Condition TextPlace)

def first : List Value → Except Fault Value
  | [] => .error .operandMissing
  | value :: _ => .ok value

def comparing (comparison : Comparison) : Operator := fun column values => do
  Condition.compared comparison column (← first values)

def among : Operator := fun column values => .ok (.among column values)

def notAmong : Operator := fun column values => .ok (.notAmong column values)

def between : Operator := fun column values =>
  match values with
  | low :: high :: _ => .ok (.between column low high)
  | _ => .error .operandMissing

/-- Matches the column with a pattern.  Truth values are no patterns. -/
def like : Operator := fun column values => do
  let pattern ← first values
  if pattern.isBool || pattern.isNull then throw .truthComparison
  return .like column pattern

/-- Matches the column with a pattern in any case. -/
def likeInAnyCase : Operator := fun column values => do
  return .likeInAnyCase column (← first values)

/-- The text to look for. A lone surrogate, which `String` does not hold, is U+FFFD. -/
def sought (values : List Value) : Except Fault String := do
  match ← first values with
  | .text content => return content
  | .unpaired codes => return (Value.unpaired codes).plain
  | _ => throw .textExpected

def holding (place : TextPlace) : Operator := fun column values => do
  return .holdsText place column (← sought values)

def lacking (place : TextPlace) : Operator := fun column values => do
  return .lacksText place column (← sought values)

/-- Asks for the column to be missing, or to be there. -/
def missing : Operator := fun column values => do
  return if (← first values).isSet then .isNull column else .isNotNull column

def dayOf : Value → Except Fault Calendar.Date
  | .date day => .ok day
  | .timestamp moment => .ok moment.date
  | value => .error (.dateExpected value.typeName)

def dayBounds (values : List Value) : Except Fault (Value × Value) := do
  let day ← dayOf (← first values)
  match day.next? with
  | some next => return (.timestamp (.startOf day), .timestamp (.startOf next))
  | none => throw .dateOutOfRange

def onDay : Operator := fun column values => do
  let (start, stop) ← dayBounds values
  let above ← Condition.compared .greaterOrEqual column start
  let below ← Condition.compared .less column stop
  return .all [above, below]

def offDay : Operator := fun column values => do
  let (start, stop) ← dayBounds values
  let before ← Condition.compared .less column start
  let behind ← Condition.compared .greaterOrEqual column stop
  return .any [before, behind]

end Operator

/-- The registered operators, and the data types to which some are restricted. -/
structure Operators where
  builders : Dictionary Operator
  restrictions : Dictionary (List DataType)

namespace Operators

def textTypes : List DataType := [.string, .text]

def dayTypes : List DataType := [.date, .datetime]

def standard : Operators where
  builders :=
    [("eq", .comparing .equal), ("ne", .comparing .notEqual), ("lt", .comparing .less),
      ("lte", .comparing .lessOrEqual), ("gt", .comparing .greater),
      ("gte", .comparing .greaterOrEqual), ("in", .among), ("notIn", .notAmong),
      ("between", .between), ("like", .like), ("contains", .holding .anywhere),
      ("notContains", .lacking .anywhere), ("startsWith", .holding .atStart),
      ("endsWith", .holding .atEnd), ("ilike", .likeInAnyCase), ("isNull", .missing),
      ("dateIs", .onDay), ("dateIsNot", .offDay), ("dateBefore", .comparing .less),
      ("dateAfter", .comparing .greater)]
  restrictions :=
    [("like", textTypes), ("ilike", textTypes), ("contains", textTypes),
      ("notContains", textTypes), ("startsWith", textTypes), ("endsWith", textTypes),
      ("dateIs", dayTypes), ("dateIsNot", dayTypes), ("dateBefore", dayTypes),
      ("dateAfter", dayTypes)]

def aliases : Dictionary String :=
  [("equals", "eq"), ("notEquals", "ne"), ("not_in", "notIn"), ("nin", "notIn"),
    ("neq", "ne"), ("starts_with", "startsWith"), ("ends_with", "endsWith"),
    ("not_contains", "notContains")]

/-- The operators whose values make up one constraint together. -/
def multipleValued : List String := ["in", "notIn", "between"]

def flagged : List String := ["isNull"]

def arity? : Dictionary Nat := [("between", 2)]

/-- The name of a registered operator. An alias always stands for its own. -/
def canonical? (operators : Operators) (asked : String) : Option String :=
  let name := (aliases.get? asked).getD asked
  if operators.builders.contains name then some name else none

/-- Whether columns of a data type may be used with a name. -/
def accepts (operators : Operators) (name : String) (dataType : DataType) : Bool :=
  match operators.restrictions.get? name with
  | some allowed => allowed.contains dataType
  | none => true

def takesSeveral (operators : Operators) (asked : String) : Bool :=
  match operators.canonical? asked with
  | some name => multipleValued.contains name
  | none => false

/-- Registers an operator, for the given data types or for all. -/
def register (operators : Operators) (name : String) (operator : Operator)
    (dataTypes : Option (List DataType)) : Operators where
  builders := operators.builders.insert name operator
  restrictions :=
    match dataTypes with
    | some allowed => operators.restrictions.insert name allowed
    | none => operators.restrictions.erase name

def condition (operators : Operators) (name : String) (column : Sql.Column)
    (values : List Value) : Except Fault Sql.Condition :=
  match operators.builders.get? name with
  | some operator => operator column values
  | none => .error .operandMissing

end Operators

/-- What may be extended: the casters of data types and the match operators. -/
structure Registry where
  casters : Casters := .standard
  operators : Operators := .standard

end SchemaQuery
