import SchemaQuery.Operator
import SchemaQuery.Path

/-!
# Filters

A filter puts constraints on the attribute at the end of a path; a row has to
meet all of them or any.  A constraint has a match operator and raw values.
Resolving a filter finds its attribute, its operators, and values of the
attribute's type.  A raw value may refer to a key of the querystring, and then
stands for all values of that key.
-/

namespace SchemaQuery

structure Constraint where
  operator : String
  values : List Value
deriving Inhabited

structure Filter where
  path : String
  combination : String := "and"
  constraints : List Constraint := []
deriving Inhabited

namespace Filter

/-- The key among the operators of a filter that says how to combine them. -/
def combinationKey : String := "operator"

/-- The constraints for one operator: one with all values, or one for each. -/
def constraintsFor (operators : Operators) (operator : String) (values : List Value) :
    List Constraint :=
  if operators.takesSeveral operator then [⟨operator, values⟩]
  else values.map fun value => ⟨operator, [value]⟩

def combinationOf? : List Value → Option String
  | [] => none
  | value :: _ => some (Text.lower (Text.trim value.plain))

def parse (operators : Operators) (path : String) (pairs : Dictionary (List Value)) :
    Filter where
  path := Text.trim path
  combination := ((pairs.get? combinationKey).bind combinationOf?).getD "and"
  constraints :=
    (pairs.filter fun pair => pair.1 != combinationKey).flatMap fun pair =>
      constraintsFor operators pair.1 pair.2

end Filter

inductive Combination where
  | all
  | any
deriving DecidableEq, Repr, Inhabited

namespace Combination

def name : Combination → String
  | .all => "and"
  | .any => "or"

def ofName? (name : String) : Option Combination :=
  if name = "and" then some .all else if name = "or" then some .any else none

@[simp]
theorem ofName?_name (combination : Combination) :
    ofName? combination.name = some combination := by
  cases combination <;> decide

end Combination

structure ResolvedConstraint where
  operator : String
  values : List Value
deriving Inhabited

/-- A filter whose path, operators and values have been found good. -/
structure ResolvedFilter where
  target : ResolvedPath
  combination : Combination
  constraints : List ResolvedConstraint
deriving Inhabited

namespace ResolvedFilter

def condition (operators : Operators) (filter : ResolvedFilter) (column : Sql.Column) :
    Except Fault Sql.Condition := do
  let conditions ← filter.constraints.mapM fun constraint =>
    operators.condition constraint.operator column constraint.values
  match conditions, filter.combination with
  | [condition], _ => return condition
  | _, .all => return .all conditions
  | _, .any => return .any conditions

end ResolvedFilter

namespace Filter

/-- How raw values begin that stand for the values of a querystring key. -/
def querystringMark : String := "querystring."

/-- How raw values begin that are reserved for values of an access token. -/
def tokenMark : String := "token."

def isBlankValue (value : Value) : Bool :=
  value.isNull || Text.isBlankText value.plain

def behindMark? (mark text : String) : Option String :=
  if mark.toList.isPrefixOf text.toList then
    some (String.ofList (text.toList.drop mark.length))
  else none

/-- The values that a raw value stands for. A lone surrogate, which `String` does
not hold, is U+FFFD. -/
def standIns (querystring : Dictionary (List Value)) (raw : Value) :
    Except Failure (List Value) :=
  let text := raw.plain
  match behindMark? tokenMark text, behindMark? querystringMark text with
  | some _, _ => .error (.faulted (.tokenIndirection text))
  | none, some key =>
      match querystring.get? key with
      | none => .error (.refused (.querystringKeyUnknown key))
      | some [] => .error (.refused (.querystringKeyEmpty key))
      | some values => .ok values
  | none, none => .ok [.text text]

def castOperand (registry : Registry) (leaf : LoadedAttribute) (operator : String)
    (raw : Value) : Except Refusal Value :=
  if Operators.flagged.contains operator then registry.casters.cast .bool raw
  else registry.casters.castFor leaf.toAttribute raw

def resolveValue (registry : Registry) (querystring : Dictionary (List Value))
    (target : ResolvedPath) (operator : String) (raw : Value) : Except Failure (List Value) := do
  if isBlankValue raw then throw (.refused (.valueMissing target.path))
  let values ← standIns querystring raw
  values.mapM fun value => do
    if isBlankValue value then throw (.refused (.valueMissing target.path))
    match castOperand registry target.leaf operator value with
    | .ok typed => return typed
    | .error refusal => throw (.refused refusal)

/-- The raw values of a constraint; one without values has a blank one. -/
def rawValues (constraint : Constraint) : List Value :=
  if constraint.values.isEmpty then [.text ""] else constraint.values

def resolveConstraint (registry : Registry) (querystring : Dictionary (List Value))
    (path : String) (target : ResolvedPath) (constraint : Constraint) :
    Except Failure ResolvedConstraint := do
  match registry.operators.canonical? constraint.operator with
  | none => throw (.refused (.matchUnknown constraint.operator path))
  | some operator =>
      if !registry.operators.accepts operator target.leaf.dataType then
        throw (.refused (.matchUnfit operator path target.leaf.dataType))
      let values ←
        (rawValues constraint).mapM (resolveValue registry querystring target operator)
      let values := values.flatten
      match Operators.arity?.get? operator with
      | some expected =>
          if values.length = expected then return { operator, values }
          else throw (.refused (.valueCount operator path expected values.length))
      | none => return { operator, values }

def resolve (registry : Registry) (querystring : Dictionary (List Value))
    (entity : LoadedEntity) (filter : Filter) : CatalogM Failure ResolvedFilter := do
  match Combination.ofName? filter.combination with
  | none => throw (.refused (.filterOperator filter.combination filter.path))
  | some combination =>
      let target ← ExceptT.adapt
        (fun cause => .refused (.filterPath filter.path entity.name cause))
        (Catalog.resolvePath entity filter.path)
      if filter.constraints.isEmpty then throw (.refused (.constraintsMissing filter.path))
      let constraints ← ExceptT.mk <| pure <| filter.constraints.mapM
        (resolveConstraint registry querystring filter.path target)
      return { target, combination, constraints }

/-- Resolves filters in order; the first that fails decides. -/
def resolveAll (registry : Registry) (querystring : Dictionary (List Value))
    (entity : LoadedEntity) (filters : List Filter) : CatalogM Failure (List ResolvedFilter) :=
  filters.mapM (resolve registry querystring entity)

end Filter

end SchemaQuery
