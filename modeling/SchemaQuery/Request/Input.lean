import SchemaQuery.Request

/-!
# Typed inputs

A request may also be given as typed inputs: filters with their constraints,
sorts, a cursor and a pagination, parts of which may be missing.  They are
converted into the structured form.
-/

namespace SchemaQuery

structure ConstraintInput where
  operator : String
  values : Option (List String) := none
deriving Repr, Inhabited

/-- Constraints on one path, and how to combine them. -/
structure FilterInput where
  field : String
  constraints : Option (List ConstraintInput) := none
  combination : Option String := none
deriving Repr, Inhabited

structure SortInput where
  field : String
  direction : Option String := none
deriving Repr, Inhabited

structure CursorInput where
  first : Option String := none
  last : Option String := none
deriving Repr, Inhabited

structure PaginationInput where
  offset : Option Int := none
  limit : Option Int := none
deriving Repr, Inhabited

namespace Arguments

/-- Raw values by operator with one more filter, whose combination replaces what was there. -/
def addPairs (input : FilterInput) (pairs : Dictionary (List Value)) :
    Dictionary (List Value) :=
  let combined :=
    match input.combination with
    | some combination => pairs.insert Filter.combinationKey [.text combination]
    | none => pairs
  (input.constraints.getD []).foldl
    (fun gathered constraint =>
      gathered.append constraint.operator ((constraint.values.getD []).map Value.text))
    combined

def ofFilterInputs (inputs : List FilterInput) : Arguments :=
  inputs.foldl
    (fun gathered input =>
      gathered.alter (Text.trim input.field) fun present => addPairs input (present.getD []))
    []

def ofSortInputs (inputs : List SortInput) : Dictionary (List Value) :=
  Dictionary.ofEntries <| inputs.map fun input =>
    let direction : Value := (input.direction.map Value.text).getD .null
    (Text.trim input.field, [.text (Direction.word direction)])

/-- The structured form of filters and sorts. The path for sorts is reserved. -/
def ofInputs (filters : List FilterInput) (sorts : List SortInput) (sortKey : String) :
    Except Fault Arguments :=
  let arguments := ofFilterInputs filters
  let directions := ofSortInputs sorts
  if arguments.contains sortKey then .error (.reservedSortKey sortKey)
  else if directions.isEmpty then .ok arguments
  else .ok (arguments.insert sortKey directions)

end Arguments

def Cursor.ofInput (input : Option CursorInput) : Cursor :=
  match input with
  | some sides => { first := some (sides.first.getD ""), last := some (sides.last.getD "") }
  | none => {}

def Pagination.ofInput (input : Option PaginationInput) : Pagination :=
  match input with
  | some parts => { offset := parts.offset.getD 0, limit := parts.limit }
  | none => {}

end SchemaQuery
