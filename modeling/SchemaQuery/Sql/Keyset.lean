import SchemaQuery.Cursor
import SchemaQuery.Sql.Condition

/-!
# Rows beyond an edge

The rows beyond an edge are those that come strictly behind it in the order of
the sorts, or before it when a page is fetched backward.  They equal the edge in
the columns up to some place, and go past it in the column there.  Missing
values rank below all others, so going down from a value leads to them, and
going up from them leads to all values.
-/

namespace SchemaQuery
namespace Sql

structure SortColumn where
  sort : ResolvedSort
  column : Column
deriving Inhabited

namespace Keyset

def comparison (cursor : Cursor) (direction : Direction) : Comparison :=
  if cursor.goesUp direction then .greater else .less

def atEdge (column : Column) (edge : Value) : Except Fault Condition :=
  Condition.compared .equal column edge

/-- The condition that a column is past its edge, or `none` where nothing is. -/
def pastEdge (upward mayBeMissing : Bool) (column : Column) (edge : Value) :
    Except Fault (Option Condition) :=
  match edge with
  | .null => .ok (if upward then some (.isNotNull column) else none)
  | edge => do
      let past ← Condition.compared (if upward then .greater else .less) column edge
      return some (if !upward && mayBeMissing then .any [past, .isNull column] else past)

/-- The condition that earlier columns equal their edges and the next is past its. -/
def branch (equal : List Condition) (past : Condition) : Condition :=
  if equal.isEmpty then past else .all (equal ++ [past])

/-- The branches of the condition, one for each column where something can be past the edge. -/
def branches (cursor : ResolvedCursor) (primaryKey : String) (equal : List Condition) :
    List SortColumn → Except Failure (List Condition)
  | [] => .ok []
  | sorted :: rest => do
      let sort := sorted.sort
      let edge ← (cursor.edgeValue sort.path).mapError .refused
      let upward := cursor.cursor.goesUp sort.direction
      let past ←
        (pastEdge upward (sort.path != primaryKey) sorted.column edge).mapError .faulted
      let atIt ← (atEdge sorted.column edge).mapError .faulted
      let others ← branches cursor primaryKey (equal ++ [atIt]) rest
      match past with
      | some past => return branch equal past :: others
      | none => return others

def condition (cursor : ResolvedCursor) (primaryKey : String) (sorted : List SortColumn) :
    Except Failure Condition := do
  if sorted.isEmpty then throw (.refused .cursorWithoutSort)
  match ← branches cursor primaryKey [] sorted with
  | [] => return .never
  | [condition] => return condition
  | conditions => return .any conditions

end Keyset

end Sql
end SchemaQuery
