import SchemaQuery.Filter
import SchemaQuery.Page
import SchemaQuery.Sql.JoinPlan
import SchemaQuery.Sql.Keyset

/-!
# Listings

A listing is a list request that has been put into a statement, together with
what is needed to make a page of the rows that the statement selects: the size
of the page, the sorts, and the cursor that it was fetched with.
-/

namespace SchemaQuery

open Sql (Column Condition JoinM JoinPlan OrderTerm Projection Select SortColumn)

structure Listing where
  entity : LoadedEntity
  statement : Select
  limit : Int
  sorts : List ResolvedSort
  cursor : ResolvedCursor
deriving Inhabited

namespace Listing

def fetchLimit (listing : Listing) : Int :=
  listing.limit + 1

def filterConditions (operators : Operators) (filters : List ResolvedFilter) :
    JoinM (List Condition) :=
  filters.mapM fun filter => do
    let column ← JoinPlan.columnFor filter.target
    filter.condition operators column

def sortColumns (sorts : List ResolvedSort) : JoinM (List SortColumn) :=
  sorts.mapM fun sort => do
    return { sort, column := ← JoinPlan.columnFor sort.target }

/-- Plans the conditions of filters and then the columns of sorts. -/
def planned (operators : Operators) (filters : List ResolvedFilter)
    (sorts : List ResolvedSort) : JoinM (List Condition × List SortColumn) := do
  let filtering ← filterConditions operators filters
  let sorted ← sortColumns sorts
  return (filtering, sorted)

/-- The columns of an entity's own table that are always selected. -/
def ownColumns (entity : LoadedEntity) : List String :=
  let fields := entity.localAttributes.map (·.field)
  if (entity.find? entity.primaryKey).isSome then fields else fields ++ [entity.primaryKey]

/-- The columns selected for sorts, but for local ones selected anyway. -/
def sortProjections (selected : List String) : List SortColumn → List Projection
  | [] => []
  | sorted :: rest =>
      let path := sorted.sort.path
      if sorted.sort.target.isLocal && selected.contains path then
        sortProjections selected rest
      else
        { column := sorted.column, label := some path } ::
          sortProjections (path :: selected) rest

/-- The selected columns: those of the entity's own table and those of sorts. -/
def projections (entity : LoadedEntity) (sorted : List SortColumn) : List Projection :=
  let own := (ownColumns entity).map fun name =>
    ({ column := ⟨.root entity.tableName, name⟩ } : Projection)
  own ++ sortProjections (entity.primaryKey :: ownColumns entity) sorted

/-- The order of the rows. Only the primary key is never missing. -/
def orderTerms (cursor : Cursor) (primaryKey : String) (sorted : List SortColumn) :
    List OrderTerm :=
  sorted.map fun term =>
    let direction := term.sort.direction
    { column := term.column
      direction := if cursor.isForward then direction else direction.flipped
      mayBeMissing := term.sort.path != primaryKey }

/-- The conditions on rows: those of filters, and to be beyond the edge. -/
def conditions (entity : LoadedEntity) (cursor : ResolvedCursor) (filtering : List Condition)
    (sorted : List SortColumn) : Except Failure (List Condition) :=
  if cursor.isEmpty then .ok filtering
  else do
    let beyond ← Sql.Keyset.condition cursor entity.primaryKey sorted
    return filtering ++ [beyond]

/-- The number of rows to pass over, which only counts without a cursor. -/
def offset (cursor : ResolvedCursor) (pagination : Pagination) : Except Failure Int :=
  if !cursor.isEmpty then .ok 0
  else if pagination.offset < 0 then .error (.refused .negativeOffset)
  else .ok pagination.offset

def build (operators : Operators) (entity : LoadedEntity) (filters : List ResolvedFilter)
    (sorts : List ResolvedSort) (cursor : ResolvedCursor) (pagination : Pagination)
    (pageSize : Int) : Except Failure Listing := do
  let ((filtering, sorted), plan) ←
    ((planned operators filters sorts).run { entity }).mapError .faulted
  let conditions ← conditions entity cursor filtering sorted
  let offset ← offset cursor pagination
  let statement : Select :=
    { distinct := plan.usesJunction
      projections := projections entity sorted
      root := entity.tableName
      joins := plan.joins
      conditions
      order := orderTerms cursor.cursor entity.primaryKey sorted
      limit := pageSize + 1
      offset }
  return { entity, statement, limit := pageSize, sorts, cursor }

/-- The page that fetched rows make up. A page without rows leads nowhere. -/
def page (listing : Listing) (rows : List Row) : Except Refusal Page := do
  let cursor := listing.cursor.cursor
  let (items, hasMore) := pageOf rows listing.limit cursor
  if items.isEmpty then
    return { items := [], cursor := {}, hasPrevious := false, hasNext := false }
  let next ← cursor.next items listing.sorts hasMore
  return {
    items
    cursor := next
    hasPrevious := next.first.any (· != "")
    hasNext := next.last.any (· != "") }

end Listing

end SchemaQuery
