import SchemaQuery.Cursor.Token

/-!
# Pages

A request asks for a page by its size and by how many rows to pass over.  One
row more than the size is fetched, to find out whether there is more; it is
dropped again.  Backward pages are fetched in reverse order and turned around.
-/

namespace SchemaQuery

structure Pagination where
  offset : Int := 0
  limit : Option Int := none
deriving DecidableEq, Repr, Inhabited

namespace Pagination

/-- The given size of the page, or else a default, within bounds. -/
def pageSize (pagination : Pagination) (default maximum : Int) : Int :=
  let asked :=
    match pagination.limit with
    | some limit => if 0 < limit then limit else default
    | none => default
  max 1 (min asked maximum)

theorem one_le_pageSize (pagination : Pagination) (default maximum : Int) :
    1 ≤ pagination.pageSize default maximum :=
  Int.le_max_left 1 _

end Pagination

def takeRows {α : Type} (limit : Int) (rows : List α) : List α :=
  if 0 ≤ limit then rows.take limit.toNat
  else rows.take (rows.length - limit.natAbs)

/-- The rows of a page in order, and whether there are more in its direction. -/
def pageOf {α : Type} (rows : List α) (limit : Int) (cursor : Cursor) : List α × Bool :=
  let hasMore : Bool := limit < rows.length
  let kept := if hasMore then takeRows limit rows else rows
  (if cursor.isForward then kept else kept.reverse, hasMore)

@[simp]
theorem takeRows_of_nonneg {α : Type} {limit : Int} (rows : List α) (nonneg : 0 ≤ limit) :
    takeRows limit rows = rows.take limit.toNat := by
  simp [takeRows, nonneg]

theorem length_pageOf_le {α : Type} (rows : List α) {limit : Int} (cursor : Cursor)
    (nonneg : 0 ≤ limit) : ((pageOf rows limit cursor).1.length : Int) ≤ limit := by
  by_cases more : limit < rows.length
  · have taken : ((rows.take limit.toNat).length : Int) ≤ limit := by
      rw [List.length_take]
      omega
    cases forward : cursor.isForward
    · simpa only [pageOf, more, forward, takeRows_of_nonneg rows nonneg, decide_true, if_true,
        Bool.false_eq_true, if_false, List.length_reverse] using taken
    · simpa only [pageOf, more, forward, takeRows_of_nonneg rows nonneg, decide_true,
        if_true] using taken
  · cases forward : cursor.isForward <;> simp [pageOf, more, forward, Int.not_lt.1 more]

/-- A page of rows with the tokens and flags that lead on from it. -/
structure Page where
  items : List Row
  cursor : Cursor
  hasPrevious : Bool
  hasNext : Bool
deriving Inhabited

end SchemaQuery
