import SchemaQuery.Sort

/-!
# Cursors

A cursor says where in an ordered list a page starts or ends.  It has a token
for each side: the last one leads forward to what comes behind, the first one
backward to what comes before.  A side that is missing or blank is not given.
A cursor without any side stands for the first page, and with both sides it
leads forward.
-/

namespace SchemaQuery

structure Cursor where
  first : Option String := some ""
  last : Option String := some ""
deriving DecidableEq, Repr, Inhabited

namespace Cursor

def isGiven (side : Option String) : Bool :=
  side.any fun token => !Text.isBlankText token

def isEmpty (cursor : Cursor) : Bool :=
  !isGiven cursor.first && !isGiven cursor.last

def isForward (cursor : Cursor) : Bool :=
  isGiven cursor.last || !isGiven cursor.first

def token (cursor : Cursor) : String :=
  (if cursor.isForward then cursor.last else cursor.first).getD ""

/-- Whether rows of a page have greater values than its edge. -/
def goesUp (cursor : Cursor) (direction : Direction) : Bool :=
  cursor.isForward == (direction == .ascending)

/-- Whether there are pages before and behind; `hasMore` is for the cursor's direction. -/
def pageFlags (cursor : Cursor) (hasMore : Bool) : Bool × Bool :=
  match isGiven cursor.first, isGiven cursor.last with
  | false, false => (false, hasMore)
  | true, false => (hasMore, true)
  | false, true => (true, hasMore)
  | true, true => (hasMore, hasMore)

theorem isForward_of_isEmpty {cursor : Cursor} (empty : cursor.isEmpty = true) :
    cursor.isForward = true := by
  simp only [isEmpty, Bool.and_eq_true, Bool.not_eq_true'] at empty
  simp [isForward, empty.1]

end Cursor

/-- The values of a boundary row by the paths of its sorts. -/
abbrev Edge := Dictionary Value

/-- A cursor with the edge that its token stands for, if it has one. -/
structure ResolvedCursor where
  cursor : Cursor := {}
  edge : Option Edge := none
deriving Inhabited

namespace ResolvedCursor

def isEmpty (resolved : ResolvedCursor) : Bool :=
  resolved.edge.isNone

def edgeValue (resolved : ResolvedCursor) (path : String) : Except Refusal Value :=
  match resolved.edge.bind fun edge => edge.get? path with
  | some value => .ok value
  | none => .error (.edgeValueMissing path)

end ResolvedCursor

end SchemaQuery
