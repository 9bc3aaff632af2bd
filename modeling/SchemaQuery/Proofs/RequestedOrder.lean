import SchemaQuery.Proofs.KeysetOrder
import SchemaQuery.Proofs.PlannedColumns

/-!
# The order that a request asks for

A request asks for its rows in the order of its sorts, each in its own direction, with
missing values below all others.  A statement for a forward cursor orders its rows just
so, and one for a backward cursor the other way round.

The primary key is always among the sorts.  Where rows have a key each, the order
therefore tells any two of them apart.
-/

namespace SchemaQuery
namespace Sql

/-- How two values of a sort's column rank in the direction of the sort. -/
def SortColumn.rank (database : Database) (column : SortColumn) (one other : Value) :
    Ordering :=
  directed column.sort.direction (withMissing true (database.compare column.column) one other)

def requestedOrder (database : Database) (sorted : List SortColumn) (one other : Tuple) :
    Ordering :=
  lexicographic <| sorted.map fun column =>
    column.rank database (one.value column.column) (other.value column.column)

/-- How the edge of a cursor compares with a row in the order of sorts. -/
def edgeOrder (database : Database) (cursor : ResolvedCursor) (sorted : List SortColumn)
    (row : Tuple) : Ordering :=
  lexicographic <| sorted.map fun column =>
    column.rank database (edgeAt cursor column.sort.path) (row.value column.column)

instance transCmp_rank (database : Database) (column : SortColumn) :
    Std.TransCmp (column.rank database) :=
  transCmp_directed column.sort.direction (withMissing true (database.compare column.column))

instance transCmp_requestedOrder (database : Database) (sorted : List SortColumn) :
    Std.TransCmp (requestedOrder database sorted) := by
  induction sorted with
  | nil => exact { eq_swap := rfl, isLE_trans := fun _ _ => rfl }
  | cons column rest hypothesis =>
      have first : Std.TransCmp fun one other : Tuple =>
          column.rank database (one.value column.column) (other.value column.column) :=
        { eq_swap := Std.OrientedCmp.eq_swap
          isLE_trans := Std.TransCmp.isLE_trans }
      exact inferInstanceAs (Std.TransCmp (compareLex _ (requestedOrder database rest)))

variable (database : Database) {primaryKey : String} {sorted : List SortColumn}

theorem edgeOrder_eq_requestedOrder {cursor : ResolvedCursor} {edge : Tuple}
    (same : ∀ column ∈ sorted, edgeAt cursor column.sort.path = edge.value column.column)
    (row : Tuple) :
    edgeOrder database cursor sorted row = requestedOrder database sorted edge row := by
  unfold edgeOrder requestedOrder
  congr 1
  apply List.map_congr_left
  intro column member
  rw [same column member]

/-- The terms of a statement rank as the sorts do, or in reverse. -/
theorem rank_orderTerms (primaryKey : String) (cursor : Cursor) (column : SortColumn)
    (one other : Value) :
    (OrderTerm.mk column.column
        (if cursor.isForward then column.sort.direction else column.sort.direction.flipped)
        (column.sort.path != primaryKey)).rank database one other =
      if cursor.isForward then column.rank database one other
      else (column.rank database one other).swap := by
  unfold OrderTerm.rank SortColumn.rank
  cases cursor.isForward <;> simp [directed_flipped]

theorem rankRows_orderTerms (cursor : Cursor) (one other : Tuple) :
    rankRows database (Listing.orderTerms cursor primaryKey sorted) one other =
      if cursor.isForward then requestedOrder database sorted one other
      else (requestedOrder database sorted one other).swap := by
  unfold rankRows requestedOrder Listing.orderTerms
  rw [List.map_map]
  have each := rank_orderTerms database primaryKey cursor
  cases forward : cursor.isForward with
  | true => rfl
  | false =>
      simp only [forward, Bool.false_eq_true, if_false] at each ⊢
      rw [swap_lexicographic, List.map_map]
      congr 1
      apply List.map_congr_left
      intro column _
      exact each column _ _

theorem edgeRank_eq_edgeOrder (cursor : ResolvedCursor) (row : Tuple) :
    edgeRank database cursor primaryKey sorted row =
      if cursor.cursor.isForward then edgeOrder database cursor sorted row
      else (edgeOrder database cursor sorted row).swap := by
  have each := rank_orderTerms database primaryKey cursor.cursor
  induction sorted with
  | nil => cases cursor.cursor.isForward <;> rfl
  | cons column rest hypothesis =>
      rw [Keyset.edgeRank_cons, hypothesis]
      unfold edgeOrder
      rw [List.map_cons, lexicographic_cons, Keyset.headed_goesUp]
      have first := each column (edgeAt cursor column.sort.path) (row.value column.column)
      unfold OrderTerm.rank at first
      rw [first]
      cases cursor.cursor.isForward with
      | true => rfl
      | false => exact (Ordering.swap_then ..).symm

def keyColumn (entity : LoadedEntity) : Column :=
  ⟨.root entity.tableName, entity.primaryKey⟩

/-- Each row has a primary key, and no two have the same. -/
structure Keyed (entity : LoadedEntity) (rows : List Tuple) : Prop where
  present : ∀ row ∈ rows, row.value (keyColumn entity) ≠ .null
  apart : rows.Pairwise fun one other =>
    database.compare (keyColumn entity) (one.value (keyColumn entity))
      (other.value (keyColumn entity)) ≠ .eq

/-- The primary key is a column, and sorts by its path are by it. -/
structure SortsByKey (entity : LoadedEntity) (sorts : List ResolvedSort) : Prop where
  isColumn : entity.primaryKeyAttribute.dataType ≠ .junction
  target_eq : ∀ sort ∈ sorts, sort.path = entity.primaryKey →
    sort.target = .toPrimaryKey entity

/-- There is a sort by the primary key, and all such sorts are by its column. -/
structure IncludesKey (entity : LoadedEntity) (sorted : List SortColumn) : Prop where
  exists_key : ∃ column ∈ sorted, column.sort.path = entity.primaryKey
  column_eq : ∀ column ∈ sorted, column.sort.path = entity.primaryKey →
    column.column = keyColumn entity

variable {entity : LoadedEntity} {rows : List Tuple}

/-- Sorts that are made total by the primary key are planned with its column. -/
theorem includesKey_of_planned {operators : Operators} {filters : List ResolvedFilter}
    {sorts : List ResolvedSort} {filtering : List Condition} {plan : JoinPlan}
    (byKey : SortsByKey entity sorts)
    (planned : (Listing.planned operators filters
      (ResolvedSort.withPrimaryKey entity sorts)).run { entity } =
        .ok ((filtering, sorted), plan)) :
    IncludesKey entity sorted := by
  obtain ⟨sameSorts, ownTable⟩ := Listing.planned_eq_ok planned
  constructor
  · obtain ⟨sort, member, isKey⟩ := ResolvedSort.exists_path_eq_primaryKey entity sorts
    rw [← sameSorts] at member
    obtain ⟨column, columnMember, rfl⟩ := List.mem_map.1 member
    exact ⟨column, columnMember, isKey⟩
  · intro column member isKey
    have sortMember : column.sort ∈ ResolvedSort.withPrimaryKey entity sorts := by
      rw [← sameSorts]
      exact List.mem_map_of_mem member
    have target : column.sort.target = .toPrimaryKey entity := by
      unfold ResolvedSort.withPrimaryKey at sortMember
      split at sortMember
      · exact byKey.target_eq _ sortMember isKey
      · rcases List.mem_append.1 sortMember with requested | added
        · exact byKey.target_eq _ requested isKey
        · rw [List.mem_singleton.1 added]
    have own := ownTable column member
    rw [target] at own
    rw [own rfl byKey.isColumn]
    exact congrArg (Column.mk (.root entity.tableName)) (Entity.field_primaryKeyAttribute entity)

theorem Keyed.hasKey (keyed : Keyed database entity rows) (includes : IncludesKey entity sorted)
    {row : Tuple} (member : row ∈ rows) : row.HasKey entity.primaryKey sorted := by
  intro column columnMember isKey
  rw [includes.column_eq column columnMember isKey]
  exact keyed.present row member

theorem compare_keys_of_requestedOrder {one other : Tuple}
    (includes : IncludesKey entity sorted)
    (onePresent : one.value (keyColumn entity) ≠ .null)
    (otherPresent : other.value (keyColumn entity) ≠ .null)
    (equal : requestedOrder database sorted one other = .eq) :
    database.compare (keyColumn entity) (one.value (keyColumn entity))
      (other.value (keyColumn entity)) = .eq := by
  obtain ⟨column, member, isKey⟩ := includes.exists_key
  have ranksEqual := (lexicographic_eq_eq _).1 equal _ (List.mem_map_of_mem member)
  rw [includes.column_eq column member isKey] at ranksEqual
  unfold SortColumn.rank at ranksEqual
  rw [directed_eq_eq, includes.column_eq column member isKey] at ranksEqual
  unfold withMissing at ranksEqual
  rw [(Value.isNull_eq_false_iff _).2 onePresent,
    (Value.isNull_eq_false_iff _).2 otherPresent] at ranksEqual
  exact ranksEqual

theorem Keyed.pairwise_requestedOrder (keyed : Keyed database entity rows)
    (includes : IncludesKey entity sorted) :
    rows.Pairwise fun one other => requestedOrder database sorted one other ≠ .eq := by
  apply keyed.apart.imp_of_mem
  intro one other oneMember otherMember apart equal
  exact apart (compare_keys_of_requestedOrder database includes
    (keyed.present one oneMember) (keyed.present other otherMember) equal)

def ranked (filtering : List Condition) (sorted : List SortColumn) (rows : List Tuple) :
    List Tuple :=
  sortedBy (requestedOrder database sorted) <|
    rows.filter fun row => filtering.all fun condition =>
      condition.truth database row = .holds

theorem perm_ranked (filtering : List Condition) :
    (ranked database filtering sorted rows).Perm
      (rows.filter fun row => filtering.all fun condition =>
        condition.truth database row = .holds) :=
  perm_sortedBy _ _

theorem mem_of_mem_ranked {filtering : List Condition} {row : Tuple}
    (member : row ∈ ranked database filtering sorted rows) : row ∈ rows :=
  (List.mem_filter.1 ((perm_ranked database filtering).mem_iff.1 member)).1

/-- Sorted rows of which no two are equal come strictly one after another. -/
theorem pairwise_lt_of_isLE {order : Tuple → Tuple → Ordering} {ordered : List Tuple}
    (increasing : ordered.Pairwise fun one other => (order one other).isLE)
    (apart : ordered.Pairwise fun one other => order one other ≠ .eq) :
    ordered.Pairwise fun one other => order one other = .lt := by
  apply (increasing.and apart).imp
  rintro one other ⟨below, differ⟩
  cases found : order one other <;> simp_all

theorem Keyed.pairwise_ranked (keyed : Keyed database entity rows)
    (includes : IncludesKey entity sorted) (filtering : List Condition) :
    (ranked database filtering sorted rows).Pairwise fun one other =>
      requestedOrder database sorted one other = .lt := by
  apply pairwise_lt_of_isLE
  · exact pairwise_sortedBy _ _
  · apply List.Pairwise.perm _ (perm_ranked database filtering).symm
    · intro one other differ equal
      exact differ (Std.OrientedCmp.eq_symm equal)
    · exact (keyed.pairwise_requestedOrder database includes).filter _

theorem eq_of_perm_of_pairwise_lt {order : Tuple → Tuple → Ordering} [Std.OrientedCmp order]
    {first second : List Tuple} (perm : first.Perm second)
    (firstOrdered : first.Pairwise fun one other => order one other = .lt)
    (secondOrdered : second.Pairwise fun one other => order one other = .lt) :
    first = second := by
  refine List.Perm.eq_of_pairwise ?_ firstOrdered secondOrdered perm
  intro one other _ _ before behind
  rw [@Std.OrientedCmp.eq_swap _ order _ one other, behind] at before
  exact absurd before (by decide)

end Sql
end SchemaQuery
