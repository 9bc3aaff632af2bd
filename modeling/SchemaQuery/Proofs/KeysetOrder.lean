import SchemaQuery.Listing
import SchemaQuery.Proofs.RowOrder
import SchemaQuery.Proofs.Success

/-!
# The rows beyond an edge

The condition to be beyond the edge of a cursor is put together from branches: equal
in the columns up to some place, and past the edge in the column there.  The order of
a statement is put together from terms.  This file proves that both mean the same:
the condition holds on the rows that come strictly behind the edge in the order, where
missing values rank below all others.
-/

namespace SchemaQuery
namespace Sql

open Success

/-- The value of an edge for a path, which may be missing. -/
def edgeAt (cursor : ResolvedCursor) (path : String) : Value :=
  (cursor.edge.bind fun edge => edge.get? path).getD .null

theorem edgeAt_of_edgeValue {cursor : ResolvedCursor} {path : String} {value : Value}
    (found : cursor.edgeValue path = .ok value) : edgeAt cursor path = value := by
  unfold ResolvedCursor.edgeValue at found
  unfold edgeAt
  split at found
  · rename_i located
    rw [located]
    exact Except.ok.inj found
  · simp at found

/-- How the edge of a cursor ranks with a row. -/
def edgeRank (database : Database) (cursor : ResolvedCursor) (primaryKey : String)
    (sorted : List SortColumn) (row : Tuple) : Ordering :=
  lexicographic <|
    List.zipWith
      (fun column term =>
        term.rank database (edgeAt cursor column.sort.path) (row.value term.column))
      sorted (Listing.orderTerms cursor.cursor primaryKey sorted)

@[simp]
theorem edgeRank_nil (database : Database) (cursor : ResolvedCursor) (primaryKey : String)
    (row : Tuple) : edgeRank database cursor primaryKey [] row = .eq := rfl

/-- The edge of a cursor gives every sort a value, and only flags a truth value. -/
def GivesEdge (cursor : ResolvedCursor) (sorted : List SortColumn) : Prop :=
  ∀ column ∈ sorted, ∃ value,
    cursor.edgeValue column.sort.path = .ok value ∧
      (value.isBool = true → column.sort.target.leaf.dataType = .bool)

def Tuple.HasKey (row : Tuple) (primaryKey : String) (sorted : List SortColumn) : Prop :=
  ∀ column ∈ sorted, column.sort.path = primaryKey → row.value column.column ≠ .null

namespace Keyset

variable (database : Database) {cursor : ResolvedCursor} {primaryKey : String} (row : Tuple)

def headed (upward : Bool) : Direction :=
  if upward then .ascending else .descending

theorem headed_goesUp (cursor : Cursor) (direction : Direction) :
    headed (cursor.goesUp direction) =
      if cursor.isForward then direction else direction.flipped := by
  unfold headed Cursor.goesUp
  cases cursor.isForward <;> cases direction <;> rfl

theorem truth_compared {comparison : Comparison} {column : Column} {edge : Value}
    {condition : Condition} (present : edge ≠ .null)
    (made : Condition.compared comparison column edge = .ok condition) :
    condition.truth database row = .holds ↔
      row.value column ≠ .null ∧
        comparison.accepts (database.compare column (row.value column) edge) = true := by
  have written : condition = .compare comparison column edge := by
    cases edge <;> cases comparison <;>
      simp_all [Condition.compared, Comparison.isEquality]
  subst written
  have edgePresent := (Value.isNull_eq_false_iff edge).2 present
  cases found : (row.value column).isNull with
  | true =>
      have missing := (Value.isNull_iff _).1 found
      simp [Condition.truth, Database.compared, missing, Value.isNull]
  | false =>
      have rowPresent := (Value.isNull_eq_false_iff _).1 found
      simp [Condition.truth, Database.compared, found, edgePresent, rowPresent]

theorem truth_atEdge {column : Column} {edge : Value} {condition : Condition}
    (made : atEdge column edge = .ok condition) :
    condition.truth database row = .holds ↔
      withMissing true (database.compare column) edge (row.value column) = .eq := by
  by_cases missing : edge = .null
  · subst missing
    obtain rfl := Except.ok.inj made
    rw [Condition.truth_isNull, ← Value.isNull_iff]
    unfold withMissing
    cases (row.value column).isNull <;> simp
  · rw [truth_compared database row missing made, ← Value.isNull_eq_false_iff]
    unfold withMissing
    rw [(Value.isNull_eq_false_iff edge).2 missing]
    cases found : (row.value column).isNull with
    | true => simp
    | false => simp [Comparison.accepts, Ordering.isEq_iff_eq_eq, Std.OrientedCmp.eq_comm]

theorem truth_pastEdge {upward mayBeMissing : Bool} {column : Column} {edge : Value}
    {past : Option Condition} (made : pastEdge upward mayBeMissing column edge = .ok past)
    (present : mayBeMissing = false → row.value column ≠ .null) :
    (∃ condition ∈ past, condition.truth database row = .holds) ↔
      directed (headed upward)
        (withMissing true (database.compare column) edge (row.value column)) = .lt := by
  unfold pastEdge at made
  split at made
  · -- Above a missing edge are all values, and below it is nothing.
    obtain rfl := Except.ok.inj made
    unfold withMissing headed directed
    cases upward <;> cases found : (row.value column).isNull <;> simp_all
  · rename_i edgePresent
    obtain ⟨plain, compared, shaped⟩ := (bind_eq_ok _ _ _).1 made
    obtain rfl := (pure_eq_ok _ _).1 shaped
    have written := truth_compared database row edgePresent compared
    have edgeThere := (Value.isNull_eq_false_iff edge).2 edgePresent
    unfold withMissing headed directed
    rw [edgeThere]
    cases found : (row.value column).isNull with
    | true =>
        -- Only the condition for missing values can hold, and there is one if they occur.
        have missing := (Value.isNull_iff _).1 found
        have occurs : mayBeMissing = true := by
          cases mayBeMissing with
          | true => rfl
          | false => exact absurd missing (present rfl)
        cases upward <;> simp [occurs, written, missing]
    | false =>
        have rowPresent := (Value.isNull_eq_false_iff _).1 found
        cases upward <;> cases mayBeMissing <;>
          simp [written, rowPresent, Comparison.accepts, Ordering.isLT_iff_eq_lt,
            Ordering.isGT_iff_eq_gt, Std.OrientedCmp.gt_iff_lt]

theorem edgeRank_cons (sorted : SortColumn) (rest : List SortColumn) :
    edgeRank database cursor primaryKey (sorted :: rest) row =
      (directed (headed (cursor.cursor.goesUp sorted.sort.direction))
        (withMissing true (database.compare sorted.column) (edgeAt cursor sorted.sort.path)
          (row.value sorted.column))).then
        (edgeRank database cursor primaryKey rest row) := by
  rw [headed_goesUp]
  rfl

theorem truth_branch (equal : List Condition) (past : Condition) :
    (branch equal past).truth database row = .holds ↔
      (∀ condition ∈ equal, condition.truth database row = .holds) ∧
        past.truth database row = .holds := by
  unfold branch
  cases equal with
  | nil => simp
  | cons condition rest => simp [Truth.all_eq_holds, and_assoc]

theorem branches_cons_eq_ok {equal branching : List Condition} {sorted : SortColumn}
    {rest : List SortColumn}
    (made : branches cursor primaryKey equal (sorted :: rest) = .ok branching) :
    ∃ edge past atIt others,
      cursor.edgeValue sorted.sort.path = .ok edge ∧
        pastEdge (cursor.cursor.goesUp sorted.sort.direction)
          (sorted.sort.path != primaryKey) sorted.column edge = .ok past ∧
        atEdge sorted.column edge = .ok atIt ∧
        branches cursor primaryKey (equal ++ [atIt]) rest = .ok others ∧
        branching = (past.map (branch equal)).toList ++ others := by
  simp only [branches, bind_eq_ok, mapError_eq_ok] at made
  obtain ⟨edge, given, past, pastMade, atIt, atMade, others, othersMade, gathered⟩ := made
  refine ⟨edge, past, atIt, others, given, pastMade, atMade, othersMade, ?_⟩
  cases past with
  | none => exact ((pure_eq_ok _ _).1 gathered).symm
  | some condition => exact ((pure_eq_ok _ _).1 gathered).symm

/-- One of the branches holds on a row that equals the edge in the columns before and is behind it
in the rest. By induction on the columns, while `equal` grows. -/
theorem truth_branches {sorted : List SortColumn} {equal branching : List Condition}
    (made : branches cursor primaryKey equal sorted = .ok branching)
    (keyed : row.HasKey primaryKey sorted) :
    (∃ condition ∈ branching, condition.truth database row = .holds) ↔
      (∀ condition ∈ equal, condition.truth database row = .holds) ∧
        edgeRank database cursor primaryKey sorted row = .lt := by
  induction sorted generalizing equal branching with
  | nil =>
      obtain rfl := Except.ok.inj made
      simp
  | cons sorted rest hypothesis =>
      obtain ⟨edge, past, atIt, others, given, pastMade, atMade, othersMade, rfl⟩ :=
        branches_cons_eq_ok made
      have keyPresent : (sorted.sort.path != primaryKey) = false →
          row.value sorted.column ≠ .null := by
        intro isKey
        exact keyed sorted List.mem_cons_self (by simpa using isKey)
      have restKeyed : row.HasKey primaryKey rest := by
        intro column member
        exact keyed column (List.mem_cons_of_mem sorted member)
      have pastIt := truth_pastEdge database row pastMade keyPresent
      have equalsIt := truth_atEdge database row atMade
      have behind := hypothesis othersMade restKeyed
      rw [edgeRank_cons, edgeAt_of_edgeValue given, Ordering.then_eq_lt, directed_eq_eq,
        ← pastIt, ← equalsIt]
      have gathered :
          (∃ condition ∈ (past.map (branch equal)).toList ++ others,
              condition.truth database row = .holds) ↔
            (∃ condition ∈ past, (branch equal condition).truth database row = .holds) ∨
              ∃ condition ∈ others, condition.truth database row = .holds := by
        cases past <;> simp
      rw [gathered, behind]
      simp only [truth_branch, List.forall_mem_append, List.forall_mem_singleton]
      constructor
      · rintro (⟨condition, member, before, pasts⟩ | ⟨⟨before, equals⟩, comesBehind⟩)
        · exact ⟨before, Or.inl ⟨condition, member, pasts⟩⟩
        · exact ⟨before, Or.inr ⟨equals, comesBehind⟩⟩
      · rintro ⟨before, ⟨condition, member, pasts⟩ | ⟨equals, comesBehind⟩⟩
        · exact Or.inl ⟨condition, member, before, pasts⟩
        · exact Or.inr ⟨⟨before, equals⟩, comesBehind⟩

/-- The condition to be beyond an edge holds on the rows that the edge ranks before. -/
theorem truth_condition {sorted : List SortColumn} {beyond : Condition}
    (made : Keyset.condition cursor primaryKey sorted = .ok beyond)
    (keyed : row.HasKey primaryKey sorted) :
    beyond.truth database row = .holds ↔
      edgeRank database cursor primaryKey sorted row = .lt := by
  simp only [Keyset.condition] at made
  split at made
  · exact absurd made (by simp)
  obtain ⟨branching, branchesMade, gathered⟩ := (bind_eq_ok _ _ _).1 made
  have holding := truth_branches database row branchesMade keyed
  simp only [List.not_mem_nil, false_implies, implies_true, true_and] at holding
  rw [← holding]
  split at gathered
  · obtain rfl := (pure_eq_ok _ _).1 gathered
    simp [Condition.truth]
  · obtain rfl := (pure_eq_ok _ _).1 gathered
    simp
  · obtain rfl := (pure_eq_ok _ _).1 gathered
    simp [Truth.any_eq_holds]

theorem exists_compared (comparison : Comparison) (column : Column) {operand : Value}
    (present : operand ≠ .null) (noTruth : operand.isBool = false) :
    ∃ condition, Condition.compared comparison column operand = .ok condition := by
  refine ⟨.compare comparison column operand, ?_⟩
  cases operand <;> cases comparison <;> simp_all [Condition.compared, Value.isBool]

theorem exists_atEdge (column : Column) {edge : Value} (noTruth : edge.isBool = false) :
    ∃ condition, atEdge column edge = .ok condition := by
  by_cases missing : edge = .null
  · subst missing
    exact ⟨_, rfl⟩
  · exact exists_compared .equal column missing noTruth

theorem exists_pastEdge (upward mayBeMissing : Bool) (column : Column) {edge : Value}
    (noTruth : edge.isBool = false) :
    ∃ past, pastEdge upward mayBeMissing column edge = .ok past := by
  by_cases missing : edge = .null
  · subst missing
    exact ⟨_, rfl⟩
  · obtain ⟨past, compared⟩ :=
      exists_compared (if upward then .greater else .less) column missing noTruth
    unfold pastEdge
    split
    · exact absurd rfl missing
    · rw [compared]
      exact ⟨_, rfl⟩

theorem exists_branches (primaryKey : String) {sorted : List SortColumn} (equal : List Condition)
    (given : ∀ column ∈ sorted, ∃ value,
      cursor.edgeValue column.sort.path = .ok value ∧ value.isBool = false) :
    ∃ branching, branches cursor primaryKey equal sorted = .ok branching := by
  induction sorted generalizing equal with
  | nil => exact ⟨[], rfl⟩
  | cons sorted rest hypothesis =>
      obtain ⟨edge, edgeGiven, noTruth⟩ := given sorted List.mem_cons_self
      obtain ⟨past, pastMade⟩ :=
        exists_pastEdge (cursor.cursor.goesUp sorted.sort.direction)
          (sorted.sort.path != primaryKey) sorted.column noTruth
      obtain ⟨atIt, atMade⟩ := exists_atEdge sorted.column noTruth
      obtain ⟨others, othersMade⟩ := hypothesis (equal ++ [atIt]) fun column member =>
        given column (List.mem_cons_of_mem sorted member)
      refine ⟨(past.map (branch equal)).toList ++ others, ?_⟩
      simp only [branches, bind_eq_ok, mapError_eq_ok]
      refine ⟨edge, edgeGiven, past, pastMade, atIt, atMade, others, othersMade, ?_⟩
      cases past <;> rfl

theorem exists_condition (primaryKey : String) {sorted : List SortColumn} (nonempty : sorted ≠ [])
    (given : ∀ column ∈ sorted, ∃ value,
      cursor.edgeValue column.sort.path = .ok value ∧ value.isBool = false) :
    ∃ beyond, Keyset.condition cursor primaryKey sorted = .ok beyond := by
  obtain ⟨branching, branchesMade⟩ :=
    exists_branches primaryKey [] given
  have notEmpty : sorted.isEmpty = false := by simpa using nonempty
  unfold Keyset.condition
  rw [notEmpty, branchesMade]
  rcases branching with _ | ⟨condition, _ | ⟨other, rest⟩⟩ <;> exact ⟨_, rfl⟩

theorem compareRows_orderTerms {sorted : List SortColumn} {one other : Tuple}
    (cursor : Cursor) (oneKeyed : one.HasKey primaryKey sorted)
    (otherKeyed : other.HasKey primaryKey sorted) :
    compareRows database (Listing.orderTerms cursor primaryKey sorted) one other =
      rankRows database (Listing.orderTerms cursor primaryKey sorted) one other := by
  apply compareRows_eq_rankRows
  intro term member
  obtain ⟨column, columnMember, rfl⟩ := List.mem_map.1 member
  by_cases isKey : column.sort.path = primaryKey
  · exact Or.inr ⟨oneKeyed column columnMember isKey, otherKeyed column columnMember isKey⟩
  · exact Or.inl (by simpa using isKey)

theorem exists_condition_of_givesEdge (primaryKey : String) {sorted : List SortColumn}
    (nonempty : sorted ≠ [])
    (noFlag : ∀ column ∈ sorted, column.sort.target.leaf.dataType ≠ .bool)
    (given : GivesEdge cursor sorted) :
    ∃ beyond, Keyset.condition cursor primaryKey sorted = .ok beyond := by
  apply exists_condition primaryKey nonempty
  intro column member
  obtain ⟨value, found, onlyFlags⟩ := given column member
  refine ⟨value, found, ?_⟩
  rw [← Bool.not_eq_true]
  intro isTruth
  exact noFlag column member (onlyFlags isTruth)

def byScore : ResolvedSort :=
  ⟨⟨"score", "", [], { field := "score", dataType := .int, tableName := "player" }⟩,
    .descending⟩

def byNumber : ResolvedSort :=
  ⟨⟨"id", "", [], { field := "id", dataType := .int, tableName := "player" }⟩, .ascending⟩

def ranking : List SortColumn :=
  [⟨byScore, ⟨.root "player", "score"⟩⟩, ⟨byNumber, ⟨.root "player", "id"⟩⟩]

def player (number score : Value)
    (storable : (number.isStorable && score.isStorable) = true := by decide) : Tuple where
  value column := if column.name = "id" then number else score
  storable column := by
    rw [Bool.and_eq_true] at storable
    split
    · exact storable.1
    · exact storable.2

def behindThird : ResolvedCursor where
  cursor := { last := some "e30" }
  edge := some [("score", .null), ("id", .int 3)]

theorem givesEdge_behindThird : GivesEdge behindThird ranking := by
  intro column member
  simp only [ranking, List.mem_cons, List.not_mem_nil, or_false] at member
  rcases member with rfl | rfl
  · exact ⟨.null, rfl, by simp [Value.isBool]⟩
  · exact ⟨.int 3, rfl, by simp [Value.isBool]⟩

end Keyset
end Sql
end SchemaQuery
