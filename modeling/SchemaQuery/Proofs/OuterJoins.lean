import Mathlib.Data.List.Induction
import SchemaQuery.Proofs.RowOrder

/-!
# The rows that outer joins make

A statement selects from the rows of one table, each put together with rows of the tables that are
joined to it.  A left outer join puts a row beside every row of its table that matches it, or
beside missing values if none does.  This file says which rows come out of a list of joins, as
long as each has an alias of its own and refers to tables in front of it: those in which every
alias stands for a row that its join allows.  Joins that find one row at most neither lose nor
multiply rows.
-/

namespace SchemaQuery
namespace Sql

@[ext]
structure TableRow where
  value : String → Value
  storable : ∀ name, (value name).isStorable = true

def TableRow.missing : TableRow where
  value _ := .null
  storable _ := rfl

/-- The rows of the tables of a database, by the names of the tables. -/
abbrev Tables := String → List TableRow

namespace Tuple

/-- The row that a table contributes where it occurs in a statement. -/
def rowAt (tuple : Tuple) (occurrence : Occurrence) : TableRow where
  value name := tuple.value ⟨occurrence, name⟩
  storable name := tuple.storable ⟨occurrence, name⟩

def put (tuple : Tuple) (occurrence : Occurrence) (row : TableRow) : Tuple where
  value column := if column.table = occurrence then row.value column.name else tuple.value column
  storable column := by
    split
    · exact row.storable column.name
    · exact tuple.storable column

def missing : Tuple where
  value _ := .null
  storable _ := rfl

variable {tuple other : Tuple} {occurrence place : Occurrence} {row : TableRow}

theorem ext_rowAt (same : ∀ occurrence, tuple.rowAt occurrence = other.rowAt occurrence) :
    tuple = other := by
  obtain ⟨value, storable⟩ := tuple
  obtain ⟨otherValue, otherStorable⟩ := other
  have values : value = otherValue := by
    funext column
    exact congrFun (congrArg TableRow.value (same column.table)) column.name
  subst values
  rfl

theorem value_eq (tuple : Tuple) (column : Column) :
    tuple.value column = (tuple.rowAt column.table).value column.name :=
  rfl

@[simp]
theorem rowAt_missing (occurrence : Occurrence) : missing.rowAt occurrence = .missing :=
  rfl

@[simp]
theorem rowAt_put_self : (tuple.put occurrence row).rowAt occurrence = row := by
  ext name
  simp [rowAt, put]

theorem rowAt_put_of_ne (differs : place ≠ occurrence) :
    (tuple.put occurrence row).rowAt place = tuple.rowAt place := by
  ext name
  simp [rowAt, put, differs]

theorem value_put_of_ne {column : Column} (differs : column.table ≠ occurrence) :
    (tuple.put occurrence row).value column = tuple.value column := by
  rw [value_eq, rowAt_put_of_ne differs, ← value_eq]

/-- Whatever is put in its place, a row can be put back. -/
theorem put_rowAt_put :
    (tuple.put occurrence row).put occurrence (tuple.rowAt occurrence) = tuple := by
  apply ext_rowAt
  intro place
  by_cases here : place = occurrence
  · rw [here, rowAt_put_self]
  · rw [rowAt_put_of_ne here, rowAt_put_of_ne here]

end Tuple

namespace Join

variable (database : Database) (tables : Tables) (join : Join)

/-- The table that a join adds, as it occurs in the statement. -/
def occurrence : Occurrence :=
  .joined join.knownAs

/-- Whether a row of the joined table matches a row of those in front of it. -/
def isMatch (tuple : Tuple) (row : TableRow) : Bool :=
  database.compared .equal ⟨join.occurrence, join.column⟩ (row.value join.column)
    (tuple.value join.owner) = .holds

/-- The rows that a join puts beside a row: matching ones, or a missing one. -/
def related (tuple : Tuple) : List TableRow :=
  match (tables join.table).filter (join.isMatch database tuple) with
  | [] => [.missing]
  | found => found

def extend (rows : List Tuple) : List Tuple :=
  rows.flatMap fun tuple => (join.related database tables tuple).map (tuple.put join.occurrence)

/-- Whether the row that a join has put in is one that it may. -/
def Relates (tuple : Tuple) : Prop :=
  tuple.rowAt join.occurrence ∈ join.related database tables tuple

variable {database tables join}

theorem mem_extend_iff {rows : List Tuple} {tuple : Tuple} :
    tuple ∈ join.extend database tables rows ↔
      ∃ before ∈ rows, ∃ row ∈ join.related database tables before,
        before.put join.occurrence row = tuple := by
  unfold extend
  simp only [List.mem_flatMap, List.mem_map]

/-- What a join finds is told by the value that it equates with its table's column. -/
theorem related_congr {tuple other : Tuple}
    (same : tuple.value join.owner = other.value join.owner) :
    join.related database tables tuple = join.related database tables other := by
  unfold related isMatch
  rw [same]

theorem relates_congr {tuple other : Tuple} (same : tuple.value join.owner = other.value join.owner)
    (sameRow : tuple.rowAt join.occurrence = other.rowAt join.occurrence) :
    join.Relates database tables tuple ↔ join.Relates database tables other := by
  unfold Relates
  rw [related_congr same, sameRow]

end Join

/-- Whether a column is a key of a table: never missing, and never the same in two rows. -/
structure KeyedBy (database : Database) (key : String) (rows : List TableRow) : Prop where
  present : ∀ row ∈ rows, row.value key ≠ .null
  apart : ∀ occurrence, rows.Pairwise fun one other =>
    database.compare ⟨occurrence, key⟩ (one.value key) (other.value key) ≠ .eq

section Keys

variable {database : Database} {tables : Tables} {join : Join}

theorem KeyedBy.eq_of_compare {key : String} {rows : List TableRow}
    (keyed : KeyedBy database key rows) {one other : TableRow} (isRow : one ∈ rows)
    (alsoRow : other ∈ rows) {occurrence : Occurrence}
    (same : database.compare ⟨occurrence, key⟩ (one.value key) (other.value key) = .eq) :
    one = other := by
  by_contra differ
  have symmetric : Std.Symm fun one other : TableRow =>
      database.compare ⟨occurrence, key⟩ (one.value key) (other.value key) ≠ .eq := by
    constructor
    intro one other apart equal
    exact apart (Std.OrientedCmp.eq_symm equal)
  exact (keyed.apart occurrence).forall isRow alsoRow differ same

theorem KeyedBy.nodup {key : String} {rows : List TableRow} (keyed : KeyedBy database key rows) :
    rows.Nodup := by
  apply (keyed.apart (.root "")).imp
  rintro one other apart rfl
  exact apart Std.ReflCmp.compare_self

theorem Join.compare_of_isMatch {tuple : Tuple} {row : TableRow}
    (isMatch : join.isMatch database tuple row = true) :
    database.compare ⟨join.occurrence, join.column⟩ (row.value join.column)
      (tuple.value join.owner) = .eq := by
  unfold Join.isMatch Database.compared at isMatch
  split at isMatch
  · simp at isMatch
  · simpa [Comparison.accepts, Ordering.isEq_iff_eq_eq] using isMatch

theorem Join.related_of_keyed (keyed : KeyedBy database join.column (tables join.table))
    (tuple : Tuple) : ∃ row, join.related database tables tuple = [row] := by
  have matches_equal {one other : TableRow} (oneMatches : join.isMatch database tuple one = true)
      (otherMatches : join.isMatch database tuple other = true) :
      database.compare ⟨join.occurrence, join.column⟩ (one.value join.column)
        (other.value join.column) = .eq :=
    Std.TransCmp.eq_trans (compare_of_isMatch oneMatches)
      (Std.OrientedCmp.eq_symm (compare_of_isMatch otherMatches))
  have apart := (keyed.apart join.occurrence).filter (join.isMatch database tuple)
  have allMatch : ∀ row ∈ (tables join.table).filter (join.isMatch database tuple),
      join.isMatch database tuple row = true := fun row isFound => (List.mem_filter.1 isFound).2
  unfold related
  revert apart allMatch
  generalize (tables join.table).filter (join.isMatch database tuple) = found
  intro apart allMatch
  match found with
  | [] => exact ⟨_, rfl⟩
  | [row] => exact ⟨row, rfl⟩
  | first :: second :: rest =>
      have differ := (List.pairwise_cons.1 apart).1 second List.mem_cons_self
      exact absurd (matches_equal (allMatch first (by simp)) (allMatch second (by simp))) differ

/-- Rows of a join by a key are told by the values that it equates with the key. -/
theorem Join.rowAt_eq_of_keyed (keyed : KeyedBy database join.column (tables join.table))
    {one other : Tuple} (same : one.value join.owner = other.value join.owner)
    (oneRelates : join.Relates database tables one)
    (otherRelates : join.Relates database tables other) :
    one.rowAt join.occurrence = other.rowAt join.occurrence := by
  obtain ⟨row, alone⟩ := related_of_keyed keyed one
  unfold Relates at oneRelates otherRelates
  rw [← related_congr same] at otherRelates
  rw [alone, List.mem_singleton] at oneRelates otherRelates
  exact oneRelates.trans otherRelates.symm

end Keys

/-- Whether each join has a new alias and refers to the root table or to an alias before. -/
inductive WellScoped : List Join → Prop
  | nil : WellScoped []
  | concat {joins : List Join} {join : Join} (inScope : WellScoped joins)
      (fresh : ∀ other ∈ joins, other.knownAs ≠ join.knownAs)
      (refers : ∀ key, join.owner.table = .joined key → ∃ other ∈ joins, other.knownAs = key) :
      WellScoped (joins ++ [join])

theorem WellScoped.refers_before {before behind : List Join} {join : Join}
    (inScope : WellScoped (before ++ join :: behind)) {key : String}
    (refers : join.owner.table = .joined key) : ∃ other ∈ before, other.knownAs = key := by
  generalize whole : before ++ join :: behind = joins at inScope
  induction inScope generalizing behind with
  | nil => simp at whole
  | @concat earlier last inScope fresh here hypothesis =>
      rcases List.eq_nil_or_concat behind with rfl | ⟨between, final, rfl⟩
      · obtain ⟨rfl, isLast⟩ := List.append_inj' whole rfl
        obtain rfl := List.singleton_inj.1 isLast
        exact here key refers
      · rw [List.concat_eq_append, ← List.cons_append, ← List.append_assoc] at whole
        exact hypothesis (List.append_inj' whole rfl).1

theorem WellScoped.refers {joins : List Join} (inScope : WellScoped joins) {join : Join}
    (isJoin : join ∈ joins) {key : String} (refers : join.owner.table = .joined key) :
    ∃ other ∈ joins, other.knownAs = key := by
  obtain ⟨before, behind, rfl⟩ := List.append_of_mem isJoin
  obtain ⟨other, isOther, same⟩ := inScope.refers_before refers
  exact ⟨other, List.mem_append_left _ isOther, same⟩

def Select.joinedRows (statement : Select) (database : Database) (tables : Tables) : List Tuple :=
  statement.joins.foldl (fun rows join => join.extend database tables rows)
    ((tables statement.root).map (Tuple.missing.put (.root statement.root)))

/-- Whether a row is put together from rows that the joins of a statement allow. -/
structure IsJoined (database : Database) (tables : Tables) (root : String) (joins : List Join)
    (tuple : Tuple) : Prop where
  isRow : tuple.rowAt (.root root) ∈ tables root
  relates : ∀ join ∈ joins, join.Relates database tables tuple
  elsewhere : ∀ occurrence, occurrence ≠ .root root →
    (∀ join ∈ joins, occurrence ≠ join.occurrence) → tuple.rowAt occurrence = .missing

section Joining

variable {database : Database} {tables : Tables} {root : String} {joins : List Join} {join : Join}
  {tuple : Tuple} {row : TableRow}

section Last

variable (inScope : WellScoped joins) (fresh : ∀ other ∈ joins, other.knownAs ≠ join.knownAs)

include inScope fresh

/-- A row at a fresh alias makes no difference to the joins in front. -/
theorem relates_put_iff {other : Join} (isOther : other ∈ joins) :
    other.Relates database tables (tuple.put join.occurrence row) ↔
      other.Relates database tables tuple := by
  have aliasDiffers : other.occurrence ≠ join.occurrence :=
    fun same => fresh other isOther (Occurrence.joined.inj same)
  have ownerDiffers : other.owner.table ≠ join.occurrence := by
    intro same
    obtain ⟨owner, isOwner, named⟩ := inScope.refers isOther same
    exact fresh owner isOwner named
  exact Join.relates_congr (Tuple.value_put_of_ne ownerDiffers) (Tuple.rowAt_put_of_ne aliasDiffers)

theorem IsJoined.withoutLast
    (joined : IsJoined database tables root (joins ++ [join]) tuple) :
    IsJoined database tables root joins (tuple.put join.occurrence .missing) where
  isRow := by
    rw [Tuple.rowAt_put_of_ne Occurrence.noConfusion]
    exact joined.isRow
  relates other isOther := by
    rw [relates_put_iff inScope fresh isOther]
    exact joined.relates other (List.mem_append_left _ isOther)
  elsewhere occurrence notRoot notJoined := by
    by_cases here : occurrence = join.occurrence
    · rw [here, Tuple.rowAt_put_self]
    · rw [Tuple.rowAt_put_of_ne here]
      apply joined.elsewhere occurrence notRoot
      intro other isOther
      rcases List.mem_append.1 isOther with earlier | last
      · exact notJoined other earlier
      · rw [List.mem_singleton.1 last]
        exact here

variable (ownerDiffers : join.owner.table ≠ join.occurrence)

include ownerDiffers

theorem IsJoined.withLast (joined : IsJoined database tables root joins tuple)
    (isRelated : row ∈ join.related database tables tuple) :
    IsJoined database tables root (joins ++ [join]) (tuple.put join.occurrence row) where
  isRow := by
    rw [Tuple.rowAt_put_of_ne Occurrence.noConfusion]
    exact joined.isRow
  relates other isOther := by
    rcases List.mem_append.1 isOther with earlier | last
    · rw [relates_put_iff inScope fresh earlier]
      exact joined.relates other earlier
    · rw [List.mem_singleton.1 last]
      unfold Join.Relates
      rw [Tuple.rowAt_put_self, Join.related_congr (Tuple.value_put_of_ne ownerDiffers)]
      exact isRelated
  elsewhere occurrence notRoot notJoined := by
    rw [Tuple.rowAt_put_of_ne (notJoined join (by simp))]
    exact joined.elsewhere occurrence notRoot fun other isOther =>
      notJoined other (List.mem_append_left _ isOther)

theorem isJoined_concat_iff :
    IsJoined database tables root (joins ++ [join]) tuple ↔
      ∃ before, IsJoined database tables root joins before ∧
        ∃ row ∈ join.related database tables before, before.put join.occurrence row = tuple := by
  constructor
  · intro joined
    refine ⟨_, joined.withoutLast inScope fresh, tuple.rowAt join.occurrence, ?_,
      Tuple.put_rowAt_put⟩
    rw [Join.related_congr (Tuple.value_put_of_ne ownerDiffers)]
    exact joined.relates join (by simp)
  · rintro ⟨before, joined, row, isRelated, rfl⟩
    exact joined.withLast inScope fresh ownerDiffers isRelated

end Last

theorem isJoined_nil_iff :
    IsJoined database tables root [] tuple ↔
      ∃ row ∈ tables root, Tuple.missing.put (.root root) row = tuple := by
  constructor
  · rintro ⟨isRow, _, elsewhere⟩
    refine ⟨_, isRow, Tuple.ext_rowAt fun occurrence => ?_⟩
    by_cases here : occurrence = .root root
    · rw [here, Tuple.rowAt_put_self]
    · rw [Tuple.rowAt_put_of_ne here, elsewhere occurrence here (by simp), Tuple.rowAt_missing]
  · rintro ⟨row, isRow, rfl⟩
    refine ⟨?_, by simp, ?_⟩
    · rw [Tuple.rowAt_put_self]
      exact isRow
    · intro occurrence notRoot _
      rw [Tuple.rowAt_put_of_ne notRoot, Tuple.rowAt_missing]

/-- The rows that a statement selects from are those that its joins allow. -/
theorem Select.mem_joinedRows_iff {statement : Select} (inScope : WellScoped statement.joins) :
    tuple ∈ statement.joinedRows database tables ↔
      IsJoined database tables statement.root statement.joins tuple := by
  unfold joinedRows
  generalize statement.joins = joins at inScope ⊢
  induction inScope generalizing tuple with
  | nil => rw [List.foldl_nil, List.mem_map, isJoined_nil_iff]
  | @concat before join inScope fresh refers hypothesis =>
      have ownerDiffers : join.owner.table ≠ join.occurrence := by
        intro same
        obtain ⟨other, isOther, named⟩ := refers _ same
        exact fresh other isOther named
      rw [List.foldl_append, List.foldl_cons, List.foldl_nil,
        isJoined_concat_iff inScope fresh ownerDiffers, Join.mem_extend_iff]
      simp only [hypothesis]

theorem Join.rootRows_extend (keyed : KeyedBy database join.column (tables join.table))
    (rows : List Tuple) :
    (join.extend database tables rows).map (·.rowAt (.root root)) =
      rows.map (·.rowAt (.root root)) := by
  induction rows with
  | nil => rfl
  | cons tuple rest hypothesis =>
      obtain ⟨row, alone⟩ := related_of_keyed keyed tuple
      unfold extend at hypothesis ⊢
      rw [List.flatMap_cons, List.map_append, hypothesis, alone, List.map_cons, List.map_nil,
        List.map_cons, List.map_nil, Tuple.rowAt_put_of_ne Occurrence.noConfusion]
      rfl

theorem Select.rootRows_joinedRows {statement : Select}
    (keyed : ∀ join ∈ statement.joins, KeyedBy database join.column (tables join.table)) :
    (statement.joinedRows database tables).map (·.rowAt (.root statement.root)) =
      tables statement.root := by
  unfold joinedRows
  generalize statement.joins = joins at keyed ⊢
  induction joins using List.reverseRecOn with
  | nil =>
      rw [List.foldl_nil, List.map_map]
      conv_rhs => rw [← List.map_id (tables statement.root)]
      apply List.map_congr_left
      intro row _
      exact Tuple.rowAt_put_self
  | append_singleton before last hypothesis =>
      rw [List.foldl_append, List.foldl_cons, List.foldl_nil,
        Join.rootRows_extend (keyed last (by simp))]
      exact hypothesis fun join isJoin => keyed join (List.mem_append_left _ isJoin)

end Joining

end Sql
end SchemaQuery
