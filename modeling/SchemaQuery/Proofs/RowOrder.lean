import Mathlib.Data.List.Pairwise
import Mathlib.Data.List.Sort
import Mathlib.Tactic.ByContra
import SchemaQuery.Cursor.Token
import SchemaQuery.Proofs.Database

/-!
# The order of rows and the answer to a statement

The terms of an order compare rows column by column, and the first column in which
they differ decides.  Where a column may be missing the statement says where its
missing values go, and elsewhere the database decides.  Apart from that choice the
order is the one in which missing values rank below all others.

A statement is answered by the rows that its condition holds on, brought into its
order and cut to its window.  Rows that the order does not tell apart may come in
any order, so a statement may have several answers; it always has one.
-/

namespace SchemaQuery
namespace Sql

/-- The outcome of several comparisons, of which the first that decides counts. -/
def lexicographic (orderings : List Ordering) : Ordering :=
  orderings.foldr Ordering.then .eq

@[simp]
theorem lexicographic_nil : lexicographic [] = .eq := rfl

@[simp]
theorem lexicographic_cons (ordering : Ordering) (rest : List Ordering) :
    lexicographic (ordering :: rest) = ordering.then (lexicographic rest) := rfl

theorem swap_lexicographic (orderings : List Ordering) :
    (lexicographic orderings).swap = lexicographic (orderings.map Ordering.swap) := by
  induction orderings with
  | nil => rfl
  | cons ordering rest hypothesis =>
      rw [lexicographic_cons, Ordering.swap_then, hypothesis, List.map_cons, lexicographic_cons]

theorem lexicographic_eq_eq (orderings : List Ordering) :
    lexicographic orderings = .eq ↔ ∀ ordering ∈ orderings, ordering = .eq := by
  induction orderings with
  | nil => simp
  | cons ordering rest hypothesis =>
      rw [lexicographic_cons, Ordering.then_eq_eq, hypothesis, List.forall_mem_cons]

/-- An outcome as it counts in a direction. -/
def directed (direction : Direction) (ordering : Ordering) : Ordering :=
  match direction with
  | .ascending => ordering
  | .descending => ordering.swap

theorem directed_flipped (direction : Direction) (ordering : Ordering) :
    directed direction.flipped ordering = (directed direction ordering).swap := by
  cases direction <;> simp [directed, Direction.flipped]

@[simp]
theorem directed_eq_eq (direction : Direction) (ordering : Ordering) :
    directed direction ordering = .eq ↔ ordering = .eq := by
  cases direction <;> simp [directed]

/-- How values compare when missing ones all come first, or all last. -/
def withMissing (first : Bool) (compare : Value → Value → Ordering) (one other : Value) :
    Ordering :=
  match one.isNull, other.isNull with
  | true, true => .eq
  | true, false => if first then .lt else .gt
  | false, true => if first then .gt else .lt
  | false, false => compare one other

instance transCmp_withMissing (first : Bool) (compare : Value → Value → Ordering)
    [Std.TransCmp compare] : Std.TransCmp (withMissing first compare) where
  eq_swap := by
    intro one other
    unfold withMissing
    cases one.isNull <;> cases other.isNull <;> cases first <;>
      simp [@Std.OrientedCmp.eq_swap _ compare _ one other]
  isLE_trans := by
    intro one other third
    unfold withMissing
    cases one.isNull <;> cases other.isNull <;> cases third.isNull <;> cases first <;>
      simp
    all_goals exact @Std.TransCmp.isLE_trans _ compare _ one other third

instance transCmp_directed (direction : Direction) (compare : Value → Value → Ordering)
    [Std.TransCmp compare] :
    Std.TransCmp fun one other => directed direction (compare one other) where
  eq_swap := by
    intro one other
    cases direction <;> simp [directed, @Std.OrientedCmp.eq_swap _ compare _ one other]
  isLE_trans := by
    intro one other third
    cases direction with
    | ascending => exact @Std.TransCmp.isLE_trans _ compare _ one other third
    | descending =>
        simp only [directed, Ordering.isLE_swap]
        exact @Std.TransCmp.isGE_trans _ compare _ one other third

namespace OrderTerm

variable (database : Database) (term : OrderTerm)

def putsMissingFirst : Bool :=
  if term.mayBeMissing then term.direction == .ascending else database.missingFirst term.direction

def compare : Value → Value → Ordering :=
  withMissing (term.putsMissingFirst database) fun one other =>
    directed term.direction (database.compare term.column one other)

/-- How two values of a term's column rank in its direction, missing ones lowest. -/
def rank (one other : Value) : Ordering :=
  directed term.direction (withMissing true (database.compare term.column) one other)

instance : Std.TransCmp (term.compare database) :=
  inferInstanceAs (Std.TransCmp (withMissing _ _))

theorem compare_eq_rank (one other : Value)
    (placed : term.mayBeMissing = true ∨ one ≠ .null ∧ other ≠ .null) :
    term.compare database one other = term.rank database one other := by
  unfold compare rank withMissing putsMissingFirst
  rcases placed with missing | ⟨onePresent, otherPresent⟩
  · rw [missing]
    cases one.isNull <;> cases other.isNull <;> cases term.direction <;> rfl
  · rw [(Value.isNull_eq_false_iff one).2 onePresent,
      (Value.isNull_eq_false_iff other).2 otherPresent]

end OrderTerm

variable (database : Database)

def compareRows (terms : List OrderTerm) (one other : Tuple) : Ordering :=
  lexicographic <| terms.map fun term =>
    term.compare database (one.value term.column) (other.value term.column)

/-- How two rows rank by the terms of an order, missing values lowest. -/
def rankRows (terms : List OrderTerm) (one other : Tuple) : Ordering :=
  lexicographic <| terms.map fun term =>
    term.rank database (one.value term.column) (other.value term.column)

/-- Rows that have all values whose place is left open are ordered by how they rank. -/
theorem compareRows_eq_rankRows {terms : List OrderTerm} {one other : Tuple}
    (placed : ∀ term ∈ terms, term.mayBeMissing = true ∨
      one.value term.column ≠ .null ∧ other.value term.column ≠ .null) :
    compareRows database terms one other = rankRows database terms one other := by
  unfold compareRows rankRows
  congr 1
  apply List.map_congr_left
  intro term member
  exact term.compare_eq_rank database _ _ (placed term member)

instance transCmp_compareRows (terms : List OrderTerm) :
    Std.TransCmp (compareRows database terms) := by
  induction terms with
  | nil => exact { eq_swap := rfl, isLE_trans := fun _ _ => rfl }
  | cons term rest hypothesis =>
      have first : Std.TransCmp fun one other : Tuple =>
          term.compare database (one.value term.column) (other.value term.column) :=
        { eq_swap := Std.OrientedCmp.eq_swap
          isLE_trans := Std.TransCmp.isLE_trans }
      exact inferInstanceAs (Std.TransCmp (compareLex _ (compareRows database rest)))

def sortedBy (order : Tuple → Tuple → Ordering) (rows : List Tuple) : List Tuple :=
  rows.insertionSort fun one other => (order one other).isLE

theorem perm_sortedBy (order : Tuple → Tuple → Ordering) (rows : List Tuple) :
    (sortedBy order rows).Perm rows :=
  List.perm_insertionSort _ rows

theorem pairwise_sortedBy (order : Tuple → Tuple → Ordering) [Std.TransCmp order]
    (rows : List Tuple) :
    (sortedBy order rows).Pairwise fun one other => (order one other).isLE := by
  have total : Std.Total fun one other : Tuple => (order one other).isLE = true := by
    constructor
    intro one other
    rw [@Std.OrientedCmp.eq_swap _ order _ other one]
    cases order one other <;> simp
  have trans : IsTrans Tuple fun one other => (order one other).isLE = true := by
    constructor
    intro one other third
    exact Std.TransCmp.isLE_trans
  exact List.pairwise_insertionSort _ rows

def project (projections : List Projection) (row : Tuple) : Row :=
  Dictionary.ofEntries <| projections.map fun projection =>
    (projection.name, row.value projection.column)

namespace Select

variable (statement : Select)

def admitted (rows : List Tuple) : List Tuple :=
  rows.filter fun row => statement.condition.truth database row = .holds

def rowOf (row : Tuple) : Row :=
  project statement.projections row

/-- Whether two rows do not differ in any selected column. -/
def selectsAlike (one other : Tuple) : Bool :=
  statement.projections.all fun projection =>
    (withMissing true (database.compare projection.column) (one.value projection.column)
      (other.value projection.column)).isEq

/-- Whether a statement selects these rows, in any order. Of rows that are selected alike, a
distinct one keeps one. -/
def Selects (rows selected : List Tuple) : Prop :=
  if statement.distinct then
    selected ⊆ statement.admitted database rows ∧
      selected.Pairwise (fun one other => statement.selectsAlike database one other = false) ∧
      ∀ row ∈ statement.admitted database rows, ∃ other ∈ selected,
        statement.selectsAlike database row other = true
  else selected.Perm (statement.admitted database rows)

def window (ordered : List Tuple) : List Tuple :=
  (ordered.drop statement.offset.toNat).take statement.limit.toNat

/-- Whether rows may be the answer to a statement over its tables. -/
def Answers (rows : List Tuple) (answer : List Row) : Prop :=
  ∃ ordered : List Tuple,
    statement.Selects database rows ordered ∧
      ordered.Pairwise (fun one other => (compareRows database statement.order one other).isLE) ∧
      answer = (statement.window ordered).map statement.rowOf

/-- The rows that a statement selects, of those selected alike the last. -/
def selection (rows : List Tuple) : List Tuple :=
  if statement.distinct then
    (statement.admitted database rows).pwFilter fun one other =>
      statement.selectsAlike database one other = false
  else statement.admitted database rows

/-- An answer to a statement, in which rows that it does not order stay as they are. -/
def answer (rows : List Tuple) : List Row :=
  let ordered :=
    sortedBy (compareRows database statement.order) (statement.selection database rows)
  (statement.window ordered).map statement.rowOf

theorem selectsAlike_iff (one other : Tuple) :
    statement.selectsAlike database one other = true ↔
      ∀ projection ∈ statement.projections,
        withMissing true (database.compare projection.column) (one.value projection.column)
          (other.value projection.column) = .eq := by
  simp [selectsAlike, Ordering.isEq_iff_eq_eq]

theorem selectsAlike_self (row : Tuple) : statement.selectsAlike database row row = true := by
  rw [selectsAlike_iff]
  intro projection _
  exact Std.ReflCmp.compare_self

theorem selectsAlike_comm (one other : Tuple) :
    statement.selectsAlike database one other = statement.selectsAlike database other one := by
  rw [Bool.eq_iff_iff, selectsAlike_iff, selectsAlike_iff]
  constructor
  · intro alike projection member
    exact Std.OrientedCmp.eq_symm (alike projection member)
  · intro alike projection member
    exact Std.OrientedCmp.eq_symm (alike projection member)

theorem selectsAlike_trans {one other third : Tuple}
    (first : statement.selectsAlike database one other = true)
    (second : statement.selectsAlike database other third = true) :
    statement.selectsAlike database one third = true := by
  rw [selectsAlike_iff] at first second ⊢
  intro projection member
  exact Std.TransCmp.eq_trans (first projection member) (second projection member)

theorem perm_of_selects {rows selected : List Tuple}
    (selects : statement.Selects database rows selected)
    (apart : (statement.admitted database rows).Pairwise fun one other =>
      statement.selectsAlike database one other = false) :
    selected.Perm (statement.admitted database rows) := by
  have nodup {kept : List Tuple}
      (keptApart : kept.Pairwise fun one other =>
        statement.selectsAlike database one other = false) : kept.Nodup := by
    apply keptApart.imp
    rintro one other differ rfl
    rw [selectsAlike_self] at differ
    exact absurd differ (by decide)
  unfold Selects at selects
  split at selects
  · obtain ⟨subset, selectedApart, covers⟩ := selects
    rw [List.perm_ext_iff_of_nodup (nodup selectedApart) (nodup apart)]
    intro row
    constructor
    · intro member
      exact subset member
    · intro member
      obtain ⟨other, otherMember, alike⟩ := covers row member
      have same : row = other := by
        by_contra differ
        have symmetric : Std.Symm fun one other : Tuple =>
            statement.selectsAlike database one other = false := by
          constructor
          intro one other differ
          rw [selectsAlike_comm]
          exact differ
        rw [apart.forall member (subset otherMember) differ] at alike
        exact absurd alike (by decide)
      rw [same]
      exact otherMember
  · exact selects

theorem selects_selection (rows : List Tuple) :
    statement.Selects database rows (statement.selection database rows) := by
  unfold Selects selection
  split
  · refine ⟨List.pwFilter_subset _, List.pairwise_pwFilter _, ?_⟩
    intro row member
    by_contra nowhere
    have apart : ∀ other ∈ (statement.admitted database rows).pwFilter fun one other =>
        statement.selectsAlike database one other = false,
        statement.selectsAlike database row other = false := by
      intro other otherMember
      rw [← Bool.not_eq_true]
      intro alike
      exact nowhere ⟨other, otherMember, alike⟩
    -- Who differs from all kept rows differs from all rows, and so from itself.
    rw [List.forall_mem_pwFilter] at apart
    · exact absurd (apart row member) (by simp [selectsAlike_self])
    · intro one other third differ
      cases first : statement.selectsAlike database one other with
      | false => exact Or.inl rfl
      | true =>
          refine Or.inr ?_
          rw [← Bool.not_eq_true]
          intro second
          rw [statement.selectsAlike_trans database first second] at differ
          exact absurd differ (by decide)
  · exact List.Perm.refl _

theorem Selects.perm {rows selected reordered : List Tuple}
    (selects : statement.Selects database rows selected) (perm : selected.Perm reordered) :
    statement.Selects database rows reordered := by
  unfold Selects at selects ⊢
  split at selects
  · rename_i distinct
    rw [if_pos distinct]
    obtain ⟨subset, apart, covers⟩ := selects
    refine ⟨?_, ?_, ?_⟩
    · intro row member
      exact subset (perm.mem_iff.2 member)
    · apply apart.perm perm
      intro one other differ
      rw [selectsAlike_comm]
      exact differ
    · intro row member
      obtain ⟨other, otherMember, alike⟩ := covers row member
      exact ⟨other, perm.mem_iff.1 otherMember, alike⟩
  · rename_i plain
    rw [if_neg plain]
    exact perm.symm.trans selects

theorem answers_answer (rows : List Tuple) :
    statement.Answers database rows (statement.answer database rows) := by
  refine ⟨_, ?_, pairwise_sortedBy _ _, rfl⟩
  apply (statement.selects_selection database rows).perm
  exact (perm_sortedBy _ _).symm

end Select

end Sql
end SchemaQuery
