import SchemaQuery.Listing
import SchemaQuery.Proofs.DictionaryEntries
import SchemaQuery.Proofs.KeysetOrder

/-!
# The columns that a condition is about

Whatever an operator makes of its values is a condition on the column that it is given, and the
condition to be beyond an edge is on the columns of the sorts.  Simplifying a condition brings in no
other columns.
-/

namespace SchemaQuery
namespace Sql

open Success

namespace Condition

mutual

def columns : Condition → List Column
  | .never => []
  | .compare _ column _ => [column]
  | .isNull column => [column]
  | .isNotNull column => [column]
  | .among column _ => [column]
  | .notAmong column _ => [column]
  | .between column _ _ => [column]
  | .like column _ => [column]
  | .likeInAnyCase column _ => [column]
  | .holdsText _ column _ => [column]
  | .lacksText _ column _ => [column]
  | .all conditions => columnsOfEach conditions
  | .any conditions => columnsOfEach conditions

def columnsOfEach : List Condition → List Column
  | [] => []
  | condition :: rest => columns condition ++ columnsOfEach rest

end

theorem columnsOfEach_eq_flatMap (conditions : List Condition) :
    columnsOfEach conditions = conditions.flatMap columns := by
  induction conditions with
  | nil => rfl
  | cons condition rest hypothesis => rw [columnsOfEach, hypothesis, List.flatMap_cons]

@[simp]
theorem columns_all (conditions : List Condition) :
    columns (.all conditions) = conditions.flatMap columns := by
  rw [columns, columnsOfEach_eq_flatMap]

@[simp]
theorem columns_any (conditions : List Condition) :
    columns (.any conditions) = conditions.flatMap columns := by
  rw [columns, columnsOfEach_eq_flatMap]

theorem columns_conjuncts (condition : Condition) :
    (conjuncts condition).flatMap columns = columns condition := by
  cases condition <;> simp [conjuncts, columns, columnsOfEach_eq_flatMap]

theorem columns_disjuncts (condition : Condition) :
    (disjuncts condition).flatMap columns = columns condition := by
  cases condition <;> simp [disjuncts, columns, columnsOfEach_eq_flatMap]

theorem columns_allOf_subset (conditions : List Condition) :
    columns (allOf conditions) ⊆ conditions.flatMap columns := by
  have opened : (conditions.flatMap conjuncts).flatMap columns = conditions.flatMap columns := by
    rw [List.flatMap_assoc]
    simp only [columns_conjuncts]
  rw [← opened]
  unfold allOf
  dsimp only
  split
  · exact List.nil_subset _
  · split
    · rename_i single
      rw [single, List.flatMap_singleton]
      exact List.Subset.refl _
    · rw [columns_all]
      exact List.Subset.refl _

theorem columns_anyOf_subset (conditions : List Condition) :
    columns (anyOf conditions) ⊆ conditions.flatMap columns := by
  have opened : (conditions.flatMap disjuncts).flatMap columns = conditions.flatMap columns := by
    rw [List.flatMap_assoc]
    simp only [columns_disjuncts]
  rw [← opened]
  unfold anyOf
  split
  · exact List.nil_subset _
  · rename_i single
    rw [single, List.flatMap_singleton]
    exact List.Subset.refl _
  · rw [columns_any]
    exact List.Subset.refl _

mutual

theorem columns_simplify_subset (condition : Condition) :
    columns (simplify condition) ⊆ columns condition := by
  cases condition with
  | all conditions =>
      rw [simplify, columns_all]
      exact List.Subset.trans (columns_allOf_subset _) (columns_simplifyEach_subset conditions)
  | any conditions =>
      rw [simplify, columns_any]
      exact List.Subset.trans (columns_anyOf_subset _) (columns_simplifyEach_subset conditions)
  | _ => exact List.Subset.refl _

theorem columns_simplifyEach_subset (conditions : List Condition) :
    (simplifyEach conditions).flatMap columns ⊆ conditions.flatMap columns := by
  cases conditions with
  | nil => exact List.Subset.refl _
  | cons condition rest =>
      rw [simplifyEach, List.flatMap_cons, List.flatMap_cons]
      exact List.append_subset.2
        ⟨List.subset_append_of_subset_left _ (columns_simplify_subset condition),
          List.subset_append_of_subset_right _ (columns_simplifyEach_subset rest)⟩

end

theorem columns_compared {comparison : Comparison} {column : Column} {operand : Value}
    {condition : Condition} (made : compared comparison column operand = .ok condition) :
    columns condition = [column] := by
  unfold compared at made
  split at made
  · obtain rfl := Except.ok.inj made
    rw [columns]
  · obtain rfl := Except.ok.inj made
    rw [columns]
  · simp at made
  · split at made
    · obtain rfl := Except.ok.inj made
      rw [columns]
    · simp at made
  · obtain rfl := Except.ok.inj made
    rw [columns]

end Condition

namespace Keyset

open Condition (columns columns_compared)

theorem columns_pastEdge {upward mayBeMissing : Bool} {column : Column} {edge : Value}
    {past : Option Condition} (made : pastEdge upward mayBeMissing column edge = .ok past) :
    ∀ condition ∈ past, columns condition ⊆ [column] := by
  intro condition isPast
  unfold pastEdge at made
  split at made
  · obtain rfl := Except.ok.inj made
    cases upward
    · simp at isPast
    · obtain rfl := Option.some.inj isPast
      rw [columns]
      exact List.Subset.refl _
  · obtain ⟨plain, compared, shaped⟩ := (bind_eq_ok _ _ _).1 made
    obtain rfl := (pure_eq_ok _ _).1 shaped
    obtain rfl := Option.some.inj isPast
    have about := columns_compared compared
    split
    · rw [Condition.columns_any, List.flatMap_cons, List.flatMap_singleton, about, columns]
      simp
    · rw [about]
      exact List.Subset.refl _

theorem columns_branch (equal : List Condition) (past : Condition) :
    columns (branch equal past) = (equal ++ [past]).flatMap columns := by
  unfold branch
  cases equal <;> simp

/-- By induction on the columns, while `equal` grows by what the induction leaves behind. -/
theorem columns_branches {cursor : ResolvedCursor} {primaryKey : String}
    {sorted : List SortColumn} {equal branching : List Condition}
    (made : branches cursor primaryKey equal sorted = .ok branching) :
    branching.flatMap columns ⊆ equal.flatMap columns ++ sorted.map (·.column) := by
  induction sorted generalizing equal branching with
  | nil =>
      obtain rfl := Except.ok.inj made
      exact List.nil_subset _
  | cons first rest hypothesis =>
      obtain ⟨edge, past, atIt, others, _, pastMade, atMade, othersMade, rfl⟩ :=
        branches_cons_eq_ok made
      have later := hypothesis othersMade
      rw [List.flatMap_append, List.flatMap_singleton, columns_compared atMade,
        List.append_assoc] at later
      rw [List.flatMap_append, List.map_cons]
      refine List.append_subset.2 ⟨?_, later⟩
      intro column isColumn
      obtain ⟨condition, isBranch, about⟩ := List.mem_flatMap.1 isColumn
      obtain ⟨pastIt, isPast, rfl⟩ := Option.map_eq_some_iff.1 (Option.mem_toList.1 isBranch)
      rw [columns_branch, List.flatMap_append, List.flatMap_singleton] at about
      rcases List.mem_append.1 about with before | here
      · exact List.mem_append_left _ before
      · exact List.mem_append_right _ (List.mem_cons.2 (Or.inl
          (List.mem_singleton.1 (columns_pastEdge pastMade pastIt isPast here))))

/-- The condition to be beyond an edge is on the columns of the sorts. -/
theorem columns_condition {cursor : ResolvedCursor} {primaryKey : String}
    {sorted : List SortColumn} {beyond : Condition}
    (made : Keyset.condition cursor primaryKey sorted = .ok beyond) :
    columns beyond ⊆ sorted.map (·.column) := by
  simp only [Keyset.condition] at made
  split at made
  · exact absurd made (by simp)
  obtain ⟨branching, branchesMade, gathered⟩ := (bind_eq_ok _ _ _).1 made
  have about := columns_branches branchesMade
  rw [List.flatMap_nil, List.nil_append] at about
  split at gathered
  · obtain rfl := (pure_eq_ok _ _).1 gathered
    rw [columns]
    exact List.nil_subset _
  · obtain rfl := (pure_eq_ok _ _).1 gathered
    rwa [List.flatMap_singleton] at about
  · obtain rfl := (pure_eq_ok _ _).1 gathered
    rwa [Condition.columns_any]

end Keyset

end Sql

open Sql Success

/-- Whether an operator makes conditions on just the column that it is given. -/
def Operator.StaysOnColumn (operator : Operator) : Prop :=
  ∀ ⦃column values condition⦄, operator column values = .ok condition →
    condition.columns ⊆ [column]

namespace Operator

theorem staysOnColumn_comparing (comparison : Comparison) :
    (comparing comparison).StaysOnColumn := by
  intro column values condition made
  obtain ⟨_, _, compared⟩ := (bind_eq_ok _ _ _).1 made
  rw [Condition.columns_compared compared]
  exact List.Subset.refl _

/-- Operators that make a condition of the values that they have read. -/
theorem staysOnColumn_of_read {α : Type} (read : List Value → Except Fault α)
    {make : Column → α → Condition}
    (about : ∀ column value, (make column value).columns = [column]) :
    StaysOnColumn fun column values => do return make column (← read values) := by
  intro column values condition made
  obtain ⟨value, _, shaped⟩ := (bind_eq_ok _ _ _).1 made
  obtain rfl := (pure_eq_ok _ _).1 shaped
  rw [about]
  exact List.Subset.refl _

theorem staysOnColumn_among : StaysOnColumn among :=
  staysOnColumn_of_read pure fun _ _ => by rw [Condition.columns]

theorem staysOnColumn_notAmong : StaysOnColumn notAmong :=
  staysOnColumn_of_read pure fun _ _ => by rw [Condition.columns]

theorem staysOnColumn_between : StaysOnColumn between := by
  intro column values condition made
  unfold between at made
  split at made
  · obtain rfl := Except.ok.inj made
    rw [Condition.columns]
    exact List.Subset.refl _
  · simp at made

theorem staysOnColumn_like : StaysOnColumn like := by
  intro column values condition made
  obtain ⟨pattern, _, rest⟩ := (bind_eq_ok _ _ _).1 made
  obtain ⟨_, shaped⟩ := (guarded_eq_ok _).1 rest
  obtain rfl := (pure_eq_ok _ _).1 shaped
  rw [Condition.columns]
  exact List.Subset.refl _

theorem staysOnColumn_likeInAnyCase : StaysOnColumn likeInAnyCase :=
  staysOnColumn_of_read first fun _ _ => by rw [Condition.columns]

theorem staysOnColumn_holding (place : TextPlace) : (holding place).StaysOnColumn :=
  staysOnColumn_of_read sought fun _ _ => by rw [Condition.columns]

theorem staysOnColumn_lacking (place : TextPlace) : (lacking place).StaysOnColumn :=
  staysOnColumn_of_read sought fun _ _ => by rw [Condition.columns]

theorem staysOnColumn_missing : StaysOnColumn missing :=
  staysOnColumn_of_read first fun _ _ => by split <;> rw [Condition.columns]

theorem staysOnColumn_onDay : StaysOnColumn onDay := by
  intro column values condition made
  obtain ⟨⟨start, stop⟩, _, rest⟩ := (bind_eq_ok _ _ _).1 made
  obtain ⟨above, aboveMade, rest⟩ := (bind_eq_ok _ _ _).1 rest
  obtain ⟨below, belowMade, shaped⟩ := (bind_eq_ok _ _ _).1 rest
  obtain rfl := (pure_eq_ok _ _).1 shaped
  rw [Condition.columns_all, List.flatMap_cons, List.flatMap_singleton,
    Condition.columns_compared aboveMade, Condition.columns_compared belowMade]
  simp

theorem staysOnColumn_offDay : StaysOnColumn offDay := by
  intro column values condition made
  obtain ⟨⟨start, stop⟩, _, rest⟩ := (bind_eq_ok _ _ _).1 made
  obtain ⟨before, beforeMade, rest⟩ := (bind_eq_ok _ _ _).1 rest
  obtain ⟨behind, behindMade, shaped⟩ := (bind_eq_ok _ _ _).1 rest
  obtain rfl := (pure_eq_ok _ _).1 shaped
  rw [Condition.columns_any, List.flatMap_cons, List.flatMap_singleton,
    Condition.columns_compared beforeMade, Condition.columns_compared behindMade]
  simp

end Operator

namespace Operators

def StayOnColumn (operators : Operators) : Prop :=
  ∀ entry ∈ operators.builders, entry.2.StaysOnColumn

theorem stayOnColumn_standard : standard.StayOnColumn := by
  unfold StayOnColumn standard
  dsimp only
  simp only [List.forall_mem_cons, List.not_mem_nil, false_implies, implies_true, true_and,
    Operator.staysOnColumn_comparing, Operator.staysOnColumn_among, Operator.staysOnColumn_notAmong,
    Operator.staysOnColumn_between, Operator.staysOnColumn_like,
    Operator.staysOnColumn_likeInAnyCase, Operator.staysOnColumn_holding,
    Operator.staysOnColumn_lacking, Operator.staysOnColumn_missing, Operator.staysOnColumn_onDay,
    Operator.staysOnColumn_offDay]

theorem StayOnColumn.condition {operators : Operators} (stay : operators.StayOnColumn)
    {name : String} {column : Column} {values : List Value} {condition : Condition}
    (made : operators.condition name column values = .ok condition) :
    condition.columns ⊆ [column] := by
  unfold Operators.condition at made
  split at made
  · rename_i operator found
    exact stay _ (Dictionary.mem_of_get? found) made
  · simp at made

end Operators

theorem ResolvedFilter.columns_condition {operators : Operators} (stay : operators.StayOnColumn)
    {filter : ResolvedFilter} {column : Column} {condition : Condition}
    (made : filter.condition operators column = .ok condition) :
    condition.columns ⊆ [column] := by
  obtain ⟨conditions, conditionsMade, gathered⟩ := (bind_eq_ok _ _ _).1 made
  have about : conditions.flatMap Condition.columns ⊆ [column] := by
    intro other isOther
    obtain ⟨part, isPart, ofPart⟩ := List.mem_flatMap.1 isOther
    obtain ⟨_, _, partMade⟩ := exists_of_mem_mapM conditionsMade isPart
    exact stay.condition partMade ofPart
  split at gathered
  · obtain rfl := (pure_eq_ok _ _).1 gathered
    rwa [List.flatMap_singleton] at about
  · obtain rfl := (pure_eq_ok _ _).1 gathered
    rwa [Condition.columns_all]
  · obtain rfl := (pure_eq_ok _ _).1 gathered
    rwa [Condition.columns_any]

end SchemaQuery
