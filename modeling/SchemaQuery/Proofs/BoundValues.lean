import SchemaQuery.Proofs.ConditionOutline
import SchemaQuery.Proofs.JoinedTables
import SchemaQuery.Proofs.TableNames

/-!
# Which values are parameters

A statement takes as parameters what its filters compare columns with, then the values of the edge
that rows have to lie beyond, and last its window.  An operator reads the first value of a
constraint, or two, or all of them, and may make a pattern or the bounds of a day of what it reads.
Simplifying the condition of a statement keeps all of its parameters, except when no row can lie
beyond the edge: then nothing is left of it.
-/

namespace SchemaQuery

namespace Sql

open Success

namespace Condition

mutual

def lacksNever : Condition → Bool
  | .never => false
  | .all conditions => eachLacksNever conditions
  | .any conditions => !conditions.isEmpty && eachLacksNever conditions
  | _ => true

def eachLacksNever : List Condition → Bool
  | [] => true
  | condition :: rest => lacksNever condition && eachLacksNever rest

end

theorem eachLacksNever_iff {conditions : List Condition} :
    eachLacksNever conditions = true ↔ ∀ condition ∈ conditions, lacksNever condition = true := by
  induction conditions with
  | nil => simp [eachLacksNever]
  | cons condition rest hypothesis => simp [eachLacksNever, hypothesis]

@[simp]
theorem lacksNever_all (conditions : List Condition) :
    lacksNever (.all conditions) = true ↔
      ∀ condition ∈ conditions, lacksNever condition = true := by
  rw [lacksNever, eachLacksNever_iff]

@[simp]
theorem lacksNever_any (conditions : List Condition) :
    lacksNever (.any conditions) = true ↔
      conditions ≠ [] ∧ ∀ condition ∈ conditions, lacksNever condition = true := by
  rw [lacksNever, Bool.and_eq_true, eachLacksNever_iff]
  simp

theorem parametersOfEach_eq_flatMap (conditions : List Condition) :
    parametersOfEach conditions = conditions.flatMap parameters := by
  induction conditions with
  | nil => rfl
  | cons condition rest hypothesis => rw [parametersOfEach, hypothesis, List.flatMap_cons]

@[simp]
theorem parameters_all (conditions : List Condition) :
    parameters (.all conditions) = conditions.flatMap parameters := by
  rw [parameters, parametersOfEach_eq_flatMap]

@[simp]
theorem parameters_any (conditions : List Condition) :
    parameters (.any conditions) = conditions.flatMap parameters := by
  rw [parameters, parametersOfEach_eq_flatMap]

theorem parameters_conjuncts (condition : Condition) :
    (conjuncts condition).flatMap parameters = parameters condition := by
  cases condition <;> simp [conjuncts]

theorem parameters_disjuncts (condition : Condition) :
    (disjuncts condition).flatMap parameters = parameters condition := by
  cases condition <;> simp [disjuncts, parameters, parametersOfEach_eq_flatMap]

theorem lacksNever_conjuncts {condition : Condition} (lacks : lacksNever condition = true) :
    ∀ part ∈ conjuncts condition, lacksNever part = true := by
  cases condition <;> simp_all [conjuncts]

theorem lacksNever_disjuncts {condition : Condition} (lacks : lacksNever condition = true) :
    disjuncts condition ≠ [] ∧ ∀ part ∈ disjuncts condition, lacksNever part = true := by
  cases condition <;> simp_all [disjuncts, lacksNever, eachLacksNever_iff]

variable {conditions : List Condition}
  (lack : ∀ condition ∈ conditions, lacksNever condition = true)

include lack

theorem allOf_spec :
    parameters (allOf conditions) = conditions.flatMap parameters ∧
      lacksNever (allOf conditions) = true := by
  have opened : (conditions.flatMap conjuncts).flatMap parameters =
      conditions.flatMap parameters := by
    rw [List.flatMap_assoc]
    simp only [parameters_conjuncts]
  have openedLack : ∀ part ∈ conditions.flatMap conjuncts, lacksNever part = true := by
    intro part isPart
    obtain ⟨condition, isCondition, isConjunct⟩ := List.mem_flatMap.1 isPart
    exact lacksNever_conjuncts (lack condition isCondition) part isConjunct
  have noNever : (conditions.flatMap conjuncts).any isNever = false := by
    rw [List.any_eq_false]
    intro part isPart
    have lacks := openedLack part isPart
    cases part <;> simp_all [isNever, lacksNever]
  unfold allOf
  dsimp only
  rw [noNever, if_neg Bool.false_ne_true, ← opened]
  split
  · rename_i single
    rw [single] at openedLack ⊢
    exact ⟨(List.flatMap_singleton ..).symm, openedLack _ (List.mem_singleton_self _)⟩
  · exact ⟨parameters_all _, (lacksNever_all _).2 openedLack⟩

theorem anyOf_spec (someParts : conditions ≠ []) :
    parameters (anyOf conditions) = conditions.flatMap parameters ∧
      lacksNever (anyOf conditions) = true := by
  have opened : (conditions.flatMap disjuncts).flatMap parameters =
      conditions.flatMap parameters := by
    rw [List.flatMap_assoc]
    simp only [parameters_disjuncts]
  have openedLack : ∀ part ∈ conditions.flatMap disjuncts, lacksNever part = true := by
    intro part isPart
    obtain ⟨condition, isCondition, isDisjunct⟩ := List.mem_flatMap.1 isPart
    exact (lacksNever_disjuncts (lack condition isCondition)).2 part isDisjunct
  have someOpened : conditions.flatMap disjuncts ≠ [] := by
    obtain ⟨condition, isCondition⟩ := List.exists_mem_of_ne_nil _ someParts
    obtain ⟨part, isPart⟩ :=
      List.exists_mem_of_ne_nil _ (lacksNever_disjuncts (lack condition isCondition)).1
    exact List.ne_nil_of_mem (List.mem_flatMap.2 ⟨condition, isCondition, isPart⟩)
  unfold anyOf
  rw [← opened]
  split
  · rename_i none
    exact absurd none someOpened
  · rename_i single
    rw [single] at openedLack ⊢
    exact ⟨(List.flatMap_singleton ..).symm, openedLack _ (List.mem_singleton_self _)⟩
  · exact ⟨parameters_any _, (lacksNever_any _).2 ⟨someOpened, openedLack⟩⟩

omit lack

theorem simplifyEach_eq_map (conditions : List Condition) :
    simplifyEach conditions = conditions.map simplify := by
  induction conditions with
  | nil => rfl
  | cons condition rest hypothesis => rw [simplifyEach, hypothesis, List.map_cons]

mutual

/-- Simplifying keeps the parameters of a condition, unless a part is never met. -/
theorem simplify_spec (condition : Condition) (lacks : lacksNever condition = true) :
    parameters (simplify condition) = parameters condition ∧
      lacksNever (simplify condition) = true := by
  cases condition with
  | all conditions =>
      obtain ⟨same, lack⟩ := simplifyEach_spec conditions ((lacksNever_all _).1 lacks)
      rw [simplify, parameters_all, ← same]
      exact allOf_spec lack
  | any conditions =>
      obtain ⟨someParts, lack⟩ := (lacksNever_any _).1 lacks
      obtain ⟨same, lack⟩ := simplifyEach_spec conditions lack
      rw [simplify, parameters_any, ← same]
      refine anyOf_spec lack ?_
      rw [simplifyEach_eq_map]
      simpa using someParts
  | never => exact absurd lacks Bool.false_ne_true
  | _ => exact ⟨rfl, lacks⟩

theorem simplifyEach_spec (conditions : List Condition)
    (lack : ∀ condition ∈ conditions, lacksNever condition = true) :
    (simplifyEach conditions).flatMap parameters = conditions.flatMap parameters ∧
      ∀ condition ∈ simplifyEach conditions, lacksNever condition = true := by
  cases conditions with
  | nil => exact ⟨rfl, nofun⟩
  | cons condition rest =>
      obtain ⟨lacks, restLack⟩ := List.forall_mem_cons.1 lack
      obtain ⟨same, simpleLacks⟩ := simplify_spec condition lacks
      obtain ⟨restSame, restSimpleLack⟩ := simplifyEach_spec rest restLack
      rw [simplifyEach, List.flatMap_cons, List.flatMap_cons, same, restSame]
      exact ⟨rfl, List.forall_mem_cons.2 ⟨simpleLacks, restSimpleLack⟩⟩

end

/-- With a part that no row meets, no row meets a conjunction. -/
theorem simplify_all_of_never (isNever : Condition.never ∈ conditions) :
    simplify (.all conditions) = .never := by
  have opened : ((simplifyEach conditions).flatMap conjuncts).any Condition.isNever = true := by
    rw [List.any_eq_true, simplifyEach_eq_map]
    exact ⟨.never, List.mem_flatMap.2
      ⟨.never, List.mem_map.2 ⟨.never, isNever, rfl⟩, List.mem_singleton_self _⟩, rfl⟩
  rw [simplify, allOf, if_pos opened]

theorem operandParameters_of_isBound {operand : Value} (isBound : operand.isBound = true) :
    operandParameters operand = [operand] := by
  cases operand with
  | bool truth => exact absurd isBound Bool.false_ne_true
  | _ => rfl

theorem binds_mapM {α ε : Type} {make : α → Except ε Condition} {read : α → List Value}
    {items : List α} (each : ∀ item ∈ items, ∀ condition, make item = .ok condition →
      parameters condition = read item ∧ lacksNever condition = true)
    (made : items.mapM make = .ok conditions) :
    conditions.flatMap parameters = items.flatMap read ∧
      ∀ condition ∈ conditions, lacksNever condition = true := by
  induction items generalizing conditions with
  | nil =>
      obtain rfl := Except.ok.inj made
      exact ⟨rfl, List.forall_mem_nil _⟩
  | cons item rest hypothesis =>
      obtain ⟨condition, others, headMade, othersMade, rfl⟩ := (mapM_cons_eq_ok _ _ _ _).1 made
      obtain ⟨ofItem, eachRest⟩ := List.forall_mem_cons.1 each
      obtain ⟨same, lacks⟩ := ofItem condition headMade
      obtain ⟨sameRest, lackRest⟩ := hypothesis eachRest othersMade
      rw [List.flatMap_cons, List.flatMap_cons, same, sameRest]
      exact ⟨rfl, List.forall_mem_cons.2 ⟨lacks, lackRest⟩⟩

end Condition

theorem Select.parameters_eq {statement : Select}
    (lack : ∀ condition ∈ statement.conditions, condition.lacksNever = true) :
    statement.parameters = statement.conditions.flatMap Condition.parameters ++
      [.int statement.limit, .int statement.offset] := by
  unfold parameters condition
  rw [(Condition.simplify_spec _ ((Condition.lacksNever_all _).2 lack)).1,
    Condition.parameters_all]

theorem Select.parameters_of_never {statement : Select}
    (isNever : Condition.never ∈ statement.conditions) :
    statement.parameters = [.int statement.limit, .int statement.offset] := by
  unfold parameters condition
  rw [Condition.simplify_all_of_never isNever]
  rfl

end Sql

namespace ResolvedCursor

def HasEdgeValue (cursor : ResolvedCursor) (sorts : List ResolvedSort) (value : Value) : Prop :=
  ∃ sort ∈ sorts, cursor.edgeValue sort.path = .ok value ∧ value.isNull = false

/-- Whether rows can lie beyond an edge: not downward from missing values alone. -/
def LeadsOn (cursor : ResolvedCursor) (sorts : List ResolvedSort) : Prop :=
  ∃ sort ∈ sorts, ¬cursor.Lacks sort.path ∨ cursor.cursor.goesUp sort.direction = true

end ResolvedCursor

namespace Sql

open Success

namespace Keyset

open Condition (lacksNever operandParameters_of_isBound parameters)

def given (value : Value) : List Value :=
  if value.isNull then [] else [value]

theorem mem_given {value edge : Value} :
    value ∈ given edge ↔ edge = value ∧ value.isNull = false := by
  unfold given
  split
  · rename_i missing
    simp only [List.not_mem_nil, false_iff, not_and]
    rintro rfl
    simp [missing]
  · rename_i isThere
    rw [List.mem_singleton, eq_comm]
    refine ⟨fun same => ⟨same, ?_⟩, And.left⟩
    rw [← same]
    simpa using isThere

theorem pastEdge_spec {upward mayBeMissing : Bool} {column : Column} {edge : Value}
    {past : Option Condition} (made : pastEdge upward mayBeMissing column edge = .ok past) :
    (past = none ↔ edge.isNull = true ∧ upward = false) ∧
      ∀ condition ∈ past, parameters condition = given edge ∧ lacksNever condition = true := by
  have noTruth := noTruth_of_pastEdge made
  obtain rfl := pastEdge_eq_ok made
  unfold given
  cases missing : edge.isNull with
  | true => cases upward <;> simp [lacksNever, parameters]
  | false =>
      have bound := operandParameters_of_isBound (Value.isBound_of_isThere missing noTruth)
      refine ⟨by simp, fun condition isPast => ?_⟩
      obtain rfl := Option.some.inj isPast
      rw [if_neg Bool.false_ne_true, ← bound]
      split
      · rw [Condition.parameters_any, Condition.lacksNever_any]
        simp [lacksNever, parameters]
      · exact ⟨rfl, rfl⟩

theorem atEdge_spec {column : Column} {edge : Value} {atIt : Condition}
    (noTruth : edge.isBool = false) (made : atEdge column edge = .ok atIt) :
    parameters atIt = given edge ∧ lacksNever atIt = true := by
  obtain rfl := atEdge_eq_ok noTruth made
  unfold given
  cases missing : edge.isNull with
  | true => exact ⟨rfl, rfl⟩
  | false =>
      rw [if_neg Bool.false_ne_true, if_neg Bool.false_ne_true,
        ← operandParameters_of_isBound (Value.isBound_of_isThere missing noTruth)]
      exact ⟨rfl, rfl⟩

theorem parameters_branch (equal : List Condition) (past : Condition) :
    parameters (branch equal past) = equal.flatMap parameters ++ parameters past := by
  unfold branch
  cases equal <;> simp

theorem lacksNever_branch {equal : List Condition} {past : Condition}
    (equalLack : ∀ condition ∈ equal, lacksNever condition = true)
    (pastLacks : lacksNever past = true) : lacksNever (branch equal past) = true := by
  unfold branch
  split
  · exact pastLacks
  · rw [Condition.lacksNever_all, List.forall_mem_append, List.forall_mem_singleton]
    exact ⟨equalLack, pastLacks⟩

variable {cursor : ResolvedCursor} {primaryKey : String} {sorted : List SortColumn}

/-- By induction on the columns, while `equal` grows by what the induction leaves behind. -/
theorem branches_spec {equal branching : List Condition}
    (equalLack : ∀ condition ∈ equal, lacksNever condition = true)
    (made : branches cursor primaryKey equal sorted = .ok branching) :
    (branching = [] ↔ ¬cursor.LeadsOn (sorted.map SortColumn.sort)) ∧
      (∀ condition ∈ branching, lacksNever condition = true) ∧
      (∀ value, cursor.HasEdgeValue (sorted.map SortColumn.sort) value →
        value ∈ branching.flatMap parameters) ∧
      ∀ value ∈ branching.flatMap parameters, value ∈ equal.flatMap parameters ∨
        cursor.HasEdgeValue (sorted.map SortColumn.sort) value := by
  induction sorted generalizing equal branching with
  | nil =>
      obtain rfl := Except.ok.inj made
      simp [ResolvedCursor.HasEdgeValue, ResolvedCursor.LeadsOn]
  | cons first rest hypothesis =>
      obtain ⟨edge, past, atIt, others, found, pastMade, atMade, othersMade, rfl⟩ :=
        branches_cons_eq_ok made
      obtain ⟨pastNone, pastSpec⟩ := pastEdge_spec pastMade
      obtain ⟨atBinds, atLacks⟩ := atEdge_spec (noTruth_of_pastEdge pastMade) atMade
      obtain ⟨othersNone, othersLack, othersBind, othersOnly⟩ := hypothesis
        (List.forall_mem_append.2 ⟨equalLack, List.forall_mem_singleton.2 atLacks⟩) othersMade
      refine ⟨?_, ?_, ?_, ?_⟩
      · rw [List.append_eq_nil_iff, Option.toList_eq_nil_iff, Option.map_eq_none_iff, pastNone,
          othersNone, ← ResolvedCursor.lacks_iff found]
        simp [ResolvedCursor.LeadsOn]
      · refine List.forall_mem_append.2 ⟨fun condition isBranch => ?_, othersLack⟩
        obtain ⟨pastIt, isPast, rfl⟩ := Option.map_eq_some_iff.1 (Option.mem_toList.1 isBranch)
        exact lacksNever_branch equalLack (pastSpec pastIt isPast).2
      · rintro value ⟨sort, isSort, valueFound, isThere⟩
        rw [List.flatMap_append, List.mem_append]
        rcases List.mem_cons.1 isSort with rfl | later
        · obtain rfl := Except.ok.inj (found.symm.trans valueFound)
          left
          cases past with
          | none => simp [isThere] at pastNone
          | some pastIt =>
              rw [Option.map_some, Option.toList_some, List.flatMap_singleton, parameters_branch,
                (pastSpec pastIt rfl).1]
              exact List.mem_append_right _ (mem_given.2 ⟨rfl, isThere⟩)
        · exact Or.inr (othersBind value ⟨sort, later, valueFound, isThere⟩)
      · have ofEdge {value : Value} (isGiven : value ∈ given edge) :
            cursor.HasEdgeValue ((first :: rest).map SortColumn.sort) value := by
          obtain ⟨rfl, isThere⟩ := mem_given.1 isGiven
          exact ⟨first.sort, List.mem_cons_self, found, isThere⟩
        intro value isParameter
        rw [List.flatMap_append, List.mem_append] at isParameter
        rcases isParameter with here | later
        · obtain ⟨condition, isBranch, isParameter⟩ := List.mem_flatMap.1 here
          obtain ⟨pastIt, isPast, rfl⟩ := Option.map_eq_some_iff.1 (Option.mem_toList.1 isBranch)
          rw [parameters_branch, (pastSpec pastIt isPast).1] at isParameter
          exact (List.mem_append.1 isParameter).imp_right ofEdge
        · rcases othersOnly value later with before | ⟨sort, isSort, ofSort⟩
          · rw [List.flatMap_append, List.flatMap_singleton, atBinds, List.mem_append] at before
            exact before.imp_right ofEdge
          · exact Or.inr ⟨sort, List.mem_cons_of_mem _ isSort, ofSort⟩

/-- The condition to be beyond an edge compares with each of its values, and with no others. -/
theorem condition_spec {beyond : Condition}
    (made : condition cursor primaryKey sorted = .ok beyond) :
    (∀ value, value ∈ parameters beyond ↔
        cursor.HasEdgeValue (sorted.map SortColumn.sort) value) ∧
      (cursor.LeadsOn (sorted.map SortColumn.sort) → lacksNever beyond = true) ∧
      (¬cursor.LeadsOn (sorted.map SortColumn.sort) → beyond = .never) := by
  simp only [Keyset.condition] at made
  split at made
  · exact absurd made (by simp)
  obtain ⟨branching, branchesMade, gathered⟩ := (bind_eq_ok _ _ _).1 made
  obtain ⟨noBranches, lack, binds, only⟩ :=
    branches_spec (List.forall_mem_nil _) branchesMade
  have sameValues (value : Value) : value ∈ branching.flatMap parameters ↔
      cursor.HasEdgeValue (sorted.map SortColumn.sort) value :=
    ⟨fun isParameter => (only value isParameter).resolve_left List.not_mem_nil, binds value⟩
  split at gathered <;> obtain rfl := (pure_eq_ok _ _).1 gathered
  · exact ⟨sameValues, fun leadsOn => absurd leadsOn (noBranches.1 rfl), fun _ => rfl⟩
  · refine ⟨fun value => ?_, fun _ => lack _ (List.mem_singleton_self _), fun stops => ?_⟩
    · rw [← sameValues, List.flatMap_singleton]
    · exact absurd (noBranches.2 stops) (List.cons_ne_nil _ _)
  · rename_i notEmpty _
    refine ⟨fun value => ?_, fun _ => ?_, fun stops => ?_⟩
    · rw [← sameValues, Condition.parameters_any]
    · exact (Condition.lacksNever_any _).2 ⟨notEmpty, lack⟩
    · exact absurd (noBranches.2 stops) notEmpty

end Keyset

end Sql

/-- How an operator reads values: one, two or all of them, as a pattern, or as a day. -/
inductive Reading where
  | single
  | range
  | list
  | pattern
  | day
deriving DecidableEq

namespace Reading

open Sql

def bound (column : Column) (values : List Value) : Reading → List Value
  | .single => values.take 1
  | .range => values.take 2
  | .list => Condition.listParameters column values
  | .pattern =>
      (values.take 1).map fun value => .text (Condition.literalPattern value.plain)
  | .day =>
      match Operator.dayBounds values with
      | .ok (start, stop) => [start, stop]
      | .error _ => []

def ofOperator (name : String) : Reading :=
  if ["in", "notIn"].contains name then .list
  else if name = "between" then .range
  else if ["contains", "notContains", "startsWith", "endsWith"].contains name then .pattern
  else if ["dateIs", "dateIsNot"].contains name then .day
  else .single

end Reading

open Sql Success

/-- Whether an operator compares its column with just what it reads. -/
def Operator.Binds (operator : Operator) (reading : Reading) : Prop :=
  ∀ ⦃column values condition⦄, (∀ value ∈ values, value.isBound = true) →
    operator column values = .ok condition →
      condition.parameters = reading.bound column values ∧ condition.lacksNever = true

namespace Operator

theorem take_one_of_first {values : List Value} {value : Value} (made : first values = .ok value) :
    values.take 1 = [value] := by
  cases values with
  | nil => simp [first] at made
  | cons head rest => rw [Except.ok.inj made, List.take_succ_cons, List.take_zero]

theorem binds_comparing (comparison : Comparison) : (comparing comparison).Binds .single := by
  intro column values condition bound made
  obtain ⟨value, read, compared⟩ := (bind_eq_ok _ _ _).1 made
  have isBound := bound value (first_eq_ok read)
  obtain rfl := Condition.compared_eq_ok isBound compared
  rw [Reading.bound, take_one_of_first read, ← Condition.operandParameters_of_isBound isBound]
  exact ⟨rfl, rfl⟩

theorem binds_among : Binds among .list := by
  intro column values condition _ made
  obtain rfl := Except.ok.inj made
  exact ⟨rfl, rfl⟩

theorem binds_notAmong : Binds notAmong .list := by
  intro column values condition _ made
  obtain rfl := Except.ok.inj made
  exact ⟨rfl, rfl⟩

theorem binds_between : Binds between .range := by
  intro column values condition _ made
  unfold between at made
  split at made
  · obtain rfl := Except.ok.inj made
    exact ⟨rfl, rfl⟩
  · simp at made

theorem binds_like : Binds like .single := by
  intro column values condition _ made
  obtain ⟨pattern, read, rest⟩ := (bind_eq_ok _ _ _).1 made
  obtain ⟨_, shaped⟩ := (guarded_eq_ok _).1 rest
  obtain rfl := (pure_eq_ok _ _).1 shaped
  rw [Reading.bound, take_one_of_first read]
  exact ⟨rfl, rfl⟩

theorem binds_likeInAnyCase : Binds likeInAnyCase .single := by
  intro column values condition _ made
  obtain ⟨pattern, read, shaped⟩ := (bind_eq_ok _ _ _).1 made
  obtain rfl := (pure_eq_ok _ _).1 shaped
  rw [Reading.bound, take_one_of_first read]
  exact ⟨rfl, rfl⟩

theorem plain_of_sought {values : List Value} {content : String}
    (made : sought values = .ok content) :
    (values.take 1).map Value.plain = [content] := by
  obtain ⟨value, read, made⟩ := (bind_eq_ok _ _ _).1 made
  rw [take_one_of_first read, List.map_singleton]
  split at made
  · rw [← (pure_eq_ok _ _).1 made]
    rfl
  · rw [← (pure_eq_ok _ _).1 made]
  · simp at made

/-- Operators that seek a text make a pattern of it. -/
theorem binds_of_sought {make : Column → String → Condition}
    (shaped : ∀ column content,
      (make column content).parameters = [.text (Condition.literalPattern content)] ∧
        (make column content).lacksNever = true) :
    Binds (fun column values => do return make column (← sought values)) .pattern := by
  intro column values condition _ made
  obtain ⟨content, read, made⟩ := (bind_eq_ok _ _ _).1 made
  obtain rfl := (pure_eq_ok _ _).1 made
  have patterns :
      (values.take 1).map (fun value => Value.text (Condition.literalPattern value.plain)) =
        [.text (Condition.literalPattern content)] := by
    have plain := congrArg (List.map fun text => Value.text (Condition.literalPattern text))
      (plain_of_sought read)
    rwa [List.map_map] at plain
  rw [Reading.bound, patterns]
  exact shaped column content

theorem binds_holding (place : TextPlace) : (holding place).Binds .pattern :=
  binds_of_sought fun _ _ => ⟨rfl, rfl⟩

theorem binds_lacking (place : TextPlace) : (lacking place).Binds .pattern :=
  binds_of_sought fun _ _ => ⟨rfl, rfl⟩

theorem binds_onDay : Binds onDay .day := by
  intro column values condition _ made
  obtain ⟨⟨start, stop⟩, bounds, rest⟩ := (bind_eq_ok _ _ _).1 made
  obtain ⟨above, aboveMade, rest⟩ := (bind_eq_ok _ _ _).1 rest
  obtain ⟨below, belowMade, shaped⟩ := (bind_eq_ok _ _ _).1 rest
  obtain rfl := (pure_eq_ok _ _).1 shaped
  obtain ⟨startBound, stopBound⟩ := isBound_of_dayBounds bounds
  obtain rfl := Condition.compared_eq_ok startBound aboveMade
  obtain rfl := Condition.compared_eq_ok stopBound belowMade
  rw [Reading.bound, bounds, Condition.parameters_all, Condition.lacksNever_all]
  simp [Condition.parameters, Condition.lacksNever, Condition.operandParameters_of_isBound, *]

theorem binds_offDay : Binds offDay .day := by
  intro column values condition _ made
  obtain ⟨⟨start, stop⟩, bounds, rest⟩ := (bind_eq_ok _ _ _).1 made
  obtain ⟨before, beforeMade, rest⟩ := (bind_eq_ok _ _ _).1 rest
  obtain ⟨behind, behindMade, shaped⟩ := (bind_eq_ok _ _ _).1 rest
  obtain rfl := (pure_eq_ok _ _).1 shaped
  obtain ⟨startBound, stopBound⟩ := isBound_of_dayBounds bounds
  obtain rfl := Condition.compared_eq_ok startBound beforeMade
  obtain rfl := Condition.compared_eq_ok stopBound behindMade
  rw [Reading.bound, bounds, Condition.parameters_any, Condition.lacksNever_any]
  simp [Condition.parameters, Condition.lacksNever, Condition.operandParameters_of_isBound, *]

end Operator

/-- The operators that come with the library compare their columns with what they read. -/
theorem Operators.binds_standard :
    ∀ entry ∈ standard.builders, flagged.contains entry.1 = false →
      entry.2.Binds (.ofOperator entry.1) := by
  unfold standard
  dsimp only
  simp [Reading.ofOperator, flagged, Operator.binds_comparing, Operator.binds_among,
    Operator.binds_notAmong, Operator.binds_between, Operator.binds_like,
    Operator.binds_likeInAnyCase, Operator.binds_holding, Operator.binds_lacking,
    Operator.binds_onDay, Operator.binds_offDay]

namespace ResolvedFilter

def bound (column : Column) (filter : ResolvedFilter) : List Value :=
  filter.constraints.flatMap fun constraint =>
    (Reading.ofOperator constraint.operator).bound column constraint.values

/-- Whether a filter has constraints with values, and with no flags or truth values. -/
structure ComparesValues (filter : ResolvedFilter) : Prop where
  nonempty : filter.constraints ≠ []
  noFlag : ∀ constraint ∈ filter.constraints,
    Operators.flagged.contains constraint.operator = false
  isBound : ∀ constraint ∈ filter.constraints, ∀ value ∈ constraint.values, value.isBound = true

theorem binds_condition {filter : ResolvedFilter} (compares : filter.ComparesValues)
    {column : Column} {condition : Condition}
    (made : filter.condition .standard column = .ok condition) :
    condition.parameters = filter.bound column ∧ condition.lacksNever = true := by
  obtain ⟨conditions, conditionsMade, made⟩ := (bind_eq_ok _ _ _).1 made
  have each : ∀ constraint ∈ filter.constraints, ∀ part,
      Operators.standard.condition constraint.operator column constraint.values = .ok part →
        part.parameters = (Reading.ofOperator constraint.operator).bound column constraint.values ∧
          part.lacksNever = true := by
    intro constraint isConstraint part partMade
    unfold Operators.condition at partMade
    split at partMade
    · rename_i operator found
      exact Operators.binds_standard _ (Dictionary.mem_of_get? found)
        (compares.noFlag constraint isConstraint) (compares.isBound constraint isConstraint)
        partMade
    · simp at partMade
  obtain ⟨same, lack⟩ := Condition.binds_mapM each conditionsMade
  have someParts : conditions ≠ [] := ne_nil_of_mapM conditionsMade compares.nonempty
  rw [bound, ← same]
  split at made <;> obtain rfl := (pure_eq_ok _ _).1 made
  · exact ⟨(List.flatMap_singleton ..).symm, lack _ (List.mem_singleton_self _)⟩
  · exact ⟨Condition.parameters_all _, (Condition.lacksNever_all _).2 lack⟩
  · exact ⟨Condition.parameters_any _, (Condition.lacksNever_any _).2 ⟨someParts, lack⟩⟩

end ResolvedFilter

namespace Sql

theorem name_columnAlong (owner : Occurrence) (path : String) (leaf : LoadedAttribute)
    (steps : List LoadedAttribute) :
    (columnAlong owner path leaf steps).name =
      match leaf.dataType, leaf.link? with
      | .junction, some link => link.targetColumn
      | _, _ => leaf.field := by
  induction steps generalizing owner path with
  | nil =>
      unfold columnAlong
      split <;> simp_all
  | cons step rest hypothesis =>
      unfold columnAlong
      exact hypothesis _ _

/-- A path has a column with the name that the path tells. -/
theorem JoinPlan.ensures_name_columnFor (plan : JoinPlan) (entity : LoadedEntity)
    (resolved : ResolvedPath) :
    Ensures (columnFor resolved) plan fun column _ =>
      column.name = (resolved.columnIn entity).name := by
  unfold ResolvedPath.columnIn
  rw [name_columnAlong]
  unfold columnFor
  apply Ensures.get
  refine Ensures.bind (fun _ _ _ => trivial : Ensures _ _ fun _ _ => True) ?_
  rintro ⟨owner, last, path⟩ between -
  dsimp only
  split
  · rename_i isJunction
    refine Ensures.bind (fun _ _ _ => trivial : Ensures _ _ fun _ _ => True) ?_
    rintro linked later -
    cases isLink : resolved.leaf.link? with
    | none => exact Ensures.throw _
    | some link =>
        apply Ensures.of_lift
        intro column made
        rw [Source.eq_of_column made, isJunction]
  · rename_i notJunction
    apply Ensures.of_lift
    intro column made
    rw [Source.eq_of_column made]
    split
    · contradiction
    · rfl

end Sql

theorem Reading.bound_congr {column other : Column} (sameName : column.name = other.name)
    (values : List Value) (reading : Reading) :
    reading.bound column values = reading.bound other values := by
  cases reading with
  | list =>
      have sameWritten : Condition.isWrittenOut column = Condition.isWrittenOut other := by
        unfold Condition.isWrittenOut Column.placeholderStem
        rw [sameName]
      rw [bound, bound, Condition.listParameters, Condition.listParameters, sameWritten]
  | _ => rfl

namespace Listing

open Sql

variable {entity : LoadedEntity} {filters : List ResolvedFilter} {sorts : List ResolvedSort}
  {cursor : ResolvedCursor} {pagination : Pagination} {size : Int} {listing : Listing}

def filterValues (entity : LoadedEntity) (filters : List ResolvedFilter) : List Value :=
  filters.flatMap fun filter => filter.bound (filter.target.columnIn entity)

theorem binds_filterConditions (entity : LoadedEntity)
    (compare : ∀ filter ∈ filters, filter.ComparesValues) {plan later : JoinPlan}
    {filtering : List Condition}
    (made : (filterConditions .standard filters).run plan = .ok (filtering, later)) :
    filtering.flatMap Condition.parameters = filterValues entity filters ∧
      ∀ condition ∈ filtering, condition.lacksNever = true := by
  induction filters generalizing plan filtering with
  | nil =>
      simp only [filterConditions, List.mapM_nil, StateT.run_pure, pure_eq_ok, Prod.mk.injEq]
        at made
      obtain ⟨rfl, rfl⟩ := made
      exact ⟨rfl, List.forall_mem_nil _⟩
  | cons filter rest hypothesis =>
      simp only [filterConditions, List.mapM_cons, run_bind_eq_ok, StateT.run_pure, pure_eq_ok,
        Prod.mk.injEq, run_lift_eq_ok] at made
      obtain ⟨condition, _, ⟨column, between, found, _, headMade, rfl, rfl⟩, others, _, restMade,
        rfl, rfl⟩ := made
      obtain ⟨compares, restCompare⟩ := List.forall_mem_cons.1 compare
      obtain ⟨same, lacks⟩ := ResolvedFilter.binds_condition compares headMade
      obtain ⟨sameRest, lackRest⟩ := hypothesis restCompare restMade
      have sameName := JoinPlan.ensures_name_columnFor plan entity filter.target _ _ found
      have sameColumn : filter.bound column = filter.bound (filter.target.columnIn entity) := by
        unfold ResolvedFilter.bound
        simp only [Reading.bound_congr sameName]
      rw [List.flatMap_cons, same, sameRest, sameColumn]
      exact ⟨rfl, List.forall_mem_cons.2 ⟨lacks, lackRest⟩⟩

/-- Whether the parameters of a listing are what filters compare columns with, then values of its
edge, and last its window. -/
structure Binds (listing : Listing) (filters : List ResolvedFilter) : Prop where
  unedged : listing.cursor.isEmpty = true → listing.statement.parameters =
    filterValues listing.entity filters ++
      [.int listing.statement.limit, .int listing.statement.offset]
  edged : listing.cursor.isEmpty = false → listing.cursor.LeadsOn listing.sorts → ∃ beyond,
    (∀ value, value ∈ beyond ↔ listing.cursor.HasEdgeValue listing.sorts value) ∧
      listing.statement.parameters = filterValues listing.entity filters ++ beyond ++
        [.int listing.statement.limit, .int listing.statement.offset]
  exhausted : listing.cursor.isEmpty = false → ¬listing.cursor.LeadsOn listing.sorts →
    listing.statement.parameters =
      [.int listing.statement.limit, .int listing.statement.offset]

theorem binds_of_build (compare : ∀ filter ∈ filters, filter.ComparesValues)
    (built : Listing.build .standard entity filters sorts cursor pagination size = .ok listing) :
    listing.Binds filters := by
  obtain ⟨filtering, sorted, plan, planned⟩ := exists_planned built
  obtain ⟨sameSorts, _⟩ := planned_eq_ok planned
  obtain ⟨conditions, passed, conditionsMade, _, rfl⟩ := build_eq_ok planned built
  simp only [Listing.planned, run_bind_eq_ok, StateT.run_pure, pure_eq_ok, Prod.mk.injEq]
    at planned
  obtain ⟨_, between, filteringMade, _, _, _, ⟨rfl, rfl⟩, rfl⟩ := planned
  obtain ⟨same, lack⟩ := binds_filterConditions entity compare filteringMade
  unfold Listing.conditions at conditionsMade
  split at conditionsMade
  · rename_i isEmpty
    obtain rfl := Except.ok.inj conditionsMade
    refine ⟨fun _ => ?_, fun notEmpty => ?_, fun notEmpty => ?_⟩
    · rw [Select.parameters_eq lack, same]
    · exact absurd isEmpty (by simp [notEmpty])
    · exact absurd isEmpty (by simp [notEmpty])
  · rename_i notEmpty
    obtain ⟨beyond, beyondMade, gathered⟩ := (bind_eq_ok _ _ _).1 conditionsMade
    obtain rfl := (pure_eq_ok _ _).1 gathered
    obtain ⟨values, leads, stops⟩ := Keyset.condition_spec beyondMade
    rw [sameSorts] at values leads stops
    refine ⟨fun isEmpty => absurd isEmpty notEmpty, fun _ leadsOn => ?_, fun _ stopsHere => ?_⟩
    · have allLack := List.forall_mem_append.2
        ⟨lack, List.forall_mem_singleton.2 (leads leadsOn)⟩
      refine ⟨beyond.parameters, values, ?_⟩
      rw [Select.parameters_eq allLack, List.flatMap_append, List.flatMap_singleton, same]
    · apply Select.parameters_of_never
      rw [stops stopsHere]
      exact List.mem_append_right _ (List.mem_singleton_self _)

end Listing

end SchemaQuery
