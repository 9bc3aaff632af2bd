import SchemaQuery.Proofs.CursorAcceptance
import SchemaQuery.Proofs.TypedConstraints

/-!
# Outlines of conditions

The text of a condition tells nothing of the values that columns are compared with, truth values
apart, but only how many there are.  This file blanks the values out.  What is left is the outline
of the condition, which has the same text and as many parameters, also once it has been simplified.
From as many values other than truth values an operator makes conditions with the same outline, and
so does an edge of the same list that lacks values for the same sorts.
-/

namespace SchemaQuery

namespace Value

/-- What a comparison tells of its operand: which truth value it is, if any. -/
def outline : Value → Value
  | .bool truth => .bool truth
  | _ => .null

/-- Whether a comparison keeps a value back as a parameter. -/
def isBound (value : Value) : Bool :=
  !value.isNull && !value.isBool

theorem isBound_of_isThere {value : Value} (isThere : value.isNull = false)
    (noTruth : value.isBool = false) : value.isBound = true := by
  rw [isBound, isThere, noTruth]
  rfl

theorem outline_of_isBound {value : Value} (isBound : value.isBound = true) :
    value.outline = .null := by
  cases value with
  | bool truth => exact absurd isBound Bool.false_ne_true
  | _ => rfl

end Value

namespace Sql

open Success

namespace Condition

mutual

/-- The condition with its operands blanked out. -/
def outline : Condition → Condition
  | .never => .never
  | .compare comparison column operand => .compare comparison column operand.outline
  | .isNull column => .isNull column
  | .isNotNull column => .isNotNull column
  | .among column operands => .among column (operands.map fun _ => .null)
  | .notAmong column operands => .notAmong column (operands.map fun _ => .null)
  | .between column _ _ => .between column .null .null
  | .like column _ => .like column .null
  | .likeInAnyCase column _ => .likeInAnyCase column .null
  | .holdsText place column _ => .holdsText place column ""
  | .lacksText place column _ => .lacksText place column ""
  | .all conditions => .all (outlineEach conditions)
  | .any conditions => .any (outlineEach conditions)

def outlineEach : List Condition → List Condition
  | [] => []
  | condition :: rest => outline condition :: outlineEach rest

end

theorem outlineEach_eq_map (conditions : List Condition) :
    outlineEach conditions = conditions.map outline := by
  induction conditions with
  | nil => rfl
  | cons condition rest hypothesis => rw [outlineEach, hypothesis, List.map_cons]

@[simp]
theorem outline_all (conditions : List Condition) :
    outline (.all conditions) = .all (conditions.map outline) := by
  rw [outline, outlineEach_eq_map]

@[simp]
theorem outline_any (conditions : List Condition) :
    outline (.any conditions) = .any (conditions.map outline) := by
  rw [outline, outlineEach_eq_map]

@[simp]
theorem operandText_outline (operand : Value) :
    operandText operand.outline = operandText operand := by
  cases operand <;> rfl

theorem length_operandParameters_outline (operand : Value) :
    (operandParameters operand.outline).length = (operandParameters operand).length := by
  cases operand <;> rfl

theorem listText_blank (before : List String) (column : Column) (operands : List Value) :
    listText before column (operands.map fun _ => .null) = listText before column operands := by
  unfold listText
  rw [List.map_map]
  rfl

theorem length_listParameters_blank (column : Column) (operands : List Value) :
    (listParameters column (operands.map fun _ => .null)).length =
      (listParameters column operands).length := by
  unfold listParameters
  split
  · rw [List.length_map]
  · rfl

@[simp]
theorem isDisjunction_outline (condition : Condition) :
    isDisjunction (outline condition) = isDisjunction condition := by
  cases condition <;> simp [outline, isDisjunction]

mutual

@[simp]
theorem stems_outline (condition : Condition) : stems (outline condition) = stems condition := by
  cases condition with
  | compare comparison column operand =>
      rw [outline, stems, stems, List.map_const', List.map_const', length_operandParameters_outline]
  | all conditions => rw [outline, stems, stems, stemsOfEach_outlineEach]
  | any conditions => rw [outline, stems, stems, stemsOfEach_outlineEach]
  | _ => simp only [outline, stems]

theorem stemsOfEach_outlineEach (conditions : List Condition) :
    stemsOfEach (outlineEach conditions) = stemsOfEach conditions := by
  cases conditions with
  | nil => rfl
  | cons condition rest =>
      rw [outlineEach, stemsOfEach, stemsOfEach, stems_outline, stemsOfEach_outlineEach rest]

end

mutual

theorem text_outline (before : List String) (condition : Condition) :
    text before (outline condition) = text before condition := by
  cases condition with
  | compare comparison column operand => rw [outline, text, text, operandText_outline]
  | among column operands => rw [outline, text, text, listText_blank]
  | notAmong column operands => rw [outline, text, text, listText_blank]
  | all conditions => rw [outline, text, text, conjunctTexts_outlineEach]
  | any conditions => rw [outline, text, text, disjunctTexts_outlineEach]
  | _ => simp only [outline, text]

theorem conjunctTexts_outlineEach (before : List String) (conditions : List Condition) :
    conjunctTexts before (outlineEach conditions) = conjunctTexts before conditions := by
  cases conditions with
  | nil => rfl
  | cons condition rest =>
      rw [outlineEach, conjunctTexts, conjunctTexts, isDisjunction_outline, stems_outline,
        text_outline, conjunctTexts_outlineEach _ rest]

theorem disjunctTexts_outlineEach (before : List String) (conditions : List Condition) :
    disjunctTexts before (outlineEach conditions) = disjunctTexts before conditions := by
  cases conditions with
  | nil => rfl
  | cons condition rest =>
      rw [outlineEach, disjunctTexts, disjunctTexts, stems_outline, text_outline,
        disjunctTexts_outlineEach _ rest]

end

mutual

theorem length_parameters_outline (condition : Condition) :
    (parameters (outline condition)).length = (parameters condition).length := by
  cases condition with
  | compare comparison column operand =>
      rw [outline, parameters, parameters, length_operandParameters_outline]
  | among column operands => rw [outline, parameters, parameters, length_listParameters_blank]
  | notAmong column operands => rw [outline, parameters, parameters, length_listParameters_blank]
  | all conditions => rw [outline, parameters, parameters, length_parametersOfEach_outlineEach]
  | any conditions => rw [outline, parameters, parameters, length_parametersOfEach_outlineEach]
  | _ => simp only [outline, parameters, List.length_cons]

theorem length_parametersOfEach_outlineEach (conditions : List Condition) :
    (parametersOfEach (outlineEach conditions)).length = (parametersOfEach conditions).length := by
  cases conditions with
  | nil => rfl
  | cons condition rest =>
      rw [outlineEach, parametersOfEach, parametersOfEach, List.length_append, List.length_append,
        length_parameters_outline, length_parametersOfEach_outlineEach rest]

end

theorem conjuncts_outline (condition : Condition) :
    conjuncts (outline condition) = (conjuncts condition).map outline := by
  cases condition <;> simp [conjuncts, outline, outlineEach_eq_map]

theorem disjuncts_outline (condition : Condition) :
    disjuncts (outline condition) = (disjuncts condition).map outline := by
  cases condition <;> simp [disjuncts, outline, outlineEach_eq_map]

theorem isNever_outline (condition : Condition) :
    isNever (outline condition) = isNever condition := by
  cases condition <;> simp [isNever, outline]

theorem allOf_outline (conditions : List Condition) :
    allOf (conditions.map outline) = outline (allOf conditions) := by
  have opened : (conditions.map outline).flatMap conjuncts =
      (conditions.flatMap conjuncts).map outline := by
    rw [List.flatMap_map, List.map_flatMap]
    simp only [conjuncts_outline]
  have sameNever : (isNever ∘ outline) = isNever := funext isNever_outline
  unfold allOf
  rw [opened]
  dsimp only
  rw [List.any_map, sameNever]
  split
  · rw [outline]
  · rcases conditions.flatMap conjuncts with _ | ⟨first, _ | ⟨second, rest⟩⟩
    · rw [outline_all]
      rfl
    · rfl
    · rw [outline_all]
      rfl

theorem anyOf_outline (conditions : List Condition) :
    anyOf (conditions.map outline) = outline (anyOf conditions) := by
  have opened : (conditions.map outline).flatMap disjuncts =
      (conditions.flatMap disjuncts).map outline := by
    rw [List.flatMap_map, List.map_flatMap]
    simp only [disjuncts_outline]
  unfold anyOf
  rw [opened]
  rcases conditions.flatMap disjuncts with _ | ⟨first, _ | ⟨second, rest⟩⟩
  · rw [outline]
    rfl
  · rfl
  · rw [outline_any]
    rfl

mutual

theorem simplify_outline (condition : Condition) :
    simplify (outline condition) = outline (simplify condition) := by
  cases condition with
  | all conditions =>
      rw [outline, simplify, simplify, simplifyEach_outlineEach, outlineEach_eq_map, allOf_outline]
  | any conditions =>
      rw [outline, simplify, simplify, simplifyEach_outlineEach, outlineEach_eq_map, anyOf_outline]
  | _ => simp only [outline, simplify]

theorem simplifyEach_outlineEach (conditions : List Condition) :
    simplifyEach (outlineEach conditions) = outlineEach (simplifyEach conditions) := by
  cases conditions with
  | nil => rfl
  | cons condition rest =>
      rw [outlineEach, simplifyEach, simplifyEach, outlineEach, simplify_outline,
        simplifyEach_outlineEach rest]

end

theorem compared_eq_ok {comparison : Comparison} {column : Column} {operand : Value}
    {condition : Condition} (isBound : operand.isBound = true)
    (made : compared comparison column operand = .ok condition) :
    condition = .compare comparison column operand := by
  cases operand with
  | null => exact absurd isBound (by decide)
  | bool truth => exact absurd isBound Bool.false_ne_true
  | _ => cases comparison <;> exact (Except.ok.inj made).symm

theorem outline_compared {comparison : Comparison} {column : Column} {operand : Value}
    {condition : Condition} (isBound : operand.isBound = true)
    (made : compared comparison column operand = .ok condition) :
    outline condition = .compare comparison column .null := by
  rw [compared_eq_ok isBound made, outline, Value.outline_of_isBound isBound]

end Condition
end Sql

/-- Whether an edge lacks a value for the sort by a path. -/
def ResolvedCursor.Lacks (cursor : ResolvedCursor) (path : String) : Prop :=
  cursor.edgeValue path = .ok .null

theorem ResolvedCursor.lacks_iff {cursor : ResolvedCursor} {path : String} {edge : Value}
    (given : cursor.edgeValue path = .ok edge) : cursor.Lacks path ↔ edge.isNull = true := by
  rw [Value.isNull_iff, Lacks, given, Except.ok.injEq]

/-- Whether two cursors lead the same way from edges that lack the same values. -/
structure ResolvedCursor.Alike (sorts : List ResolvedSort) (cursor other : ResolvedCursor) :
    Prop where
  isEmpty : cursor.isEmpty = other.isEmpty
  isForward : cursor.cursor.isForward = other.cursor.isForward
  lacks : ∀ sort ∈ sorts, cursor.Lacks sort.path ↔ other.Lacks sort.path

namespace Sql.Keyset

open Success
open Condition (compared_eq_ok outline)

variable {cursor other : ResolvedCursor} {primaryKey : String} {sorted : List SortColumn}

theorem pastEdge_eq_ok {upward mayBeMissing : Bool} {column : Column} {edge : Value}
    {past : Option Condition} (made : pastEdge upward mayBeMissing column edge = .ok past) :
    past = if edge.isNull then if upward then some (.isNotNull column) else none
      else
        let plain := .compare (if upward then .greater else .less) column edge
        some (if !upward && mayBeMissing then .any [plain, .isNull column] else plain) := by
  have noTruth := noTruth_of_pastEdge made
  unfold pastEdge at made
  split at made
  · exact (Except.ok.inj made).symm
  · rename_i isThere
    have notNull : edge.isNull = false := (Value.isNull_eq_false_iff edge).2 isThere
    obtain ⟨plain, compared, shaped⟩ := (bind_eq_ok _ _ _).1 made
    obtain rfl := (pure_eq_ok _ _).1 shaped
    obtain rfl := compared_eq_ok (Value.isBound_of_isThere notNull noTruth) compared
    rw [notNull, if_neg Bool.false_ne_true]

theorem atEdge_eq_ok {column : Column} {edge : Value} {atIt : Condition}
    (noTruth : edge.isBool = false) (made : atEdge column edge = .ok atIt) :
    atIt = if edge.isNull then .isNull column else .compare .equal column edge := by
  cases missing : edge.isNull with
  | true =>
      obtain rfl := (Value.isNull_iff edge).1 missing
      exact (Except.ok.inj made).symm
  | false =>
      rw [if_neg Bool.false_ne_true]
      exact compared_eq_ok (Value.isBound_of_isThere missing noTruth) made

theorem outline_pastEdge {upward mayBeMissing : Bool} {column : Column} {edge : Value}
    {past : Option Condition} (made : pastEdge upward mayBeMissing column edge = .ok past) :
    past.map outline =
      if edge.isNull then if upward then some (.isNotNull column) else none
      else
        let plain := .compare (if upward then .greater else .less) column .null
        some (if !upward && mayBeMissing then .any [plain, .isNull column] else plain) := by
  have noTruth := noTruth_of_pastEdge made
  obtain rfl := pastEdge_eq_ok made
  cases missing : edge.isNull with
  | true => cases upward <;> rfl
  | false =>
      have blank := Value.outline_of_isBound (Value.isBound_of_isThere missing noTruth)
      dsimp only
      rw [if_neg Bool.false_ne_true, if_neg Bool.false_ne_true, Option.map_some,
        apply_ite outline, Condition.outline_any]
      simp [blank, outline]

theorem outline_atEdge {column : Column} {edge : Value} {atIt : Condition}
    (noTruth : edge.isBool = false) (made : atEdge column edge = .ok atIt) :
    outline atIt = if edge.isNull then .isNull column else .compare .equal column .null := by
  obtain rfl := atEdge_eq_ok noTruth made
  cases missing : edge.isNull with
  | true => rfl
  | false =>
      rw [if_neg Bool.false_ne_true, if_neg Bool.false_ne_true, outline,
        Value.outline_of_isBound (Value.isBound_of_isThere missing noTruth)]

theorem outline_branch (equal : List Condition) (past : Condition) :
    outline (branch equal past) = branch (equal.map outline) (outline past) := by
  unfold branch
  cases equal <;> simp

/-- By induction on the columns, while the conditions to equal the edges before grow alike. -/
theorem outline_branches (alike : cursor.Alike (sorted.map SortColumn.sort) other)
    {equal equalOther branching branchingOther : List Condition}
    (sameBefore : equal.map outline = equalOther.map outline)
    (made : branches cursor primaryKey equal sorted = .ok branching)
    (otherMade : branches other primaryKey equalOther sorted = .ok branchingOther) :
    branching.map outline = branchingOther.map outline := by
  induction sorted generalizing equal equalOther branching branchingOther with
  | nil =>
      obtain rfl := Except.ok.inj made
      obtain rfl := Except.ok.inj otherMade
      rfl
  | cons first rest hypothesis =>
      obtain ⟨edge, past, atIt, others, given, pastMade, atMade, othersMade, rfl⟩ :=
        branches_cons_eq_ok made
      obtain ⟨edgeOther, pastOther, atOther, othersOther, givenOther, pastOtherMade, atOtherMade,
        othersOtherMade, rfl⟩ := branches_cons_eq_ok otherMade
      have sameWay : cursor.cursor.goesUp first.sort.direction =
          other.cursor.goesUp first.sort.direction := by
        unfold Cursor.goesUp
        rw [alike.isForward]
      have sameMissing : edge.isNull = edgeOther.isNull := by
        have lacks := alike.lacks first.sort List.mem_cons_self
        rwa [ResolvedCursor.lacks_iff given, ResolvedCursor.lacks_iff givenOther,
          ← Bool.eq_iff_iff] at lacks
      have samePast : past.map outline = pastOther.map outline := by
        rw [outline_pastEdge pastMade, outline_pastEdge pastOtherMade, sameMissing, sameWay]
      have sameAt : outline atIt = outline atOther := by
        rw [outline_atEdge (noTruth_of_pastEdge pastMade) atMade,
          outline_atEdge (noTruth_of_pastEdge pastOtherMade) atOtherMade, sameMissing]
      have behind := hypothesis
        ⟨alike.isEmpty, alike.isForward,
          fun sort isSort => alike.lacks sort (List.mem_cons_of_mem _ isSort)⟩
        (by rw [List.map_append, List.map_append, sameBefore, List.map_singleton, sameAt]; rfl)
        othersMade othersOtherMade
      have branched (equal : List Condition) (past : Option Condition) :
          (past.map (branch equal)).toList.map outline =
            ((past.map outline).map (branch (equal.map outline))).toList := by
        cases past <;> simp [outline_branch]
      rw [List.map_append, List.map_append, branched, branched, samePast, sameBefore, behind]

theorem outline_condition (alike : cursor.Alike (sorted.map SortColumn.sort) other)
    {beyond beyondOther : Condition}
    (made : condition cursor primaryKey sorted = .ok beyond)
    (otherMade : condition other primaryKey sorted = .ok beyondOther) :
    outline beyond = outline beyondOther := by
  unfold condition at made otherMade
  split at made
  · exact absurd made (by simp)
  rename_i notEmpty
  rw [if_neg notEmpty] at otherMade
  obtain ⟨branching, branchesMade, made⟩ := (bind_eq_ok _ _ _).1 made
  obtain ⟨branchingOther, otherBranchesMade, otherMade⟩ := (bind_eq_ok _ _ _).1 otherMade
  have same := outline_branches alike rfl branchesMade otherBranchesMade
  rcases branching with _ | ⟨first, _ | ⟨second, rest⟩⟩
  · obtain rfl := List.map_eq_nil_iff.1 same.symm
    rw [← (pure_eq_ok _ _).1 made, ← (pure_eq_ok _ _).1 otherMade]
  · obtain ⟨firstOther, rfl, sameFirst⟩ := List.map_eq_singleton_iff.1 same.symm
    rw [← (pure_eq_ok _ _).1 made, ← (pure_eq_ok _ _).1 otherMade, sameFirst]
  · obtain ⟨firstOther, _, rfl, _, behind⟩ := List.map_eq_cons_iff.1 same.symm
    obtain ⟨secondOther, restOther, rfl, _⟩ := List.map_eq_cons_iff.1 behind
    rw [← (pure_eq_ok _ _).1 made, ← (pure_eq_ok _ _).1 otherMade]
    rw [Condition.outline_any, same, ← Condition.outline_any]

end Sql.Keyset

open Sql Success

/-- Whether conditions that an operator makes from as many values have the same outline. -/
def Operator.KeepsOutline (operator : Operator) : Prop :=
  ∀ ⦃column values others condition other⦄, values.length = others.length →
    (∀ value ∈ values, value.isBound = true) → (∀ value ∈ others, value.isBound = true) →
      operator column values = .ok condition → operator column others = .ok other →
        condition.outline = other.outline

namespace Operator

theorem first_eq_ok {values : List Value} {value : Value} (made : first values = .ok value) :
    value ∈ values := by
  cases values with
  | nil => simp [first] at made
  | cons head rest => exact Except.ok.inj made ▸ List.mem_cons_self

theorem keepsOutline_comparing (comparison : Comparison) :
    (comparing comparison).KeepsOutline := by
  intro column values others condition other _ bound otherBound made otherMade
  obtain ⟨value, read, compared⟩ := (bind_eq_ok _ _ _).1 made
  obtain ⟨valueOther, readOther, comparedOther⟩ := (bind_eq_ok _ _ _).1 otherMade
  rw [Condition.outline_compared (bound value (first_eq_ok read)) compared,
    Condition.outline_compared (otherBound valueOther (first_eq_ok readOther)) comparedOther]

theorem keepsOutline_among : KeepsOutline among := by
  intro column values others condition other sameCount _ _ made otherMade
  obtain rfl := Except.ok.inj made
  obtain rfl := Except.ok.inj otherMade
  rw [Condition.outline, Condition.outline, List.map_const', List.map_const', sameCount]

theorem keepsOutline_notAmong : KeepsOutline notAmong := by
  intro column values others condition other sameCount _ _ made otherMade
  obtain rfl := Except.ok.inj made
  obtain rfl := Except.ok.inj otherMade
  rw [Condition.outline, Condition.outline, List.map_const', List.map_const', sameCount]

/-- Operators all of whose conditions on a column have one outline. -/
theorem keepsOutline_of_outline {operator : Operator} (shape : Column → Condition)
    (shaped : ∀ ⦃column values condition⦄, operator column values = .ok condition →
      condition.outline = shape column) : operator.KeepsOutline := by
  intro column values others condition other _ _ _ made otherMade
  rw [shaped made, shaped otherMade]

theorem keepsOutline_between : KeepsOutline between := by
  refine keepsOutline_of_outline (fun column => .between column .null .null) ?_
  intro column values condition made
  unfold between at made
  split at made
  · obtain rfl := Except.ok.inj made
    rw [Condition.outline]
  · simp at made

theorem keepsOutline_like : KeepsOutline like := by
  refine keepsOutline_of_outline (fun column => .like column .null) ?_
  intro column values condition made
  obtain ⟨pattern, _, rest⟩ := (bind_eq_ok _ _ _).1 made
  obtain ⟨_, shaped⟩ := (guarded_eq_ok _).1 rest
  obtain rfl := (pure_eq_ok _ _).1 shaped
  rw [Condition.outline]

/-- Operators that make a condition of the values that they have read. -/
theorem keepsOutline_of_read {α : Type} (read : List Value → Except Fault α)
    {make : Column → α → Condition}
    (blank : ∀ column value other, (make column value).outline = (make column other).outline) :
    KeepsOutline fun column values => do return make column (← read values) := by
  intro column values others condition other _ _ _ made otherMade
  obtain ⟨value, _, shaped⟩ := (bind_eq_ok _ _ _).1 made
  obtain ⟨valueOther, _, shapedOther⟩ := (bind_eq_ok _ _ _).1 otherMade
  obtain rfl := (pure_eq_ok _ _).1 shaped
  obtain rfl := (pure_eq_ok _ _).1 shapedOther
  exact blank column value valueOther

theorem keepsOutline_likeInAnyCase : KeepsOutline likeInAnyCase :=
  keepsOutline_of_read first fun _ _ _ => by rw [Condition.outline, Condition.outline]

theorem keepsOutline_holding (place : TextPlace) : (holding place).KeepsOutline :=
  keepsOutline_of_read sought fun _ _ _ => by rw [Condition.outline, Condition.outline]

theorem keepsOutline_lacking (place : TextPlace) : (lacking place).KeepsOutline :=
  keepsOutline_of_read sought fun _ _ _ => by rw [Condition.outline, Condition.outline]

theorem isBound_of_dayBounds {values : List Value} {start stop : Value}
    (made : dayBounds values = .ok (start, stop)) : start.isBound = true ∧ stop.isBound = true := by
  obtain ⟨value, _, made⟩ := (bind_eq_ok _ _ _).1 made
  obtain ⟨day, _, made⟩ := (bind_eq_ok _ _ _).1 made
  split at made
  · obtain ⟨rfl, rfl⟩ := Prod.mk.inj ((pure_eq_ok _ _).1 made)
    exact ⟨rfl, rfl⟩
  · simp at made

theorem keepsOutline_onDay : KeepsOutline onDay := by
  refine keepsOutline_of_outline
    (fun column => .all [.compare .greaterOrEqual column .null, .compare .less column .null]) ?_
  intro column values condition made
  obtain ⟨⟨start, stop⟩, bounds, rest⟩ := (bind_eq_ok _ _ _).1 made
  obtain ⟨above, aboveMade, rest⟩ := (bind_eq_ok _ _ _).1 rest
  obtain ⟨below, belowMade, shaped⟩ := (bind_eq_ok _ _ _).1 rest
  obtain rfl := (pure_eq_ok _ _).1 shaped
  obtain ⟨startBound, stopBound⟩ := isBound_of_dayBounds bounds
  rw [Condition.outline_all, List.map_cons, List.map_singleton,
    Condition.outline_compared startBound aboveMade, Condition.outline_compared stopBound belowMade]

theorem keepsOutline_offDay : KeepsOutline offDay := by
  refine keepsOutline_of_outline
    (fun column => .any [.compare .less column .null, .compare .greaterOrEqual column .null]) ?_
  intro column values condition made
  obtain ⟨⟨start, stop⟩, bounds, rest⟩ := (bind_eq_ok _ _ _).1 made
  obtain ⟨before, beforeMade, rest⟩ := (bind_eq_ok _ _ _).1 rest
  obtain ⟨behind, behindMade, shaped⟩ := (bind_eq_ok _ _ _).1 rest
  obtain rfl := (pure_eq_ok _ _).1 shaped
  obtain ⟨startBound, stopBound⟩ := isBound_of_dayBounds bounds
  rw [Condition.outline_any, List.map_cons, List.map_singleton,
    Condition.outline_compared startBound beforeMade,
    Condition.outline_compared stopBound behindMade]

end Operator

/-- Whether casters make values that are kept back as parameters, and operators keep outlines. -/
structure Registry.BindsOperands (registry : Registry) : Prop where
  casters : ∀ ⦃dataType⦄, dataType ≠ .bool → ∀ ⦃raw value⦄,
    registry.casters.cast dataType raw = .ok value → value.isBound = true
  operators : ∀ entry ∈ registry.operators.builders,
    Operators.flagged.contains entry.1 = false → entry.2.KeepsOutline

theorem Value.isBound_of_isOfType {dataType : DataType} {value : Value}
    (ofType : value.isOfType dataType = true) (noFlag : dataType ≠ .bool) :
    value.isBound = true := by
  cases value <;> cases dataType <;> simp_all [isOfType, isBound, isNull, isBool]

theorem Operators.keepsOutline_standard :
    ∀ entry ∈ standard.builders, flagged.contains entry.1 = false → entry.2.KeepsOutline := by
  unfold standard
  dsimp only
  simp only [List.forall_mem_cons, List.not_mem_nil, false_implies, implies_true, and_true,
    Operator.keepsOutline_comparing, Operator.keepsOutline_among, Operator.keepsOutline_notAmong,
    Operator.keepsOutline_between, Operator.keepsOutline_like,
    Operator.keepsOutline_likeInAnyCase, Operator.keepsOutline_holding,
    Operator.keepsOutline_lacking, Operator.keepsOutline_onDay, Operator.keepsOutline_offDay]
  simp [flagged]

theorem Registry.bindsOperands_standard : Registry.BindsOperands {} where
  casters := fun _ noFlag _ _ made => Value.isBound_of_isOfType
    (Cast.isOfType_of_standard ((Casters.cast_standard_eq_ok _ _ _).1 made)) noFlag
  operators := Operators.keepsOutline_standard

end SchemaQuery
