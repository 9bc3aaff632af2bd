import SchemaQuery.Proofs.Truth
import SchemaQuery.Sql.Select

/-!
# What a database makes of a condition

A database fetches rows from the tables of a statement, a value for every column
of theirs.  How it compares two values that are there is its own affair, but for
each column it is some linear order.  With that, every condition has a truth on
every row.

A statement carries its condition in a simplified form.  This file proves that
simplifying a condition keeps its truth on all rows.
-/

namespace SchemaQuery

namespace Value

/-- Whether a value may stand in a column: no nest, no bytes, and no integer that is too
long to be written. -/
def isStorable : Value → Bool
  | .int number => (Number.digitsOf number.natAbs).length ≤ Number.integerDigitLimit
  | .bytes _ => false
  | .list _ => false
  | .tuple _ => false
  | .record _ => false
  | .unpairedRecord _ => false
  | _ => true

@[simp]
theorem isNull_null : isNull .null = true := rfl

@[simp]
theorem isNull_iff (value : Value) : value.isNull = true ↔ value = .null := by
  cases value <;> simp [isNull]

@[simp]
theorem isNull_eq_false_iff (value : Value) : value.isNull = false ↔ value ≠ .null := by
  cases value <;> simp [isNull]

end Value

namespace Sql

structure Tuple where
  value : Column → Value
  storable : ∀ column, (value column).isStorable = true

/-- How a database compares values, and where it puts missing ones by default. -/
structure Database where
  compare : Column → Value → Value → Ordering
  ordered : ∀ column, Std.TransCmp (compare column)
  missingFirst : Direction → Bool
  /-- Whether a text is like a pattern, with an escape for characters that stand for themselves. -/
  isLike : (escape : Option Char) → (pattern subject : Value) → Bool
  lowered : Value → Value
  lowered_null : lowered .null = .null

attribute [instance] Database.ordered

namespace Comparison

def accepts : Comparison → Ordering → Bool
  | .equal, ordering => ordering.isEq
  | .notEqual, ordering => ordering.isNe
  | .less, ordering => ordering.isLT
  | .lessOrEqual, ordering => ordering.isLE
  | .greater, ordering => ordering.isGT
  | .greaterOrEqual, ordering => ordering.isGE

end Comparison

namespace Database

variable (database : Database)

/-- The truth of a comparison, which is unknown where a value is missing. -/
def compared (comparison : Comparison) (column : Column) (value operand : Value) : Truth :=
  if value.isNull || operand.isNull then .unknown
  else .ofBool (comparison.accepts (database.compare column value operand))

def like (escape : Option Char) (pattern subject : Value) : Truth :=
  if subject.isNull || pattern.isNull then .unknown
  else .ofBool (database.isLike escape pattern subject)

/-- The pattern for a text at some place of a column. -/
def patternAt (place : TextPlace) (sought : String) : Value :=
  match place with
  | .anywhere => .text ("%" ++ Condition.literalPattern sought ++ "%")
  | .atStart => .text (Condition.literalPattern sought ++ "%")
  | .atEnd => .text ("%" ++ Condition.literalPattern sought)

end Database

namespace Database

def integerOf : Value → Int
  | .int number => number
  | _ => 0

/-- A database for examples, which compares integers and puts missing values first. -/
def ofIntegers : Database where
  compare _ := compareOn integerOf
  ordered _ := inferInstance
  missingFirst _ := true
  isLike _ _ _ := false
  lowered value := value
  lowered_null := rfl

end Database

namespace Condition

mutual

def truth (database : Database) (row : Tuple) : Condition → Truth
  | .never => .fails
  | .compare comparison column operand =>
      database.compared comparison column (row.value column) operand
  | .isNull column => .ofBool (row.value column).isNull
  | .isNotNull column => .ofBool !(row.value column).isNull
  | .among column operands =>
      .any (operands.map (database.compared .equal column (row.value column)))
  | .notAmong column operands =>
      .not (.any (operands.map (database.compared .equal column (row.value column))))
  | .between column low high =>
      .and (database.compared .greaterOrEqual column (row.value column) low)
        (database.compared .lessOrEqual column (row.value column) high)
  | .like column pattern => database.like none pattern (row.value column)
  | .likeInAnyCase column pattern =>
      database.like none (database.lowered pattern) (database.lowered (row.value column))
  | .holdsText place column sought =>
      database.like (some escapeMark) (Database.patternAt place sought) (row.value column)
  | .lacksText place column sought =>
      .not (database.like (some escapeMark) (Database.patternAt place sought) (row.value column))
  | .all conditions => .all (truthOfEach database row conditions)
  | .any conditions => .any (truthOfEach database row conditions)

def truthOfEach (database : Database) (row : Tuple) : List Condition → List Truth
  | [] => []
  | condition :: rest => truth database row condition :: truthOfEach database row rest

end

variable (database : Database) (row : Tuple)

@[simp]
theorem truth_isNull (column : Column) :
    truth database row (.isNull column) = .holds ↔ row.value column = .null := by
  rw [truth, Truth.ofBool_eq_holds, Value.isNull_iff]

@[simp]
theorem truth_isNotNull (column : Column) :
    truth database row (.isNotNull column) = .holds ↔ row.value column ≠ .null := by
  rw [truth, Truth.ofBool_eq_holds, Bool.not_eq_true', Value.isNull_eq_false_iff]

@[simp]
theorem truthOfEach_eq_map (conditions : List Condition) :
    truthOfEach database row conditions = conditions.map (truth database row) := by
  induction conditions with
  | nil => rfl
  | cons condition rest hypothesis => rw [truthOfEach, hypothesis, List.map_cons]

@[simp]
theorem truth_all (conditions : List Condition) :
    truth database row (.all conditions) = .all (conditions.map (truth database row)) := by
  rw [truth, truthOfEach_eq_map]

@[simp]
theorem truth_any (conditions : List Condition) :
    truth database row (.any conditions) = .any (conditions.map (truth database row)) := by
  rw [truth, truthOfEach_eq_map]

theorem all_truth_conjuncts (condition : Condition) :
    Truth.all (condition.conjuncts.map (truth database row)) = truth database row condition := by
  cases condition <;> simp [conjuncts]

theorem any_truth_disjuncts (condition : Condition) :
    Truth.any (condition.disjuncts.map (truth database row)) = truth database row condition := by
  cases condition <;> simp [disjuncts, truth]

theorem all_truth_flatMap_conjuncts (conditions : List Condition) :
    Truth.all ((conditions.flatMap conjuncts).map (truth database row)) =
      .all (conditions.map (truth database row)) := by
  induction conditions with
  | nil => rfl
  | cons condition rest hypothesis =>
      rw [List.flatMap_cons, List.map_append, Truth.all_append, all_truth_conjuncts, hypothesis,
        List.map_cons, Truth.all_cons]

theorem any_truth_flatMap_disjuncts (conditions : List Condition) :
    Truth.any ((conditions.flatMap disjuncts).map (truth database row)) =
      .any (conditions.map (truth database row)) := by
  induction conditions with
  | nil => rfl
  | cons condition rest hypothesis =>
      rw [List.flatMap_cons, List.map_append, Truth.any_append, any_truth_disjuncts, hypothesis,
        List.map_cons, Truth.any_cons]

theorem eq_never_of_isNever {condition : Condition} (never : condition.isNever = true) :
    condition = .never := by
  cases condition <;> simp_all [isNever]

theorem truth_allOf (conditions : List Condition) :
    truth database row (allOf conditions) = .all (conditions.map (truth database row)) := by
  rw [← all_truth_flatMap_conjuncts]
  unfold allOf
  dsimp only
  split
  · rename_i found
    obtain ⟨condition, member, never⟩ := List.any_eq_true.1 found
    rw [eq_never_of_isNever never] at member
    have fails : Truth.fails ∈ (conditions.flatMap conjuncts).map (truth database row) :=
      List.mem_map.2 ⟨.never, member, by rw [truth]⟩
    rw [truth, Truth.all_eq_fails_of_mem fails]
  · split
    · rename_i single
      simp [single]
    · exact truth_all database row _

theorem truth_anyOf (conditions : List Condition) :
    truth database row (anyOf conditions) = .any (conditions.map (truth database row)) := by
  rw [← any_truth_flatMap_disjuncts]
  unfold anyOf
  split
  · rename_i empty
    rw [empty, truth, List.map_nil, Truth.any_nil]
  · rename_i single
    simp [single]
  · exact truth_any database row _

mutual

theorem truth_simplify (condition : Condition) :
    truth database row (simplify condition) = truth database row condition := by
  cases condition with
  | all conditions => rw [simplify, truth_allOf, map_truth_simplifyEach, truth_all]
  | any conditions => rw [simplify, truth_anyOf, map_truth_simplifyEach, truth_any]
  | _ => rfl

theorem map_truth_simplifyEach (conditions : List Condition) :
    (simplifyEach conditions).map (truth database row) =
      conditions.map (truth database row) := by
  cases conditions with
  | nil => rfl
  | cons condition rest =>
      rw [simplifyEach, List.map_cons, truth_simplify condition, map_truth_simplifyEach rest,
        List.map_cons]

end

end Condition

namespace Select

theorem truth_condition (statement : Select) (database : Database) (row : Tuple) :
    statement.condition.truth database row = .holds ↔
      ∀ condition ∈ statement.conditions, condition.truth database row = .holds := by
  rw [condition, Condition.truth_simplify, Condition.truth_all, Truth.all_eq_holds]
  simp

end Select

end Sql
end SchemaQuery
