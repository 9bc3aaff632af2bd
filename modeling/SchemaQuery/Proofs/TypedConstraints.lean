import SchemaQuery.Proofs.CatalogWork
import SchemaQuery.Proofs.ConstraintValues
import SchemaQuery.Proofs.DictionaryEntries
import SchemaQuery.Proofs.ValueType

/-!
# Constraints that have been resolved

Resolving a constraint with the casters and operators that come with the library makes sure that
it has values, that these are of the right type, and that the operator may be used with it.  This
file says which of these constraints can not be put into a condition all the same: those that order
rows by truth values, and those that need the day after the last one of the calendar.
-/

namespace SchemaQuery

namespace Cast

variable {raw typed : Value}

theorem isText_of_toText (made : toText raw = .ok typed) :
    (∃ content, typed = .text content) ∨ ∃ codes, typed = .unpaired codes := by
  cases raw <;> simp only [toText, Except.ok.injEq, reduceCtorEq] at made <;> simp [← made]

theorem isInteger_of_toInteger (made : toInteger raw = .ok typed) :
    ∃ number, typed = .int number := by
  have ofText (read : integerOfText raw = .ok typed) : ∃ number, typed = .int number := by
    unfold integerOfText at read
    split at read
    · split at read
      · exact ⟨_, (Except.ok.inj read).symm⟩
      · simp at read
      · simp at read
    · simp at read
  unfold toInteger at made
  split at made
  · simp at made
  · exact ⟨_, (Except.ok.inj made).symm⟩
  · split at made
    · exact ⟨_, (Except.ok.inj made).symm⟩
    · simp at made
  · exact ofText made

theorem isNumber_of_toNumber (made : toNumber raw = .ok typed) :
    ∃ number, typed = .float number := by
  have ofText (read : numberOfText raw = .ok typed) : ∃ number, typed = .float number := by
    unfold numberOfText at read
    split at read
    · split at read
      · exact ⟨_, (Except.ok.inj read).symm⟩
      · simp at read
    · simp at read
  unfold toNumber at made
  split at made
  · simp at made
  · split at made
    · exact ⟨_, (Except.ok.inj made).symm⟩
    · simp at made
  · exact ⟨_, (Except.ok.inj made).symm⟩
  · exact ofText made

theorem isBoolean_of_toBoolean (made : toBoolean raw = .ok typed) :
    ∃ truth, typed = .bool truth := by
  unfold toBoolean at made
  split at made
  · exact ⟨_, (Except.ok.inj made).symm⟩
  · split at made
    · dsimp only at made
      split at made
      · exact ⟨_, (Except.ok.inj made).symm⟩
      · split at made
        · exact ⟨_, (Except.ok.inj made).symm⟩
        · simp at made
    · simp at made

theorem isTimestamp_of_toTimestamp (made : toTimestamp raw = .ok typed) :
    ∃ moment, typed = .timestamp moment := by
  unfold toTimestamp at made
  split at made
  · exact ⟨_, (Except.ok.inj made).symm⟩
  · exact ⟨_, (Except.ok.inj made).symm⟩
  · obtain ⟨moment, _, same⟩ := Success.map_eq_ok.1 made
    exact ⟨moment, same.symm⟩

theorem isDate_of_toDate (made : toDate raw = .ok typed) : ∃ day, typed = .date day := by
  unfold toDate at made
  split at made
  · exact ⟨_, (Except.ok.inj made).symm⟩
  · exact ⟨_, (Except.ok.inj made).symm⟩
  · dsimp only at made
    split at made
    · obtain ⟨moment, _, same⟩ := Success.map_eq_ok.1 made
      exact ⟨moment.date, same.symm⟩
    · split at made
      · split at made
        · exact ⟨_, (Except.ok.inj made).symm⟩
        · simp at made
      · simp at made

theorem isOfType_of_standard {dataType : DataType} (made : standard dataType raw = .ok typed) :
    typed.isOfType dataType = true := by
  cases dataType with
  | string => rcases isText_of_toText made with ⟨_, rfl⟩ | ⟨_, rfl⟩ <;> rfl
  | text => rcases isText_of_toText made with ⟨_, rfl⟩ | ⟨_, rfl⟩ <;> rfl
  | int =>
      obtain ⟨_, rfl⟩ := isInteger_of_toInteger made
      rfl
  | float =>
      obtain ⟨_, rfl⟩ := isNumber_of_toNumber made
      rfl
  | bool =>
      obtain ⟨_, rfl⟩ := isBoolean_of_toBoolean made
      rfl
  | datetime =>
      obtain ⟨_, rfl⟩ := isTimestamp_of_toTimestamp made
      rfl
  | date =>
      obtain ⟨_, rfl⟩ := isDate_of_toDate made
      rfl
  | lookup =>
      obtain ⟨_, rfl⟩ := isInteger_of_toInteger made
      rfl
  | junction =>
      obtain ⟨_, rfl⟩ := isInteger_of_toInteger made
      rfl

end Cast

namespace ResolvedConstraint

/-- The data type of the values that an operator takes on a column. -/
def operandType (operator : String) (dataType : DataType) : DataType :=
  if Operators.flagged.contains operator then .bool else dataType

/-- A resolved constraint may be used with its column, and has values of the right type, as many as
its operator takes. -/
structure Typed (dataType : DataType) (constraint : ResolvedConstraint) : Prop where
  registered : Operators.standard.builders.contains constraint.operator = true
  accepted : Operators.standard.accepts constraint.operator dataType = true
  nonempty : constraint.values ≠ []
  ofType : ∀ value ∈ constraint.values,
    value.isOfType (operandType constraint.operator dataType) = true
  arity : ∀ count, Operators.arity?.get? constraint.operator = some count →
    constraint.values.length = count

/-- The operators that compare a column by order with a value of whatever type. -/
def orderings : List String := ["lt", "lte", "gt", "gte"]

/-- The operators that compare a column with a whole day. -/
def wholeDays : List String := ["dateIs", "dateIsNot"]

/-- Whether a constraint makes no condition: it orders rows by a truth value, or asks for the end of
the calendar's last day. -/
def Inexpressible (dataType : DataType) (constraint : ResolvedConstraint) : Prop :=
  dataType = .bool ∧ constraint.operator ∈ orderings ∨
    constraint.operator ∈ wholeDays ∧ ∃ value day, constraint.values.head? = some value ∧
      Operator.dayOf value = .ok day ∧ (day.year, day.month, day.day) = (9999, 12, 31)

end ResolvedConstraint

theorem Calendar.Date.next?_eq_none_iff (date : Date) :
    date.next? = none ↔ (date.year, date.month, date.day) = (9999, 12, 31) := by
  have valid := date.valid
  unfold IsDate at valid
  unfold next?
  simp only [Prod.mk.injEq]
  constructor
  · intro last
    split at last
    · simp at last
    · split at last
      · simp at last
      · split at last
        · simp at last
        · have isDecember : date.month = 12 := by omega
          have lastDay : daysInMonth date.year date.month = 31 := by
            rw [isDecember]
            rfl
          omega
  · rintro ⟨year, month, day⟩
    rw [dif_neg, dif_neg, dif_neg]
    · omega
    · omega
    · rw [month, day]
      change ¬(31 + 1 ≤ 31)
      omega

namespace Operator

open Sql (Column Comparison Condition)

variable {value : Value} (rest : List Value) {dataType : DataType} (column : Column)

theorem exists_compared_iff (comparison : Comparison) (ofType : value.isOfType dataType = true) :
    (∃ condition, Condition.compared comparison column value = .ok condition) ↔
      (dataType = .bool → comparison.isEquality = true) := by
  cases value <;> cases dataType <;> cases comparison <;>
    simp_all [Value.isOfType, Condition.compared, Comparison.isEquality]

theorem exists_comparing_iff (comparison : Comparison) (ofType : value.isOfType dataType = true) :
    (∃ condition, comparing comparison column (value :: rest) = .ok condition) ↔
      (dataType = .bool → comparison.isEquality = true) :=
  exists_compared_iff column comparison ofType

theorem exists_compared_timestamp (comparison : Comparison) (moment : Calendar.Timestamp) :
    ∃ condition, Condition.compared comparison column (.timestamp moment) = .ok condition := by
  cases comparison <;> exact ⟨_, rfl⟩

section Text

variable (ofType : value.isOfType dataType = true)
  (isText : Operators.textTypes.contains dataType = true)

include ofType isText

theorem exists_sought : ∃ text, sought (value :: rest) = .ok text := by
  cases value <;> cases dataType <;> simp_all [Value.isOfType, Operators.textTypes] <;>
    exact ⟨_, rfl⟩

theorem exists_like : ∃ condition, like column (value :: rest) = .ok condition := by
  cases value <;> cases dataType <;> simp_all [Value.isOfType, Operators.textTypes] <;>
    exact ⟨_, rfl⟩

theorem exists_holding (place : Sql.TextPlace) :
    ∃ condition, holding place column (value :: rest) = .ok condition := by
  obtain ⟨text, found⟩ := exists_sought rest ofType isText
  unfold holding
  rw [found]
  exact ⟨_, rfl⟩

theorem exists_lacking (place : Sql.TextPlace) :
    ∃ condition, lacking place column (value :: rest) = .ok condition := by
  obtain ⟨text, found⟩ := exists_sought rest ofType isText
  unfold lacking
  rw [found]
  exact ⟨_, rfl⟩

end Text

section Days

variable (ofType : value.isOfType dataType = true)
  (isDay : Operators.dayTypes.contains dataType = true)

include ofType isDay

theorem exists_dayOf : ∃ day, dayOf value = .ok day := by
  cases value <;> cases dataType <;> simp_all [Value.isOfType, Operators.dayTypes] <;>
    exact ⟨_, rfl⟩

/-- A day has bounds, unless it is the last one. -/
theorem exists_of_dayBounds_iff {next : Value × Value → Except Fault Condition}
    (succeeds : ∀ start stop, ∃ condition,
      next (.timestamp start, .timestamp stop) = .ok condition) :
    (∃ condition, (dayBounds (value :: rest) >>= next) = .ok condition) ↔
      ¬∃ day, dayOf value = .ok day ∧ (day.year, day.month, day.day) = (9999, 12, 31) := by
  obtain ⟨day, isDayOf⟩ := exists_dayOf ofType isDay
  have bounds : dayBounds (value :: rest) = day.next?.elim (.error .dateOutOfRange)
      fun behind => .ok (.timestamp (.startOf day), .timestamp (.startOf behind)) := by
    unfold dayBounds first
    dsimp only [bind, Except.bind]
    rw [isDayOf]
    dsimp only
    cases day.next? <;> rfl
  simp only [isDayOf, Except.ok.injEq, exists_eq_left', ← day.next?_eq_none_iff, bounds]
  cases day.next? with
  | none => simp
  | some behind =>
      obtain ⟨condition, made⟩ := succeeds (.startOf day) (.startOf behind)
      simp [made]

theorem exists_onDay_iff :
    (∃ condition, onDay column (value :: rest) = .ok condition) ↔
      ¬∃ day, dayOf value = .ok day ∧ (day.year, day.month, day.day) = (9999, 12, 31) := by
  apply exists_of_dayBounds_iff rest ofType isDay
  intro start stop
  obtain ⟨above, aboveMade⟩ := exists_compared_timestamp column .greaterOrEqual start
  obtain ⟨below, belowMade⟩ := exists_compared_timestamp column .less stop
  refine ⟨.all [above, below], ?_⟩
  dsimp only
  rw [aboveMade, belowMade]
  rfl

theorem exists_offDay_iff :
    (∃ condition, offDay column (value :: rest) = .ok condition) ↔
      ¬∃ day, dayOf value = .ok day ∧ (day.year, day.month, day.day) = (9999, 12, 31) := by
  apply exists_of_dayBounds_iff rest ofType isDay
  intro start stop
  obtain ⟨before, beforeMade⟩ := exists_compared_timestamp column .less start
  obtain ⟨behind, behindMade⟩ := exists_compared_timestamp column .greaterOrEqual stop
  refine ⟨.any [before, behind], ?_⟩
  dsimp only
  rw [beforeMade, behindMade]
  rfl

end Days

end Operator

namespace ResolvedConstraint

variable {dataType : DataType} {constraint : ResolvedConstraint}

theorem operandType_eq {operator : String}
    (notFlagged : Operators.flagged.contains operator = false) :
    operandType operator dataType = dataType := by
  unfold operandType
  rw [notFlagged, if_neg Bool.false_ne_true]

/-- A typed constraint can be put into a condition, unless it is inexpressible. -/
theorem Typed.exists_condition_iff (typed : constraint.Typed dataType) (column : Sql.Column) :
    (∃ condition, Operators.standard.condition constraint.operator column constraint.values =
      .ok condition) ↔ ¬constraint.Inexpressible dataType := by
  obtain ⟨name, values⟩ := constraint
  obtain ⟨registered, accepted, nonempty, ofType, arity⟩ := typed
  dsimp only at registered accepted nonempty ofType arity ⊢
  obtain ⟨value, rest, rfl⟩ := List.exists_cons_of_ne_nil nonempty
  have isValue (notFlagged : Operators.flagged.contains name = false) :
      value.isOfType dataType = true := by
    rw [← ofType value List.mem_cons_self, operandType_eq notFlagged]
  obtain ⟨operator, found⟩ := Option.isSome_iff_exists.1 registered
  unfold Operators.condition
  rw [found]
  dsimp only
  have entry := Dictionary.mem_of_get? found
  clear found registered
  simp only [Operators.standard, List.mem_cons, List.not_mem_nil, or_false, Prod.mk.injEq]
    at entry
  unfold Inexpressible
  rcases entry with ⟨rfl, rfl⟩ | ⟨rfl, rfl⟩ | ⟨rfl, rfl⟩ | ⟨rfl, rfl⟩ | ⟨rfl, rfl⟩ | ⟨rfl, rfl⟩ |
    ⟨rfl, rfl⟩ | ⟨rfl, rfl⟩ | ⟨rfl, rfl⟩ | ⟨rfl, rfl⟩ | ⟨rfl, rfl⟩ | ⟨rfl, rfl⟩ | ⟨rfl, rfl⟩ |
    ⟨rfl, rfl⟩ | ⟨rfl, rfl⟩ | ⟨rfl, rfl⟩ | ⟨rfl, rfl⟩ | ⟨rfl, rfl⟩ | ⟨rfl, rfl⟩ | ⟨rfl, rfl⟩
  -- Values are compared for equality and by order,
  iterate 6
    · rw [Operator.exists_comparing_iff rest column _ (isValue rfl)]
      simp [orderings, wholeDays, Sql.Comparison.isEquality]
  -- looked for among several values,
  · simp [orderings, wholeDays, Operator.among]
  · simp [orderings, wholeDays, Operator.notAmong]
  · obtain ⟨high, rfl⟩ := List.length_eq_one_iff.1 (Nat.succ.inj (arity 2 rfl))
    simp [orderings, wholeDays, Operator.between]
  -- matched with text,
  · simp [orderings, wholeDays, Operator.exists_like rest column (isValue rfl) accepted]
  · simp [orderings, wholeDays, Operator.exists_holding rest column (isValue rfl) accepted]
  · simp [orderings, wholeDays, Operator.exists_lacking rest column (isValue rfl) accepted]
  · simp [orderings, wholeDays, Operator.exists_holding rest column (isValue rfl) accepted]
  · simp [orderings, wholeDays, Operator.exists_holding rest column (isValue rfl) accepted]
  · exact iff_of_true ⟨_, rfl⟩ (by simp [orderings, wholeDays])
  -- asked whether they are there,
  · exact iff_of_true ⟨_, rfl⟩ (by simp [orderings, wholeDays])
  -- and compared with days.
  · rw [Operator.exists_onDay_iff rest column (isValue rfl) accepted]
    simp [orderings, wholeDays]
  · rw [Operator.exists_offDay_iff rest column (isValue rfl) accepted]
    simp [orderings, wholeDays]
  iterate 2
    · have noFlag : dataType ≠ .bool := by
        rintro rfl
        exact absurd accepted (by decide)
      rw [Operator.exists_comparing_iff rest column _ (isValue rfl)]
      simp [orderings, wholeDays, noFlag]

end ResolvedConstraint

namespace Filter

open ResolvedConstraint (operandType)

variable {querystring : Dictionary (List Value)} {target : ResolvedPath}

theorem isOfType_of_castOperand {leaf : LoadedAttribute} {operator : String} {raw typed : Value}
    (made : castOperand {} leaf operator raw = .ok typed) :
    typed.isOfType (operandType operator leaf.dataType) = true := by
  unfold castOperand at made
  unfold operandType
  split at made
  · rename_i isFlagged
    rw [if_pos isFlagged]
    exact Cast.isOfType_of_standard ((Casters.cast_standard_eq_ok _ _ _).1 made)
  · rename_i notFlagged
    rw [if_neg notFlagged]
    exact Cast.isOfType_of_standard ((Casters.castFor_standard_eq_ok _ _ _).1 made)

/-- A raw value stands for some values, which are of the right type. -/
theorem typed_of_resolveValue {operator : String} {raw : Value} {values : List Value}
    (made : resolveValue {} querystring target operator raw = .ok values) :
    values ≠ [] ∧
      ∀ value ∈ values, value.isOfType (operandType operator target.leaf.dataType) = true := by
  obtain ⟨_, standing, standingMade, castMade⟩ := resolveValue_eq_ok.1 made
  refine ⟨Success.ne_nil_of_mapM castMade (standIns_ne_nil standingMade), ?_⟩
  intro value isValue
  obtain ⟨given, _, valueMade⟩ := Success.exists_of_mem_mapM castMade isValue
  exact isOfType_of_castOperand (castStandIn_eq_ok.1 valueMade).2

theorem typed_of_resolveValues {operator : String} {constraint : Constraint}
    {values : List (List Value)}
    (made : (rawValues constraint).mapM (resolveValue {} querystring target operator) =
      .ok values) :
    values.flatten ≠ [] ∧ ∀ value ∈ values.flatten,
      value.isOfType (operandType operator target.leaf.dataType) = true := by
  have each : ∀ list ∈ values, list ≠ [] ∧ ∀ value ∈ list,
      value.isOfType (operandType operator target.leaf.dataType) = true := by
    intro list isList
    obtain ⟨raw, _, listMade⟩ := Success.exists_of_mem_mapM made isList
    exact typed_of_resolveValue listMade
  constructor
  · obtain ⟨first, rest, rfl⟩ :=
      List.exists_cons_of_ne_nil (Success.ne_nil_of_mapM made (rawValues_ne_nil constraint))
    have someFirst := (each first List.mem_cons_self).1
    rw [List.flatten_cons]
    exact fun nothing => someFirst (List.append_eq_nil_iff.1 nothing).1
  · intro value isValue
    obtain ⟨list, isList, inList⟩ := List.mem_flatten.1 isValue
    exact (each list isList).2 value inList

theorem typed_of_resolveConstraint {path : String} {constraint : Constraint}
    {resolved : ResolvedConstraint}
    (made : resolveConstraint {} querystring path target constraint = .ok resolved) :
    resolved.Typed target.leaf.dataType := by
  obtain ⟨known, accepted, ⟨values, valuesMade, flat⟩, arity⟩ := resolveConstraint_eq_ok.1 made
  obtain ⟨someValues, ofType⟩ := typed_of_resolveValues valuesMade
  rw [flat] at someValues ofType
  refine ⟨?_, accepted, someValues, ofType, arity⟩
  unfold Operators.canonical? at known
  dsimp only at known
  split at known
  · rename_i found
    rw [← Option.some.inj known]
    exact found
  · simp at known

end Filter

theorem ResolvedFilter.condition_singleton (operators : Operators) (target : ResolvedPath)
    (combination : Combination) (constraint : ResolvedConstraint) (column : Sql.Column) :
    condition operators ⟨target, combination, [constraint]⟩ column =
      operators.condition constraint.operator column constraint.values := by
  unfold condition
  rw [List.mapM_cons]
  cases operators.condition constraint.operator column constraint.values <;> rfl

def ResolvedFilter.Typed (filter : ResolvedFilter) : Prop :=
  ∀ constraint ∈ filter.constraints, constraint.Typed filter.target.leaf.dataType

/-- A typed filter makes a condition, unless one of its constraints is inexpressible. -/
theorem ResolvedFilter.Typed.exists_condition_iff {filter : ResolvedFilter} (typed : filter.Typed)
    (column : Sql.Column) :
    (∃ condition, filter.condition .standard column = .ok condition) ↔
      ∀ constraint ∈ filter.constraints,
        ¬constraint.Inexpressible filter.target.leaf.dataType := by
  constructor
  · rintro ⟨condition, made⟩ constraint isConstraint
    obtain ⟨conditions, conditionsMade, _⟩ := (Success.bind_eq_ok _ _ _).1 made
    rw [← (typed constraint isConstraint).exists_condition_iff column]
    exact Success.exists_of_ok_mapM conditionsMade isConstraint
  · intro expressible
    obtain ⟨conditions, conditionsMade⟩ := Success.exists_mapM fun constraint isConstraint =>
      ((typed constraint isConstraint).exists_condition_iff column).2
        (expressible constraint isConstraint)
    unfold ResolvedFilter.condition
    rw [conditionsMade]
    dsimp only [bind, Except.bind]
    split <;> exact ⟨_, rfl⟩

end SchemaQuery
