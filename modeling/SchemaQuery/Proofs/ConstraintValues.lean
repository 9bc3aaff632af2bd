import SchemaQuery.Filter
import SchemaQuery.Proofs.Success

/-!
# The values of constraints

A raw value of a constraint stands for itself or for the values of a key of the querystring.  What
it stands for is cast value by value, and a value of the querystring is cast as it stands there.
This file takes the resolving of a constraint apart into these steps.
-/

namespace SchemaQuery
namespace Filter

open Success

variable {registry : Registry} {querystring : Dictionary (List Value)} {target : ResolvedPath}
  {operator : String}

/-- The typed value for one of the values that a raw value stands for. -/
def castStandIn (registry : Registry) (target : ResolvedPath) (operator : String)
    (value : Value) : Except Failure Value := do
  if isBlankValue value then throw (.refused (.valueMissing target.path))
  match castOperand registry target.leaf operator value with
  | .ok typed => return typed
  | .error refusal => throw (.refused refusal)

theorem castStandIn_of_notBlank {value : Value} (notBlank : isBlankValue value = false) :
    castStandIn registry target operator value =
      (castOperand registry target.leaf operator value).mapError .refused := by
  unfold castStandIn
  rw [if_neg (Bool.eq_false_iff.1 notBlank)]
  cases castOperand registry target.leaf operator value <;> rfl

theorem castStandIn_eq_ok {value typed : Value} :
    castStandIn registry target operator value = .ok typed ↔
      isBlankValue value = false ∧ castOperand registry target.leaf operator value = .ok typed := by
  cases blank : isBlankValue value with
  | true =>
      unfold castStandIn
      rw [guarded_eq_ok]
      simp [blank]
  | false => rw [castStandIn_of_notBlank blank, mapError_eq_ok, eq_self, true_and]

theorem resolveValue_eq (raw : Value) :
    resolveValue registry querystring target operator raw = (do
      if isBlankValue raw then throw (.refused (.valueMissing target.path))
      (← standIns querystring raw).mapM (castStandIn registry target operator)) :=
  rfl

theorem resolveValue_eq_ok {raw : Value} {values : List Value} :
    resolveValue registry querystring target operator raw = .ok values ↔
      isBlankValue raw = false ∧ ∃ standing, standIns querystring raw = .ok standing ∧
        standing.mapM (castStandIn registry target operator) = .ok values := by
  rw [resolveValue_eq, guarded_eq_ok, bind_eq_ok, Bool.not_eq_true]

theorem standIns_ne_nil {raw : Value} {values : List Value}
    (made : standIns querystring raw = .ok values) : values ≠ [] := by
  unfold standIns at made
  dsimp only at made
  split at made
  · simp at made
  · split at made
    · simp at made
    · simp at made
    · rename_i found
      obtain rfl := Except.ok.inj made
      rintro rfl
      simp_all
  · rw [← Except.ok.inj made]
    exact List.cons_ne_nil _ _

theorem rawValues_ne_nil (constraint : Constraint) : rawValues constraint ≠ [] := by
  unfold rawValues
  split
  · exact List.cons_ne_nil _ _
  · rename_i someValues
    simpa using someValues

/-- The constraint on values, if they are as many as its operator takes. -/
def counted (path operator : String) (values : List Value) : Except Failure ResolvedConstraint :=
  match Operators.arity?.get? operator with
  | some expected =>
      if values.length = expected then return { operator, values }
      else throw (.refused (.valueCount operator path expected values.length))
  | none => return { operator, values }

theorem counted_eq_ok {path : String} {values : List Value} {resolved : ResolvedConstraint} :
    counted path operator values = .ok resolved ↔
      (∀ count, Operators.arity?.get? operator = some count → values.length = count) ∧
        ⟨operator, values⟩ = resolved := by
  unfold counted
  cases Operators.arity?.get? operator with
  | none => simp
  | some expected =>
      by_cases fits : values.length = expected
      · simp [fits]
      · simp [fits]

theorem resolveConstraint_of_canonical {path : String} {constraint : Constraint}
    (known : registry.operators.canonical? constraint.operator = some operator) :
    resolveConstraint registry querystring path target constraint = (do
      if !registry.operators.accepts operator target.leaf.dataType then
        throw (.refused (.matchUnfit operator path target.leaf.dataType))
      let values ←
        (rawValues constraint).mapM (resolveValue registry querystring target operator)
      counted path operator values.flatten) := by
  unfold resolveConstraint
  rw [known]
  rfl

/-- A constraint is resolved if its operator may be used with the attribute, and its values can be
cast and are as many as it takes. -/
theorem resolveConstraint_eq_ok {path : String} {constraint : Constraint}
    {resolved : ResolvedConstraint} :
    resolveConstraint registry querystring path target constraint = .ok resolved ↔
      registry.operators.canonical? constraint.operator = some resolved.operator ∧
        registry.operators.accepts resolved.operator target.leaf.dataType = true ∧
        (∃ values, (rawValues constraint).mapM
            (resolveValue registry querystring target resolved.operator) = .ok values ∧
          values.flatten = resolved.values) ∧
        ∀ count, Operators.arity?.get? resolved.operator = some count →
          resolved.values.length = count := by
  cases known : registry.operators.canonical? constraint.operator with
  | none => simp [resolveConstraint, known]
  | some operator =>
      rw [resolveConstraint_of_canonical known, guarded_eq_ok, bind_eq_ok, Bool.not_eq_true',
        Bool.not_eq_false]
      constructor
      · rintro ⟨accepted, values, made, counts⟩
        obtain ⟨fits, rfl⟩ := counted_eq_ok.1 counts
        exact ⟨rfl, accepted, ⟨values, made, rfl⟩, fits⟩
      · rintro ⟨same, accepted, ⟨values, made, flat⟩, fits⟩
        obtain rfl := Option.some.inj same
        refine ⟨accepted, values, made, counted_eq_ok.2 ?_⟩
        rw [flat]
        exact ⟨fits, rfl⟩

end Filter
end SchemaQuery
