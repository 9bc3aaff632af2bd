import SchemaQuery.Proofs.RequestFaults

/-!
# References to the querystring

A raw value that refers to a key of the querystring stands for the values of that key.  It may as
well be replaced by them: filters are resolved to the same, or fail in the same way, whether the
references are left in place or the values are written there.  This is so as long as these values do
not look like references themselves, for a value of the querystring is taken as it is, and never as
a reference.  So nothing in a querystring can ask for a value of an access token.

The values of a querystring are texts, of which some may be missing.  What a filter is written with
is read as text, so that anything else would not stay what it is when it is written there.
-/

namespace SchemaQuery
namespace Filter

open Catalog (answer)

variable {registry : Registry} {querystring : Dictionary (List Value)} {target : ResolvedPath}
  {operator : String}

def isMarked (value : Value) : Bool :=
  (behindMark? tokenMark value.plain).isSome || (behindMark? querystringMark value.plain).isSome

def referred? (querystring : Dictionary (List Value)) (raw : Value) : Option (List Value) := do
  let key ← behindMark? querystringMark raw.plain
  let values ← querystring.get? key
  if values.isEmpty then none else some values

/-- The values to write in a filter in place of a raw value. -/
def inlined (querystring : Dictionary (List Value)) (raw : Value) : List Value :=
  (referred? querystring raw).getD [raw]

def inlineConstraint (querystring : Dictionary (List Value)) (constraint : Constraint) :
    Constraint :=
  { constraint with values := constraint.values.flatMap (inlined querystring) }

/-- The filter with the values of the querystring in place of references. -/
def inline (querystring : Dictionary (List Value)) (filter : Filter) : Filter :=
  { filter with constraints := filter.constraints.map (inlineConstraint querystring) }

/-- Whether a value is a text that is no reference, or missing. -/
def IsLiteral (value : Value) : Prop :=
  (value = .null ∨ ∃ content, value = .text content) ∧ isMarked value = false

/-- Whether a filter refers only to values that are no references themselves. -/
def RefersToLiterals (querystring : Dictionary (List Value)) (filter : Filter) : Prop :=
  ∀ constraint ∈ filter.constraints, ∀ raw ∈ constraint.values, ∀ values,
    referred? querystring raw = some values → ∀ value ∈ values, IsLiteral value

theorem isMarked_eq_false {value : Value} :
    isMarked value = false ↔ behindMark? tokenMark value.plain = none ∧
      behindMark? querystringMark value.plain = none := by
  simp [isMarked]

theorem toList_of_behindMark? {mark text rest : String}
    (marked : behindMark? mark text = some rest) : text.toList = mark.toList ++ rest.toList := by
  unfold behindMark? at marked
  split at marked
  · rename_i starts
    obtain ⟨behind, same⟩ := List.isPrefixOf_iff_prefix.1 starts
    rw [← Option.some.inj marked, ← same, ← String.length_toList, List.drop_left,
      String.toList_ofList]
  · simp at marked

/-- No text has both marks, which begin with different letters. -/
theorem behindMark?_token_of_querystring {text key : String}
    (refers : behindMark? querystringMark text = some key) : behindMark? tokenMark text = none := by
  rw [Option.eq_none_iff_forall_ne_some]
  intro rest reserved
  have same := (toList_of_behindMark? refers).symm.trans (toList_of_behindMark? reserved)
  exact absurd (List.head_eq_of_cons_eq same) (by decide)

theorem isBlankValue_of_isMarked {value : Value} (marked : isMarked value = true) :
    isBlankValue value = false := by
  have spelled : ∃ first rest, value.plain.toList = first :: rest ∧
      Text.isBlank first = false := by
    rcases Bool.or_eq_true_iff.1 marked with isToken | isReference
    · obtain ⟨rest, reserved⟩ := Option.isSome_iff_exists.1 isToken
      exact ⟨'t', _, toList_of_behindMark? reserved, by decide⟩
    · obtain ⟨rest, refers⟩ := Option.isSome_iff_exists.1 isReference
      exact ⟨'q', _, toList_of_behindMark? refers, by decide⟩
  obtain ⟨first, rest, spelled, notBlank⟩ := spelled
  have notNull : value.isNull = false := by
    cases value with
    | null => exact absurd marked (by decide)
    | _ => rfl
  unfold isBlankValue Text.isBlankText
  rw [notNull, spelled, List.all_cons, notBlank]
  rfl

theorem referred?_eq_some {raw : Value} {values : List Value} :
    referred? querystring raw = some values ↔
      ∃ key, behindMark? querystringMark raw.plain = some key ∧
        querystring.get? key = some values ∧ values ≠ [] := by
  unfold referred?
  simp only [Option.bind_eq_bind, Option.bind_eq_some_iff, Option.ite_none_left_eq_some,
    List.isEmpty_iff, Option.some.injEq]
  constructor
  · rintro ⟨key, marked, _, found, someValues, rfl⟩
    exact ⟨key, marked, found, someValues⟩
  · rintro ⟨key, marked, found, someValues⟩
    exact ⟨key, marked, values, found, someValues, rfl⟩

theorem standIns_of_referred {raw : Value} {values : List Value}
    (refers : referred? querystring raw = some values) : standIns querystring raw = .ok values := by
  obtain ⟨key, marked, found, someValues⟩ := referred?_eq_some.1 refers
  unfold standIns
  dsimp only
  rw [behindMark?_token_of_querystring marked, marked]
  dsimp only
  rw [found]
  cases values with
  | nil => exact absurd rfl someValues
  | cons value rest => rfl

theorem resolveValue_of_referred {raw : Value} {values : List Value}
    (refers : referred? querystring raw = some values) :
    resolveValue registry querystring target operator raw =
      values.mapM (castStandIn registry target operator) := by
  obtain ⟨key, marked, _, _⟩ := referred?_eq_some.1 refers
  have notBlank : isBlankValue raw = false :=
    isBlankValue_of_isMarked (by rw [isMarked, marked, Option.isSome_some, Bool.or_true])
  rw [resolveValue_eq, if_neg (Bool.eq_false_iff.1 notBlank), standIns_of_referred refers]
  rfl

theorem standIns_of_not_isMarked {content : String} (unmarked : isMarked (.text content) = false) :
    standIns querystring (.text content) = .ok [.text content] := by
  obtain ⟨noToken, noReference⟩ := isMarked_eq_false.1 unmarked
  unfold standIns
  dsimp only
  rw [noToken, noReference]
  rfl

theorem resolveValue_of_isLiteral {value : Value} (isLiteral : IsLiteral value) :
    resolveValue registry querystring target operator value =
      (castStandIn registry target operator value).map fun typed => [typed] := by
  obtain ⟨rfl | ⟨content, rfl⟩, unmarked⟩ := isLiteral
  · rfl
  · cases blank : isBlankValue (.text content) with
    | true =>
        unfold castStandIn
        rw [resolveValue_eq, if_pos blank, if_pos blank]
        rfl
    | false =>
        rw [resolveValue_eq, if_neg (Bool.eq_false_iff.1 blank), standIns_of_not_isMarked unmarked]
        change [Value.text content].mapM (castStandIn registry target operator) = _
        rw [List.mapM_cons]
        cases castStandIn registry target operator (.text content) <;> rfl

/-- What stands in place of a raw value is resolved to the same. -/
theorem resolveValue_inlined {raw : Value}
    (literals : ∀ values, referred? querystring raw = some values →
      ∀ value ∈ values, IsLiteral value) :
    ((inlined querystring raw).mapM
        (resolveValue registry querystring target operator)).map List.flatten =
      resolveValue registry querystring target operator raw := by
  unfold inlined
  cases refers : referred? querystring raw with
  | none =>
      rw [Option.getD_none, List.mapM_cons]
      cases resolveValue registry querystring target operator raw with
      | error failure => rfl
      | ok values =>
          change Except.ok [values].flatten = _
          rw [List.flatten_singleton]
  | some values =>
      rw [Option.getD_some, resolveValue_of_referred refers]
      apply Success.mapM_singletons
      intro value isValue
      exact resolveValue_of_isLiteral (literals values refers value isValue)

theorem inlined_ne_nil (querystring : Dictionary (List Value)) (raw : Value) :
    inlined querystring raw ≠ [] := by
  unfold inlined
  cases refers : referred? querystring raw with
  | none => exact List.cons_ne_nil _ _
  | some values =>
      obtain ⟨_, _, _, someValues⟩ := referred?_eq_some.1 refers
      exact someValues

/-- A constraint is without values just if it was before. -/
theorem rawValues_inlineConstraint (constraint : Constraint) :
    rawValues (inlineConstraint querystring constraint) =
      (rawValues constraint).flatMap (inlined querystring) := by
  obtain ⟨operator, _ | ⟨raw, rest⟩⟩ := constraint
  · rfl
  · obtain ⟨first, others, given⟩ := List.exists_cons_of_ne_nil (inlined_ne_nil querystring raw)
    unfold rawValues inlineConstraint
    dsimp only
    rw [List.flatMap_cons, given]
    change _ = (raw :: rest).flatMap (inlined querystring)
    rw [List.flatMap_cons, given]
    rfl

theorem resolveConstraint_inlineConstraint {path : String} {constraint : Constraint}
    (literals : ∀ raw ∈ constraint.values, ∀ values,
      referred? querystring raw = some values → ∀ value ∈ values, IsLiteral value) :
    resolveConstraint registry querystring path target (inlineConstraint querystring constraint) =
      resolveConstraint registry querystring path target constraint := by
  have each (operator : String) : ∀ raw ∈ rawValues constraint,
      ((inlined querystring raw).mapM
          (resolveValue registry querystring target operator)).map List.flatten =
        resolveValue registry querystring target operator raw := by
    intro raw isRaw
    apply resolveValue_inlined
    unfold rawValues at isRaw
    split at isRaw
    · rw [List.mem_singleton.1 isRaw]
      exact fun values refers => nomatch refers
    · exact literals raw isRaw
  have sameValues (operator : String) := Success.bind_eq_of_map_eq
    (Success.mapM_flatMap_eq (each operator)) (counted path operator)
  rw [← rawValues_inlineConstraint] at sameValues
  have sameOperator : (inlineConstraint querystring constraint).operator = constraint.operator :=
    rfl
  cases known : registry.operators.canonical? constraint.operator with
  | none => simp only [resolveConstraint, sameOperator, known]
  | some operator =>
      rw [resolveConstraint_of_canonical (sameOperator ▸ known),
        resolveConstraint_of_canonical known, sameValues operator]

theorem resolve_inline {filter : Filter} (literals : RefersToLiterals querystring filter)
    (entity : LoadedEntity) :
    (filter.inline querystring).resolve registry querystring entity =
      filter.resolve registry querystring entity := by
  have sameConstraints (target : ResolvedPath) :
      (filter.inline querystring).constraints.mapM
          (resolveConstraint registry querystring filter.path target) =
        filter.constraints.mapM (resolveConstraint registry querystring filter.path target) :=
    Success.mapM_map_eq fun constraint isConstraint =>
      resolveConstraint_inlineConstraint (literals constraint isConstraint)
  have sameEmpty : (filter.inline querystring).constraints.isEmpty = filter.constraints.isEmpty :=
    List.isEmpty_map
  have samePath : (filter.inline querystring).path = filter.path := rfl
  have sameCombination : (filter.inline querystring).combination = filter.combination := rfl
  simp only [resolve, samePath, sameCombination, sameEmpty, sameConstraints]

/-- Filters are resolved alike, or fail alike, with the values of the querystring in place of
references, unless these look like references. -/
theorem references_resolve_as_inlined (registry : Registry)
    (querystring : Dictionary (List Value)) (entity : LoadedEntity) (filters : List Filter) :
    ((∀ filter ∈ filters, filter.RefersToLiterals querystring) →
      resolveAll registry querystring entity (filters.map (inline querystring)) =
        resolveAll registry querystring entity filters) ∧
    (∀ (target : ResolvedPath) (operator : String) (raw : Value) (values : List Value),
      referred? querystring raw = some values →
        resolveValue registry querystring target operator raw =
            values.mapM (castStandIn registry target operator) ∧
          (∀ value ∈ values, isMarked value = true →
            castStandIn registry target operator value =
              (castOperand registry target.leaf operator value).mapError .refused) ∧
          ¬Faulted (resolveValue registry querystring target operator raw)) ∧
    ∀ catalog, Faulted (answer (resolveAll registry querystring entity filters) catalog) →
      ∃ filter ∈ filters, ¬filter.LacksTokens := by
  refine ⟨fun literals => ?_, fun target operator raw values refers => ⟨?_, ?_, ?_⟩, ?_⟩
  · exact Success.mapM_map_eq fun filter isFilter =>
      resolve_inline (literals filter isFilter) entity
  · exact resolveValue_of_referred refers
  · exact fun value _ marked => castStandIn_of_notBlank (isBlankValue_of_isMarked marked)
  · obtain ⟨_, marked, _, _⟩ := referred?_eq_some.1 refers
    exact not_faulted_resolveValue (behindMark?_token_of_querystring marked)
  · intro catalog faulted
    by_contra noTokens
    push Not at noTokens
    exact not_faulted_resolveAll noTokens entity catalog faulted

open QueryService (switch switches switchFilter)

/-- The switches whose number lies in a range, and is one or at an end of it. -/
def inRange : Filter where
  path := "id"
  constraints :=
    [⟨"between", [.text "querystring.range"]⟩, ⟨"in", [.text "1", .text "querystring.range"]⟩]

/-- A querystring with a range, and with texts that look like references. -/
def ranged : Dictionary (List Value) :=
  [("range", [.text "3", .text "5"]),
    ("reserved", [.text "token.id", .text "querystring.range"])]

theorem inRange_resolves_as_inlined :
    (inRange.inline ranged).constraints =
      [⟨"between", [.text "3", .text "5"]⟩, ⟨"in", [.text "1", .text "3", .text "5"]⟩] ∧
    (resolveAll {} ranged switch.load [inRange.inline ranged] =
      resolveAll {} ranged switch.load [inRange]) ∧
    (∃ resolved, answer (resolveAll {} ranged switch.load [inRange]) switches = .ok resolved ∧
      resolved.flatMap (·.constraints) =
        [⟨"between", [.int 3, .int 5]⟩, ⟨"in", [.int 1, .int 3, .int 5]⟩]) ∧
    resolveValue {} ranged (switchFilter "id" .string ⟨"", []⟩).target "in"
        (.text "querystring.reserved") =
      .ok [.text "token.id", .text "querystring.range"] ∧
    ∃ filter ∈ [inRange, { path := "id", constraints := [⟨"eq", [.text "token.id"]⟩] }],
      ¬filter.LacksTokens := by
  obtain ⟨alike, _, _⟩ := references_resolve_as_inlined {} ranged switch.load [inRange]
  obtain ⟨_, literally, _⟩ := references_resolve_as_inlined {} ranged switch.load []
  obtain ⟨_, _, asFilter⟩ := references_resolve_as_inlined {} ranged switch.load
    [inRange, { path := "id", constraints := [⟨"eq", [.text "token.id"]⟩] }]
  refine ⟨rfl, alike ?_, ⟨_, rfl, rfl⟩, ?_, asFilter switches ⟨_, rfl⟩⟩
  · rw [List.forall_mem_singleton]
    intro constraint isConstraint raw isRaw values refers value isValue
    have asked : raw = .text "querystring.range" ∨ raw = .text "1" := by
      revert raw constraint
      simp [inRange]
    rcases asked with rfl | rfl
    · obtain rfl : [.text "3", .text "5"] = values := Option.some.inj refers
      rcases List.mem_pair.1 isValue with rfl | rfl
      · exact ⟨Or.inr ⟨_, rfl⟩, by decide⟩
      · exact ⟨Or.inr ⟨_, rfl⟩, by decide⟩
    · exact nomatch refers
  · exact (literally _ _ _ _ rfl).1.trans rfl

end Filter
end SchemaQuery
