import SchemaQuery.Proofs.RequestFaults

/-!
# What filters are resolved to

Filters are resolved one by one, each to what it is resolved to alone.  A filter that has been
resolved still combines its constraints as it was asked to, and has one for each that was asked:
under the registered name of the operator, on values that have been cast from what the raw values
stand for, and that are of the type which the operator takes.  Where resolving fails, it fails as it
does for the first filter that fails alone.
-/

namespace SchemaQuery

open Catalog (Consults answer)

/-- Whether a constraint is resolved as asked for: to its registered operator, and to typed values,
each cast from one that its raw values stand for. -/
structure ResolvedConstraint.Answers (querystring : Dictionary (List Value))
    (leaf : LoadedAttribute) (asked : Constraint) (resolved : ResolvedConstraint) : Prop where
  canonical : Operators.standard.canonical? asked.operator = some resolved.operator
  typed : resolved.Typed leaf.dataType
  cast : ∃ standing,
    List.Forall₂ (fun raw values => Filter.standIns querystring raw = .ok values)
      (Filter.rawValues asked) standing ∧
    List.Forall₂ (fun value typed =>
        Filter.castOperand {} leaf resolved.operator value = .ok typed)
      standing.flatten resolved.values

/-- Whether a filter is resolved as asked for: to the attribute at its path, with its combination
and constraints. -/
structure ResolvedFilter.Answers (catalog : Catalog) (entity : LoadedEntity)
    (querystring : Dictionary (List Value)) (asked : Filter) (resolved : ResolvedFilter) :
    Prop where
  combination : resolved.combination.name = asked.combination
  target : answer (Catalog.resolvePath entity asked.path) catalog = .ok resolved.target
  nonempty : resolved.constraints ≠ []
  constraints : List.Forall₂ (ResolvedConstraint.Answers querystring resolved.target.leaf)
    asked.constraints resolved.constraints

theorem Combination.name_of_ofName? {name : String} {combination : Combination}
    (known : ofName? name = some combination) : combination.name = name := by
  unfold ofName? at known
  split at known
  · rename_i isAll
    rw [← Option.some.inj known, isAll]
    rfl
  · split at known
    · rename_i isAny
      rw [← Option.some.inj known, isAny]
      rfl
    · simp at known

namespace Filter

variable {querystring : Dictionary (List Value)} {entity : LoadedEntity} {catalog : Catalog}

/-- The typed values of a constraint are cast from what its raw values stand for. -/
theorem cast_of_resolveValues {target : ResolvedPath} {operator : String} {raws : List Value}
    {values : List (List Value)}
    (made : raws.mapM (resolveValue {} querystring target operator) = .ok values) :
    ∃ standing, List.Forall₂ (fun raw given => standIns querystring raw = .ok given) raws standing ∧
      List.Forall₂ (fun value typed => castOperand {} target.leaf operator value = .ok typed)
        standing.flatten values.flatten := by
  have each := Success.forall₂_of_mapM made
  clear made
  induction each with
  | nil => exact ⟨[], .nil, .nil⟩
  | cons headMade _ hypothesis =>
      obtain ⟨_, given, givenMade, castMade⟩ := resolveValue_eq_ok.1 headMade
      obtain ⟨standing, standingMade, restCast⟩ := hypothesis
      have headCast := (Success.forall₂_of_mapM castMade).imp fun _ _ valueMade =>
        (castStandIn_eq_ok.1 valueMade).2
      refine ⟨given :: standing, .cons givenMade standingMade, ?_⟩
      rw [List.flatten_cons, List.flatten_cons]
      exact List.rel_append headCast restCast

theorem answers_of_resolveConstraint {path : String} {target : ResolvedPath}
    {constraint : Constraint} {resolved : ResolvedConstraint}
    (made : resolveConstraint {} querystring path target constraint = .ok resolved) :
    resolved.Answers querystring target.leaf constraint := by
  obtain ⟨known, _, ⟨values, valuesMade, flat⟩, _⟩ := resolveConstraint_eq_ok.1 made
  refine ⟨known, typed_of_resolveConstraint made, ?_⟩
  rw [← flat]
  exact cast_of_resolveValues valuesMade

theorem constraints_ne_nil_of_resolve {registry : Registry} {filter : Filter}
    {resolved : ResolvedFilter}
    (made : answer (filter.resolve registry querystring entity) catalog = .ok resolved) :
    filter.constraints ≠ [] := by
  unfold resolve at made
  split at made
  · simp at made
  · obtain ⟨_, _, made⟩ := (Catalog.answer_bind_eq_ok _ _ _ _).1 made
    split at made
    · simp at made
    · rename_i someConstraints
      simpa using someConstraints

theorem answers_of_resolve {filter : Filter} {resolved : ResolvedFilter}
    (made : answer (filter.resolve {} querystring entity) catalog = .ok resolved) :
    resolved.Answers catalog entity querystring filter := by
  obtain ⟨known, found, constraintsMade⟩ := resolve_parts made
  refine ⟨Combination.name_of_ofName? known, found, ?_, ?_⟩
  · exact Success.ne_nil_of_mapM constraintsMade (constraints_ne_nil_of_resolve made)
  · exact (Success.forall₂_of_mapM constraintsMade).imp fun _ _ => answers_of_resolveConstraint

theorem answer_resolveAll (registry : Registry) (filters : List Filter) :
    answer (resolveAll registry querystring entity filters) catalog =
      filters.mapM fun filter => answer (filter.resolve registry querystring entity) catalog :=
  Consults.answer_mapM (consults_resolve registry querystring entity) filters catalog

theorem answer_resolveAll_singleton_eq_ok {registry : Registry} {filter : Filter}
    {resolved : ResolvedFilter} :
    answer (resolveAll registry querystring entity [filter]) catalog = .ok [resolved] ↔
      answer (filter.resolve registry querystring entity) catalog = .ok resolved := by
  rw [answer_resolveAll, Success.mapM_eq_ok_iff, List.forall₂_cons]
  exact and_iff_left .nil

theorem answer_resolveAll_singleton_eq_error {registry : Registry} {filter : Filter}
    {failure : Failure} :
    answer (resolveAll registry querystring entity [filter]) catalog = .error failure ↔
      answer (filter.resolve registry querystring entity) catalog = .error failure := by
  rw [answer_resolveAll, Success.mapM_cons_eq_error]
  exact or_iff_left fun failed => absurd failed.2 nofun

/-- Filters are resolved if each of them is resolved alone, and then to the same, which is what was
asked for. They fail as the first that does. -/
theorem resolves_as_asked_or_fails_as_first (querystring : Dictionary (List Value))
    (entity : LoadedEntity) (filters : List Filter) (catalog : Catalog) :
    (∀ resolved, answer (resolveAll {} querystring entity filters) catalog = .ok resolved ↔
      List.Forall₂ (fun filter alone =>
          answer (resolveAll {} querystring entity [filter]) catalog = .ok [alone])
        filters resolved) ∧
    (∀ resolved, answer (resolveAll {} querystring entity filters) catalog = .ok resolved →
      List.Forall₂ (fun filter good => good.Answers catalog entity querystring filter)
        filters resolved) ∧
    ∀ failure, answer (resolveAll {} querystring entity filters) catalog = .error failure ↔
      ∃ before filter behind, filters = before ++ filter :: behind ∧
        (∀ earlier ∈ before, ∃ alone,
          answer (resolveAll {} querystring entity [earlier]) catalog = .ok [alone]) ∧
        answer (resolveAll {} querystring entity [filter]) catalog = .error failure := by
  simp only [answer_resolveAll_singleton_eq_ok, answer_resolveAll_singleton_eq_error]
  rw [answer_resolveAll]
  refine ⟨fun resolved => Success.mapM_eq_ok_iff, fun resolved made => ?_,
    fun failure => Success.mapM_eq_error_iff⟩
  exact (Success.forall₂_of_mapM made).imp fun _ _ => answers_of_resolve

open QueryService (switch switches switchFilter)

def numbered : Filter where
  path := "id"
  combination := "or"
  constraints :=
    [⟨"between", [.text "querystring.range"]⟩, ⟨"nin", [.text "1", .text " 2"]⟩]

def undecided : Filter where
  path := "active"
  constraints := [⟨"isNull", [.text "Yes"]⟩]

def unfit : Filter where
  path := "changed"
  constraints := [⟨"contains", [.text "2024"]⟩]

def bounds : Dictionary (List Value) :=
  [("range", [.text "3", .text "5"])]

/-- Both are resolved as asked for. With one between them that can not be resolved, all
fail as it does. -/
theorem numbered_and_undecided_resolved :
    (∃ both, answer (resolveAll {} bounds switch.load [numbered, undecided]) switches = .ok both ∧
      both.flatMap (·.constraints) =
        [⟨"between", [.int 3, .int 5]⟩, ⟨"notIn", [.int 1, .int 2]⟩,
          ⟨"isNull", [.bool true]⟩] ∧
      List.Forall₂ (fun filter good => good.Answers switches switch.load bounds filter)
        [numbered, undecided] both) ∧
    answer (resolveAll {} bounds switch.load [numbered, unfit, undecided, { path := "" }])
        switches =
      .error (.refused (.matchUnfit "contains" "changed" .date)) := by
  have made : answer (resolveAll {} bounds switch.load [numbered, undecided]) switches =
      .ok [{ switchFilter "id" .int ⟨"", []⟩ with
              combination := .any
              constraints :=
                [⟨"between", [.int 3, .int 5]⟩, ⟨"notIn", [.int 1, .int 2]⟩] },
            switchFilter "active" .bool ⟨"isNull", [.bool true]⟩] := rfl
  obtain ⟨_, answers, _⟩ :=
    resolves_as_asked_or_fails_as_first bounds switch.load [numbered, undecided] switches
  obtain ⟨_, _, fails⟩ := resolves_as_asked_or_fails_as_first bounds switch.load
    [numbered, unfit, undecided, { path := "" }] switches
  refine ⟨⟨_, made, rfl, answers _ made⟩, (fails _).2 ⟨[numbered], unfit, _, rfl, ?_, rfl⟩⟩
  exact List.forall_mem_singleton.2 ⟨_, rfl⟩

end Filter
end SchemaQuery
