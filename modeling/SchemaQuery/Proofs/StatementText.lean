import SchemaQuery.Proofs.BoundValues
import SchemaQuery.Proofs.ResolvedFilters
import SchemaQuery.Proofs.TokenReading
import SchemaQuery.Proofs.WrittenText

/-!
# The text of statements

Two requests for the same list may filter it by other values, show other pages of it, or start from
other edges.  This file proves that their statements have the same text all the same, select columns
under the same names and take as many parameters.  So the values of a request are never part of the
text.  What is written there are words and names that definitions give.  The values are parameters,
as far as operators read them, except for a list on a column whose name holds blank space and when
no row can lie beyond the edge.
-/

namespace SchemaQuery

open Catalog (answer)

namespace Sql.Select

/-- The statement with the operands of its conditions blanked out, and without its window. -/
def outline (statement : Select) : Select :=
  { statement with
    conditions := statement.conditions.map Condition.outline
    limit := 0
    offset := 0 }

theorem condition_outline (statement : Select) :
    statement.outline.condition = statement.condition.outline := by
  unfold condition
  rw [← Condition.simplify_outline, Condition.outline_all]
  rfl

theorem text_outline (statement : Select) : statement.outline.text = statement.text := by
  have sameCondition : (if statement.outline.conditions.isEmpty then []
      else [statement.outline.condition.text []]) =
      if statement.conditions.isEmpty then [] else [statement.condition.text []] := by
    rw [condition_outline, Condition.text_outline]
    unfold outline
    rw [List.isEmpty_map]
  unfold text
  rw [sameCondition]
  rfl

theorem columnNames_outline (statement : Select) :
    statement.outline.columnNames = statement.columnNames := rfl

theorem length_parameters_outline (statement : Select) :
    statement.outline.parameters.length = statement.parameters.length := by
  unfold parameters
  rw [condition_outline, List.length_append, List.length_append,
    Condition.length_parameters_outline]
  rfl

end Sql.Select

/-- Whether two constraints compare with as many values by the same operator. -/
structure ResolvedConstraint.Alike (first second : ResolvedConstraint) : Prop where
  operator : first.operator = second.operator
  noFlag : Operators.flagged.contains first.operator = false
  count : first.values.length = second.values.length
  bound : ∀ value ∈ first.values, value.isBound = true
  otherBound : ∀ value ∈ second.values, value.isBound = true

/-- Whether two filters on a column differ in nothing but values. -/
structure ResolvedFilter.Alike (first second : ResolvedFilter) : Prop where
  target : first.target = second.target
  combination : first.combination = second.combination
  constraints : List.Forall₂ ResolvedConstraint.Alike first.constraints second.constraints

section Conditions

open Sql Success

variable {registry : Registry} (binds : registry.BindsOperands)

include binds

theorem ResolvedConstraint.Alike.outline_condition {first second : ResolvedConstraint}
    (alike : first.Alike second) {column : Column} {condition other : Condition}
    (made : registry.operators.condition first.operator column first.values = .ok condition)
    (otherMade : registry.operators.condition second.operator column second.values = .ok other) :
    condition.outline = other.outline := by
  unfold Operators.condition at made otherMade
  rw [← alike.operator] at otherMade
  split at made
  · rename_i operator found
    rw [found] at otherMade
    exact binds.operators _ (Dictionary.mem_of_get? found) alike.noFlag alike.count alike.bound
      alike.otherBound made otherMade
  · simp at made

/-- Filters that differ in nothing but values make conditions with the same outline. -/
theorem ResolvedFilter.Alike.outline_condition {first second : ResolvedFilter}
    (alike : first.Alike second) {column : Column} {condition other : Condition}
    (made : first.condition registry.operators column = .ok condition)
    (otherMade : second.condition registry.operators column = .ok other) :
    condition.outline = other.outline := by
  obtain ⟨conditions, conditionsMade, made⟩ := (bind_eq_ok _ _ _).1 made
  obtain ⟨conditionsOther, conditionsOtherMade, otherMade⟩ := (bind_eq_ok _ _ _).1 otherMade
  have each : List.Forall₂ (fun condition other => condition.outline = other.outline)
      conditions conditionsOther :=
    forall₂_mapM_of_alike alike.constraints
      (fun _ _ _ _ _ constraintAlike => constraintAlike.outline_condition binds)
      conditionsMade conditionsOtherMade
  have same : conditions.map Condition.outline = conditionsOther.map Condition.outline := by
    rwa [← List.forall₂_eq_eq_eq, List.forall₂_map_left_iff, List.forall₂_map_right_iff]
  rw [← alike.combination] at otherMade
  rcases each with _ | ⟨sameHead, _ | _⟩ <;> cases combined : first.combination <;>
    rw [combined] at made otherMade <;>
    rw [← (pure_eq_ok _ _).1 made, ← (pure_eq_ok _ _).1 otherMade]
  case cons.nil.all => exact sameHead
  case cons.nil.any => exact sameHead
  all_goals simp only [Condition.outline_all, Condition.outline_any, same]

end Conditions

namespace Listing

open Sql Success

section Alike

variable {registry : Registry} (binds : registry.BindsOperands) {entity : LoadedEntity}
  {filters others : List ResolvedFilter} (alike : List.Forall₂ ResolvedFilter.Alike filters others)
  {sorts : List ResolvedSort} {plan later last : JoinPlan}

include binds alike

/-- Filters that differ in nothing but values lead to the same plan. -/
theorem outline_filterConditions {filtering filteringOther : List Condition}
    (made : (filterConditions registry.operators filters).run plan = .ok (filtering, later))
    (otherMade : (filterConditions registry.operators others).run plan =
      .ok (filteringOther, last)) :
    later = last ∧
      filtering.map Condition.outline = filteringOther.map Condition.outline := by
  induction alike generalizing plan filtering filteringOther with
  | nil =>
      simp only [filterConditions, List.mapM_nil, StateT.run_pure, pure_eq_ok, Prod.mk.injEq]
        at made otherMade
      obtain ⟨rfl, rfl⟩ := made
      obtain ⟨rfl, rfl⟩ := otherMade
      exact ⟨rfl, rfl⟩
  | cons headAlike _ hypothesis =>
      simp only [filterConditions, List.mapM_cons, run_bind_eq_ok, StateT.run_pure, pure_eq_ok,
        Prod.mk.injEq, run_lift_eq_ok] at made otherMade
      obtain ⟨condition, _, ⟨column, between, found, _, headMade, rfl, rfl⟩, rest, _, restMade,
        rfl, rfl⟩ := made
      obtain ⟨other, _, ⟨columnOther, betweenOther, foundOther, _, headOtherMade, rfl, rfl⟩,
        restOther, _, restOtherMade, rfl, rfl⟩ := otherMade
      rw [← headAlike.target, found] at foundOther
      obtain ⟨rfl, rfl⟩ := Prod.mk.inj (Except.ok.inj foundOther)
      obtain ⟨same, restAlike⟩ := hypothesis restMade restOtherMade
      refine ⟨same, ?_⟩
      rw [List.map_cons, List.map_cons, restAlike,
        headAlike.outline_condition binds headMade headOtherMade]

theorem outline_planned {filtering filteringOther : List Condition}
    {sorted sortedOther : List SortColumn}
    (made : (planned registry.operators filters sorts).run plan = .ok ((filtering, sorted), later))
    (otherMade : (planned registry.operators others sorts).run plan =
      .ok ((filteringOther, sortedOther), last)) :
    later = last ∧ sorted = sortedOther ∧
      filtering.map Condition.outline = filteringOther.map Condition.outline := by
  simp only [planned, run_bind_eq_ok, StateT.run_pure, pure_eq_ok, Prod.mk.injEq]
    at made otherMade
  obtain ⟨_, between, filteringMade, _, _, sortedMade, ⟨rfl, rfl⟩, rfl⟩ := made
  obtain ⟨_, betweenOther, filteringOtherMade, _, _, sortedOtherMade, ⟨rfl, rfl⟩, rfl⟩ := otherMade
  obtain ⟨rfl, sameOutlines⟩ :=
    outline_filterConditions binds alike filteringMade filteringOtherMade
  obtain ⟨rfl, rfl⟩ := Prod.mk.inj (Except.ok.inj (sortedMade.symm.trans sortedOtherMade))
  exact ⟨rfl, rfl, sameOutlines⟩

/-- Resolved parts that differ in nothing but values are put into statements
with the same outline. -/
theorem outline_statement {cursor other : ResolvedCursor} (cursorAlike : cursor.Alike sorts other)
    {pagination paginationOther : Pagination} {size sizeOther : Int}
    {listing listingOther : Listing}
    (built : Listing.build registry.operators entity filters sorts cursor pagination size =
      .ok listing)
    (otherBuilt : Listing.build registry.operators entity others sorts other paginationOther
      sizeOther = .ok listingOther) :
    listing.statement.outline = listingOther.statement.outline := by
  obtain ⟨filtering, sorted, plan, planned⟩ := exists_planned built
  obtain ⟨filteringOther, sortedOther, planOther, plannedOther⟩ := exists_planned otherBuilt
  obtain ⟨rfl, rfl, sameOutlines⟩ := outline_planned binds alike planned plannedOther
  obtain ⟨sameSorts, _⟩ := planned_eq_ok planned
  obtain ⟨conditions, passed, conditionsMade, _, rfl⟩ := build_eq_ok planned built
  obtain ⟨conditionsOther, passedOther, conditionsOtherMade, _, rfl⟩ :=
    build_eq_ok plannedOther otherBuilt
  have sameConditions :
      conditions.map Condition.outline = conditionsOther.map Condition.outline := by
    unfold Listing.conditions at conditionsMade conditionsOtherMade
    rw [← cursorAlike.isEmpty] at conditionsOtherMade
    split at conditionsMade
    · rename_i isEmpty
      rw [if_pos isEmpty] at conditionsOtherMade
      obtain rfl := Except.ok.inj conditionsMade
      obtain rfl := Except.ok.inj conditionsOtherMade
      exact sameOutlines
    · rename_i notEmpty
      rw [if_neg notEmpty] at conditionsOtherMade
      obtain ⟨beyond, beyondMade, gathered⟩ := (bind_eq_ok _ _ _).1 conditionsMade
      obtain ⟨beyondOther, beyondOtherMade, gatheredOther⟩ :=
        (bind_eq_ok _ _ _).1 conditionsOtherMade
      obtain rfl := (pure_eq_ok _ _).1 gathered
      obtain rfl := (pure_eq_ok _ _).1 gatheredOther
      rw [← sameSorts] at cursorAlike
      rw [List.map_append, List.map_append, sameOutlines, List.map_singleton, List.map_singleton,
        Keyset.outline_condition cursorAlike beyondMade beyondOtherMade]
  have sameOrder : orderTerms cursor.cursor entity.primaryKey sorted =
      orderTerms other.cursor entity.primaryKey sorted := by
    unfold orderTerms
    rw [cursorAlike.isForward]
  unfold Select.outline
  dsimp only
  rw [sameConditions, sameOrder]

end Alike

theorem parts_of_build {operators : Operators} {entity : LoadedEntity}
    {filters : List ResolvedFilter} {sorts : List ResolvedSort} {cursor : ResolvedCursor}
    {pagination : Pagination} {size : Int} {listing : Listing}
    (built : Listing.build operators entity filters sorts cursor pagination size = .ok listing) :
    listing.entity = entity ∧ listing.sorts = sorts ∧ listing.cursor = cursor := by
  obtain ⟨filtering, sorted, plan, planned⟩ := exists_planned built
  obtain ⟨conditions, passed, _, _, rfl⟩ := build_eq_ok planned built
  exact ⟨rfl, rfl, rfl⟩

end Listing

/-- How many values a constraint has once the querystring's have been put in. -/
def Constraint.valueCount (querystring : Dictionary (List Value)) (constraint : Constraint) :
    Nat :=
  ((Filter.rawValues constraint).flatMap fun raw =>
    (Filter.standIns querystring raw).toOption.getD []).length

structure Constraint.Alike (operators : Operators) (querystring other : Dictionary (List Value))
    (first second : Constraint) : Prop where
  operator : operators.canonical? first.operator = operators.canonical? second.operator
  count : first.valueCount querystring = second.valueCount other

/-- Whether two filters differ in nothing but their values. -/
structure Filter.Alike (operators : Operators) (querystring other : Dictionary (List Value))
    (first second : Filter) : Prop where
  path : first.path = second.path
  combination : first.combination = second.combination
  constraints : List.Forall₂ (Constraint.Alike operators querystring other) first.constraints
    second.constraints

namespace Filter

open Success

variable {registry : Registry} {querystring other : Dictionary (List Value)}

theorem cast_of_castFor {casters : Casters} {declared : Attribute} {raw value : Value}
    (made : casters.castFor declared raw = .ok value) :
    casters.cast declared.dataType raw = .ok value := by
  unfold Casters.castFor at made
  split at made
  · rename_i cast
    rw [cast, Except.ok.inj made]
  · simp at made

section Bound

variable (binds : registry.BindsOperands) {target : ResolvedPath}
  (noTruth : target.leaf.dataType ≠ .bool) {operator : String}
  (noFlag : Operators.flagged.contains operator = false)

include binds noTruth noFlag

theorem bound_of_resolveValue {raw : Value} {values : List Value}
    (made : resolveValue registry querystring target operator raw = .ok values) :
    (∃ standing, standIns querystring raw = .ok standing ∧ standing.length = values.length) ∧
      ∀ value ∈ values, value.isBound = true := by
  obtain ⟨_, standing, standingMade, castMade⟩ := resolveValue_eq_ok.1 made
  refine ⟨⟨standing, standingMade, (forall₂_of_mapM castMade).length_eq⟩, ?_⟩
  intro value isValue
  obtain ⟨given, _, valueMade⟩ := exists_of_mem_mapM castMade isValue
  have cast := (castStandIn_eq_ok.1 valueMade).2
  unfold castOperand at cast
  rw [noFlag, if_neg Bool.false_ne_true] at cast
  exact binds.casters noTruth (cast_of_castFor cast)

theorem bound_of_resolveValues {constraint : Constraint} {values : List (List Value)}
    (made : (rawValues constraint).mapM (resolveValue registry querystring target operator) =
      .ok values) :
    values.flatten.length = constraint.valueCount querystring ∧
      ∀ value ∈ values.flatten, value.isBound = true := by
  have each := forall₂_of_mapM made
  unfold Constraint.valueCount
  clear made
  generalize rawValues constraint = raws at each ⊢
  induction each with
  | nil => exact ⟨rfl, nofun⟩
  | cons headMade _ hypothesis =>
      obtain ⟨⟨standing, standingMade, count⟩, bound⟩ :=
        bound_of_resolveValue binds noTruth noFlag headMade
      obtain ⟨restCount, restBound⟩ := hypothesis
      constructor
      · rw [List.flatten_cons, List.length_append, List.flatMap_cons, List.length_append,
          standingMade, restCount, ← count]
        rfl
      · rw [List.flatten_cons, List.forall_mem_append]
        exact ⟨bound, restBound⟩

end Bound

/-- Constraints that differ in nothing but values are resolved to such constraints. -/
theorem alike_of_resolveConstraint (binds : registry.BindsOperands) {path pathOther : String}
    {target : ResolvedPath} (noTruth : target.leaf.dataType ≠ .bool) {first second : Constraint}
    (noFlag : ∀ name, registry.operators.canonical? first.operator = some name →
      Operators.flagged.contains name = false)
    (alike : first.Alike registry.operators querystring other second)
    {resolved resolvedOther : ResolvedConstraint}
    (made : resolveConstraint registry querystring path target first = .ok resolved)
    (otherMade : resolveConstraint registry other pathOther target second = .ok resolvedOther) :
    resolved.Alike resolvedOther := by
  obtain ⟨known, _, ⟨values, valuesMade, flat⟩, _⟩ := resolveConstraint_eq_ok.1 made
  obtain ⟨knownOther, _, ⟨valuesOther, valuesOtherMade, flatOther⟩, _⟩ :=
    resolveConstraint_eq_ok.1 otherMade
  have sameOperator : resolved.operator = resolvedOther.operator := by
    rw [alike.operator, knownOther] at known
    exact (Option.some.inj known).symm
  have unflagged := noFlag _ known
  obtain ⟨count, bound⟩ := bound_of_resolveValues binds noTruth unflagged valuesMade
  obtain ⟨countOther, boundOther⟩ :=
    bound_of_resolveValues binds noTruth (sameOperator ▸ unflagged) valuesOtherMade
  refine ⟨sameOperator, unflagged, ?_, ?_, ?_⟩
  · rw [← flat, ← flatOther, count, countOther, alike.count]
  · rw [← flat]
    exact bound
  · rw [← flatOther]
    exact boundOther

/-- Filters that differ in nothing but values are resolved to such filters. -/
theorem alike_of_resolve (binds : registry.BindsOperands) {entity : LoadedEntity}
    {catalog : Catalog} {first second : Filter}
    (noFlag : ∀ constraint ∈ first.constraints, ∀ name,
      registry.operators.canonical? constraint.operator = some name →
        Operators.flagged.contains name = false)
    (noTruth : ∀ target, answer (Catalog.resolvePath entity first.path) catalog = .ok target →
      target.leaf.dataType ≠ .bool)
    (alike : first.Alike registry.operators querystring other second)
    {resolved resolvedOther : ResolvedFilter}
    (made : answer (first.resolve registry querystring entity) catalog = .ok resolved)
    (otherMade : answer (second.resolve registry other entity) catalog = .ok resolvedOther) :
    resolved.Alike resolvedOther := by
  obtain ⟨combination, found, constraintsMade⟩ := resolve_parts made
  obtain ⟨combinationOther, foundOther, constraintsOtherMade⟩ := resolve_parts otherMade
  have noTruthThere := noTruth _ found
  have sameTarget : resolved.target = resolvedOther.target := by
    rw [← alike.path, found] at foundOther
    exact Except.ok.inj foundOther
  have sameCombination : resolved.combination = resolvedOther.combination := by
    rw [← alike.combination, combination] at combinationOther
    exact Option.some.inj combinationOther
  refine ⟨sameTarget, sameCombination, ?_⟩
  rw [← sameTarget] at constraintsOtherMade
  exact forall₂_mapM_of_alike alike.constraints
    (fun constraint isConstraint _ _ _ constraintAlike =>
      alike_of_resolveConstraint binds noTruthThere (noFlag constraint isConstraint)
        constraintAlike)
    constraintsMade constraintsOtherMade

theorem comparesValues_of_resolve (binds : registry.BindsOperands) {entity : LoadedEntity}
    {catalog : Catalog} {filter : Filter} {resolved : ResolvedFilter}
    (noFlag : ∀ constraint ∈ filter.constraints, ∀ name,
      registry.operators.canonical? constraint.operator = some name →
        Operators.flagged.contains name = false)
    (noTruth : ∀ target, answer (Catalog.resolvePath entity filter.path) catalog = .ok target →
      target.leaf.dataType ≠ .bool)
    (made : answer (filter.resolve registry querystring entity) catalog = .ok resolved) :
    resolved.ComparesValues := by
  have someAsked := constraints_ne_nil_of_resolve made
  obtain ⟨_, found, constraintsMade⟩ := resolve_parts made
  have each : ∀ constraint ∈ resolved.constraints,
      Operators.flagged.contains constraint.operator = false ∧
        ∀ value ∈ constraint.values, value.isBound = true := by
    intro constraint isConstraint
    obtain ⟨asked, isAsked, constraintMade⟩ := exists_of_mem_mapM constraintsMade isConstraint
    obtain ⟨known, _, ⟨values, valuesMade, flat⟩, _⟩ := resolveConstraint_eq_ok.1 constraintMade
    have unflagged := noFlag asked isAsked _ known
    rw [← flat]
    exact ⟨unflagged, (bound_of_resolveValues binds (noTruth _ found) unflagged valuesMade).2⟩
  exact ⟨ne_nil_of_mapM constraintsMade someAsked, fun constraint isConstraint =>
    (each constraint isConstraint).1, fun constraint isConstraint =>
    (each constraint isConstraint).2⟩

end Filter

namespace Cursor

theorem resolve_spec {casters : Casters} {entity : LoadedEntity} {catalog : Catalog}
    {cursor : Cursor} {resolved : ResolvedCursor}
    (resolves : answer (cursor.resolve casters entity) catalog = .ok resolved) :
    resolved.isEmpty = cursor.isEmpty ∧ resolved.cursor = cursor := by
  cases empty : cursor.isEmpty with
  | true =>
      unfold resolve at resolves
      rw [if_pos empty] at resolves
      obtain rfl := Except.ok.inj resolves
      exact ⟨rfl, rfl⟩
  | false =>
      obtain ⟨edge, rfl⟩ := exists_edge_of_resolve empty resolves
      exact ⟨rfl, rfl⟩

end Cursor

namespace QueryService

variable {service : QueryService} {request other : ListRequest} {catalog : Catalog}
  {listing listingOther : Listing}

/-- Whether two requests ask for the same list, but by other values, for another page, or from
another edge in the same direction. -/
structure Alike (service : QueryService) (request other : ListRequest) : Prop where
  entity : request.entity = other.entity
  filters : List.Forall₂
    (Filter.Alike service.registry.operators request.querystring other.querystring)
    (service.askedFilters request) (service.askedFilters other)
  sorts : request.arguments.sorts service.settings.sortKey =
    other.arguments.sorts service.settings.sortKey
  isEmpty : request.cursor.isEmpty = other.cursor.isEmpty
  isForward : request.cursor.isForward = other.cursor.isForward

/-- Whether the filters of a request take no flags and are on no columns of them. -/
structure FiltersNoTruth (service : QueryService) (request : ListRequest) (catalog : Catalog)
    (entity : LoadedEntity) : Prop where
  noFlag : ∀ filter ∈ service.askedFilters request, ∀ constraint ∈ filter.constraints, ∀ name,
    service.registry.operators.canonical? constraint.operator = some name →
      Operators.flagged.contains name = false
  noTruth : ∀ filter ∈ service.askedFilters request, ∀ target,
    answer (Catalog.resolvePath entity filter.path) catalog = .ok target →
      target.leaf.dataType ≠ .bool

/-- A request is answered if its parts are resolved and make a statement. -/
theorem build_eq_ok_iff_resolves :
    answer (service.build request) catalog = .ok listing ↔
      ∃ parts, service.Resolves request catalog parts ∧
        Listing.build service.registry.operators parts.entity parts.filters parts.totalSorts
          parts.cursor request.pagination (service.pageSize parts.entity request.pagination) =
            .ok listing := by
  rw [service.build_eq_ok request]
  constructor
  · rintro ⟨entity, loaded, onEntity⟩
    obtain ⟨filters, sorts, cursor, filtered, sorted, started, placed⟩ :=
      (service.buildOn_eq_ok request entity).1 onEntity
    exact ⟨⟨entity, filters, sorts, cursor⟩, ⟨loaded, filtered, sorted, started⟩, placed⟩
  · rintro ⟨parts, resolves, placed⟩
    exact ⟨parts.entity, resolves.loaded, (service.buildOn_eq_ok request parts.entity).2
      ⟨parts.filters, parts.sorts, parts.cursor, resolves.filtered, resolves.sorted,
        resolves.started, placed⟩⟩

theorem Resolves.names_given {parts : Parts} (resolves : service.Resolves request catalog parts)
    (stay : service.registry.operators.StayOnColumn) (keyed : catalog.store.KeyedByName)
    {pagination : Pagination} {size : Int}
    (built : Listing.build service.registry.operators parts.entity parts.filters parts.totalSorts
      parts.cursor pagination size = .ok listing) :
    ∀ name ∈ listing.statement.names, catalog.definitions.Gives name := by
  have faithful := Catalog.faithful_loadedEntity keyed resolves.loaded
  apply Listing.names_given faithful stay _ _ built
  · intro filter isFilter
    have filtered := resolves.filtered
    unfold Filter.resolveAll at filtered
    rw [Catalog.Consults.answer_mapM (Filter.consults_resolve _ _ _)] at filtered
    obtain ⟨asked, _, made⟩ := Success.exists_of_mem_mapM filtered isFilter
    exact ResolvedPath.givenBy_of_resolvePath keyed faithful (Filter.resolve_parts made).2.1
  · intro sort isSort
    rcases ResolvedSort.mem_withPrimaryKey isSort with requested | rfl
    · exact ResolvedPath.givenBy_of_resolvePath keyed faithful
        (SortTerm.resolvePath_of_mem resolves.sorted requested)
    · exact ResolvedPath.givenBy_toPrimaryKey keyed faithful

theorem outline_statement (binds : service.registry.BindsOperands)
    (alike : service.Alike request other)
    (built : answer (service.build request) catalog = .ok listing)
    (otherBuilt : answer (service.build other) catalog = .ok listingOther)
    (noTruth : service.FiltersNoTruth request catalog listing.entity)
    (sameMissing : ∀ sort ∈ listing.sorts,
      listing.cursor.Lacks sort.path ↔ listingOther.cursor.Lacks sort.path) :
    listing.statement.outline = listingOther.statement.outline := by
  obtain ⟨⟨entity, filters, sorts, cursor⟩, ⟨loaded, filtered, sorted, started⟩, placed⟩ :=
    build_eq_ok_iff_resolves.1 built
  obtain ⟨⟨entityOther, filtersOther, sortsOther, cursorOther⟩,
    ⟨loadedOther, filteredOther, sortedOther, startedOther⟩, placedOther⟩ :=
    build_eq_ok_iff_resolves.1 otherBuilt
  dsimp only [Parts.totalSorts] at *
  obtain ⟨isEntity, areSorts, isCursor⟩ := Listing.parts_of_build placed
  obtain ⟨_, _, isCursorOther⟩ := Listing.parts_of_build placedOther
  rw [isEntity] at noTruth
  rw [areSorts, isCursor, isCursorOther] at sameMissing
  -- The entity and the sorts are found in the same way, so they are the same.
  obtain rfl : entity = entityOther := by
    rw [← alike.entity, loaded] at loadedOther
    exact Except.ok.inj loadedOther
  obtain rfl : sorts = sortsOther := by
    rw [← alike.sorts, sorted] at sortedOther
    exact Except.ok.inj sortedOther
  have filtersAlike : List.Forall₂ ResolvedFilter.Alike filters filtersOther := by
    unfold Filter.resolveAll at filtered filteredOther
    rw [Catalog.Consults.answer_mapM (Filter.consults_resolve _ _ _)] at filtered filteredOther
    exact Success.forall₂_mapM_of_alike alike.filters
      (fun filter isFilter _ _ _ filterAlike => Filter.alike_of_resolve binds
        (noTruth.noFlag filter isFilter) (noTruth.noTruth filter isFilter) filterAlike)
      filtered filteredOther
  obtain ⟨isEmpty, sides⟩ := Cursor.resolve_spec started
  obtain ⟨isEmptyOther, sidesOther⟩ := Cursor.resolve_spec startedOther
  have cursorAlike : cursor.Alike (ResolvedSort.withPrimaryKey entity sorts) cursorOther :=
    ⟨by rw [isEmpty, isEmptyOther, alike.isEmpty], by rw [sides, sidesOther, alike.isForward],
      sameMissing⟩
  exact Listing.outline_statement binds filtersAlike cursorAlike placed placedOther

theorem Resolves.compareValues {parts : Parts} (resolves : service.Resolves request catalog parts)
    (binds : service.registry.BindsOperands)
    (noTruth : service.FiltersNoTruth request catalog parts.entity) :
    ∀ filter ∈ parts.filters, filter.ComparesValues := by
  intro filter isFilter
  have filtered := resolves.filtered
  unfold Filter.resolveAll at filtered
  rw [Catalog.Consults.answer_mapM (Filter.consults_resolve _ _ _)] at filtered
  obtain ⟨asked, isAsked, made⟩ := Success.exists_of_mem_mapM filtered isFilter
  exact Filter.comparesValues_of_resolve binds (noTruth.noFlag asked isAsked)
    (noTruth.noTruth asked isAsked) made

/-- A request for the switches with some numbers, perhaps from a querystring. -/
def askingNumbers (numbers given : List String) : ListRequest where
  entity := "Switch"
  arguments := [("id", [("in", numbers.map .text)])]
  querystring := [("numbers", given.map .text)]

def numberedParts (numbers : List Int) : Parts :=
  switchParts (switchFilter "id" .int ⟨"in", numbers.map .int⟩)

def note : StoredEntity where
  name := "Note"
  tableName := "notes"
  attributes := [.ofColumn "id" .int, .ofColumn "title" .string, .ofColumn "sub\ttitle" .string]

def notes : Catalog where
  store := .ofEntities [note]

def askingNotes (field operator : String) (texts : List String) (cursor : Cursor) :
    ListRequest where
  entity := "Note"
  arguments := [(field, [(operator, texts.map .text)])]
  querystring := [("titles", [.text "x", .text "y"])]
  cursor := cursor

def noteParts (field operator : String) (texts : List String) (cursor : ResolvedCursor) :
    Parts where
  entity := note.load
  filters :=
    [{ target :=
        { path := field, relationship := "", steps := []
          leaf := (Attribute.ofColumn field .string).load "notes" }
       combination := .all
       constraints := [⟨operator, texts.map .text⟩] }]
  sorts := []
  cursor := cursor

def beforeUnnumbered : Cursor where
  first := some "eyJpZCI6bnVsbH0"

def unnumbered : List (List Char) :=
  [Codec.Json.writeText "id" ++ ':' :: "null".toList]

theorem read_beforeUnnumbered :
    Token.read "eyJpZCI6bnVsbH0" = .ok (.record [("id", .null)]) := by
  have spells : Codec.Json.SpellsEach [("id", .null)] unnumbered [("id", .null)] :=
    .cons rfl .null (Codec.Json.spells_named (by simp [Codec.Json.namedValues])) .nil
  have encoded : "eyJpZCI6bnVsbH0" =
      Token.encode ('\x7b' :: Codec.Json.separated unnumbered ++ ['\x7d']) := by
    decide +kernel
  rw [encoded]
  exact Token.read_encode spells (List.cons_ne_nil _ _) (List.nodup_singleton _)

end QueryService
end SchemaQuery
