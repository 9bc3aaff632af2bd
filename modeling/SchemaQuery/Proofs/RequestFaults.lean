import SchemaQuery.Proofs.CursorAcceptance
import SchemaQuery.Proofs.PlannedLists
import SchemaQuery.Proofs.TypedConstraints

/-!
# Which requests are faulted

What is wrong with a request should be refused.  A request whose parts have all been resolved is
faulted all the same if they can not be put into a statement: if a filter orders rows by a truth
value or asks for the end of the last day of the calendar, if rows are to be beyond a truth value,
or if they are sorted by a primary key that is an unexpanded junction.  This file proves that
nothing else about a request is faulted, with the casters and operators that come with the library,
as long as no filter asks for a value of an access token.
-/

namespace SchemaQuery

open Catalog (Consults answer after)

theorem Catalog.not_faulted_answer_bind {α β : Type} {work : CatalogM Failure α}
    {next : α → CatalogM Failure β} {catalog : Catalog} (first : ¬Faulted (answer work catalog))
    (second : ∀ value, ¬Faulted (answer (next value) (after work catalog))) :
    ¬Faulted (answer (work >>= next) catalog) := by
  rw [Catalog.answer_bind]
  cases answered : answer work catalog with
  | error failure =>
      rintro ⟨fault, same⟩
      exact first ⟨fault, answered.trans (congrArg Except.error (Except.error.inj same))⟩
  | ok value => exact second value

namespace Filter

/-- Whether no value of a filter is reserved for access tokens. -/
def LacksTokens (filter : Filter) : Prop :=
  ∀ constraint ∈ filter.constraints, ∀ raw ∈ constraint.values,
    behindMark? tokenMark raw.plain = none

variable {registry : Registry} {querystring : Dictionary (List Value)}

theorem not_faulted_resolveValue {target : ResolvedPath} {operator : String} {raw : Value}
    (noToken : behindMark? tokenMark raw.plain = none) :
    ¬Faulted (resolveValue registry querystring target operator raw) := by
  unfold resolveValue
  apply not_faulted_guarded
  apply not_faulted_bind
  · unfold standIns
    simp only [noToken]
    split
    · rename_i isToken
      exact absurd isToken nofun
    · split
      · exact not_faulted_refuse _
      · exact not_faulted_refuse _
      · exact not_faulted_pure _
    · exact not_faulted_pure _
  · intro values
    apply not_faulted_mapM
    intro value _
    apply not_faulted_guarded
    split
    · exact not_faulted_pure _
    · exact not_faulted_refuse _

theorem not_faulted_resolveConstraint {path : String} {target : ResolvedPath}
    {constraint : Constraint}
    (noTokens : ∀ raw ∈ constraint.values, behindMark? tokenMark raw.plain = none) :
    ¬Faulted (resolveConstraint registry querystring path target constraint) := by
  have noneRaw : ∀ raw ∈ rawValues constraint, behindMark? tokenMark raw.plain = none := by
    unfold rawValues
    split
    · intro raw isRaw
      rw [List.mem_singleton.1 isRaw]
      decide
    · exact noTokens
  unfold resolveConstraint
  split
  · exact not_faulted_refuse _
  · apply not_faulted_guarded
    apply not_faulted_bind
    · exact not_faulted_mapM fun raw isRaw => not_faulted_resolveValue (noneRaw raw isRaw)
    · intro values
      dsimp only
      split
      · split
        · exact not_faulted_pure _
        · exact not_faulted_refuse _
      · exact not_faulted_pure _

theorem not_faulted_resolve {filter : Filter} (noTokens : filter.LacksTokens)
    (entity : LoadedEntity) (catalog : Catalog) :
    ¬Faulted (answer (filter.resolve registry querystring entity) catalog) := by
  unfold resolve
  split
  · exact not_faulted_refuse _
  · apply Catalog.not_faulted_answer_bind
    · rw [Catalog.answer_adapt]
      exact not_faulted_mapError _ _
    · intro target
      split
      · exact not_faulted_refuse _
      · apply Catalog.not_faulted_answer_bind
        · exact not_faulted_mapM fun constraint isConstraint =>
            not_faulted_resolveConstraint (noTokens constraint isConstraint)
        · intro constraints
          exact not_faulted_pure _

theorem not_faulted_resolveAll {filters : List Filter}
    (noTokens : ∀ filter ∈ filters, filter.LacksTokens) (entity : LoadedEntity)
    (catalog : Catalog) :
    ¬Faulted (answer (resolveAll registry querystring entity filters) catalog) := by
  unfold resolveAll
  rw [Consults.answer_mapM (consults_resolve registry querystring entity)]
  exact not_faulted_mapM fun filter isFilter =>
    not_faulted_resolve (noTokens filter isFilter) entity catalog

/-- Resolving a filter finds its combination and its attribute, and resolves its constraints. -/
theorem resolve_parts {entity : LoadedEntity} {filter : Filter} {catalog : Catalog}
    {resolved : ResolvedFilter}
    (made : answer (filter.resolve registry querystring entity) catalog = .ok resolved) :
    Combination.ofName? filter.combination = some resolved.combination ∧
      answer (Catalog.resolvePath entity filter.path) catalog = .ok resolved.target ∧
      filter.constraints.mapM
        (resolveConstraint registry querystring filter.path resolved.target) =
          .ok resolved.constraints := by
  unfold resolve at made
  split at made
  · simp at made
  · rename_i combination known
    obtain ⟨target, found, made⟩ := (Catalog.answer_bind_eq_ok _ _ _ _).1 made
    rw [Catalog.answer_adapt, Success.mapError_eq_ok] at found
    split at made
    · simp at made
    · obtain ⟨constraints, constraintsMade, same⟩ := (Catalog.answer_bind_eq_ok _ _ _ _).1 made
      obtain rfl := Except.ok.inj same
      exact ⟨known, found, constraintsMade⟩

/-- A filter that has been resolved is typed, and its path has been resolved. -/
theorem resolve_spec {entity : LoadedEntity} {filter : Filter} {catalog : Catalog}
    {resolved : ResolvedFilter}
    (made : answer (filter.resolve {} querystring entity) catalog = .ok resolved) :
    answer (Catalog.resolvePath entity filter.path) catalog = .ok resolved.target ∧
      resolved.Typed := by
  obtain ⟨_, found, constraintsMade⟩ := resolve_parts made
  refine ⟨found, fun constraint isConstraint => ?_⟩
  obtain ⟨_, _, constraintMade⟩ := Success.exists_of_mem_mapM constraintsMade isConstraint
  exact typed_of_resolveConstraint constraintMade

theorem resolveAll_spec {entity : LoadedEntity} {filters : List Filter} {catalog : Catalog}
    {resolved : List ResolvedFilter}
    (made : answer (resolveAll {} querystring entity filters) catalog = .ok resolved) :
    ∀ filter ∈ resolved, filter.Typed ∧
      ∃ path, answer (Catalog.resolvePath entity path) catalog = .ok filter.target := by
  unfold resolveAll at made
  rw [Consults.answer_mapM (consults_resolve {} querystring entity)] at made
  intro filter isFilter
  obtain ⟨asked, _, filterMade⟩ := Success.exists_of_mem_mapM made isFilter
  obtain ⟨found, typed⟩ := resolve_spec filterMade
  exact ⟨typed, asked.path, found⟩

end Filter

namespace Listing

open Sql

/-- A list can be planned if its filters make conditions and no sort is
by an unexpanded junction. -/
theorem exists_planned_iff {known : Catalog.Definitions} (apart : known.Apart)
    {entity : LoadedEntity} (defined : ∃ name, known name = .ok entity.declared)
    {filters : List ResolvedFilter} {sorts : List ResolvedSort}
    (typed : ∀ filter ∈ filters, filter.Typed ∧ Plannable known entity filter.target)
    (ready : ∀ sort ∈ sorts, (sort.target.leaf.dataType = .junction →
      sort.target.leaf.isLoaded = true) → Plannable known entity sort.target) :
    (∃ result, (planned .standard filters sorts).run { entity } = .ok result) ↔
      (∀ filter ∈ filters, ∀ constraint ∈ filter.constraints,
        ¬constraint.Inexpressible filter.target.leaf.dataType) ∧
      ∀ sort ∈ sorts, sort.target.leaf.dataType = .junction →
        sort.target.leaf.isLoaded = true := by
  constructor
  · rintro ⟨result, made⟩
    refine ⟨?_, fun sort isSort => isLoaded_of_planned made isSort⟩
    intro filter isFilter
    unfold planned at made
    obtain ⟨_, _, filtersMade, _⟩ := (Success.run_bind_eq_ok _ _ _ _).1 made
    obtain ⟨_, _, filterMade⟩ := Success.exists_run_of_run_mapM filtersMade isFilter
    obtain ⟨column, _, _, conditionMade⟩ := (Success.run_bind_eq_ok _ _ _ _).1 filterMade
    obtain ⟨condition, placed, _⟩ := (Success.run_lift_eq_ok _ _ _).1 conditionMade
    exact ((typed filter isFilter).1.exists_condition_iff column).1 ⟨condition, placed⟩
  · rintro ⟨expressible, loaded⟩
    obtain ⟨result, last, made, _⟩ := yields_planned apart.suffixFree defined
      (fun filter isFilter => (typed filter isFilter).2)
      (fun filter isFilter => ((typed filter isFilter).1.exists_condition_iff _).2
        (expressible filter isFilter))
      (fun sort isSort => ready sort isSort (loaded sort isSort))
    exact ⟨_, made⟩

end Listing

/-- Whether an edge has a truth value for a sort, and a value for each before it. -/
def ResolvedCursor.MeetsTruth (cursor : ResolvedCursor) (sorts : List ResolvedSort) : Prop :=
  ∃ before sort behind truth, sorts = before ++ sort :: behind ∧
    (∀ earlier ∈ before, ∃ value, cursor.edgeValue earlier.path = .ok value) ∧
    cursor.edgeValue sort.path = .ok (.bool truth)

@[simp]
theorem ResolvedCursor.not_meetsTruth_nil (cursor : ResolvedCursor) : ¬cursor.MeetsTruth [] := by
  rintro ⟨before, sort, behind, truth, same, _⟩
  exact absurd (List.append_eq_nil_iff.1 same.symm).2 nofun

theorem ResolvedCursor.meetsTruth_cons {cursor : ResolvedCursor} {sort : ResolvedSort}
    {sorts : List ResolvedSort} :
    cursor.MeetsTruth (sort :: sorts) ↔
      ∃ value, cursor.edgeValue sort.path = .ok value ∧
        (value.isBool = true ∨ cursor.MeetsTruth sorts) := by
  constructor
  · rintro ⟨_ | ⟨first, before⟩, other, behind, truth, same, given, isTruth⟩
    · obtain ⟨rfl, rfl⟩ := List.cons.inj same
      exact ⟨_, isTruth, Or.inl rfl⟩
    · obtain ⟨rfl, rfl⟩ := List.cons.inj same
      obtain ⟨value, found⟩ := given sort List.mem_cons_self
      refine ⟨value, found, Or.inr ⟨before, other, behind, truth, rfl, ?_, isTruth⟩⟩
      exact fun earlier isEarlier => given earlier (List.mem_cons_of_mem _ isEarlier)
  · rintro ⟨value, found, isTruth | ⟨before, other, behind, truth, rfl, given, isTruth⟩⟩
    · cases value with
      | bool truth => exact ⟨[], sort, sorts, truth, rfl, nofun, found⟩
      | _ => exact absurd isTruth Bool.false_ne_true
    · refine ⟨sort :: before, other, behind, truth, rfl, ?_, isTruth⟩
      intro earlier isEarlier
      rcases List.mem_cons.1 isEarlier with rfl | later
      · exact ⟨value, found⟩
      · exact given earlier later

namespace Sql.Keyset

variable {cursor : ResolvedCursor} {primaryKey : String}

theorem pastEdge_of_isBool (upward mayBeMissing : Bool) (column : Column) {edge : Value}
    (isTruth : edge.isBool = true) :
    pastEdge upward mayBeMissing column edge = .error .truthComparison := by
  cases edge with
  | bool truth => cases upward <;> rfl
  | _ => exact absurd isTruth Bool.false_ne_true

theorem faulted_branches_iff {equal : List Condition} {sorted : List SortColumn} :
    Faulted (branches cursor primaryKey equal sorted) ↔
      cursor.MeetsTruth (sorted.map SortColumn.sort) := by
  induction sorted generalizing equal with
  | nil => exact iff_of_false (not_faulted_pure []) cursor.not_meetsTruth_nil
  | cons sorted rest hypothesis =>
      rw [List.map_cons, ResolvedCursor.meetsTruth_cons]
      unfold branches
      simp only [faulted_bind_iff, Success.mapError_eq_ok, faulted_mapError_iff,
        not_faulted_refused, false_or, hypothesis]
      apply exists_congr
      intro edge
      apply and_congr_right
      intro _
      cases isTruth : edge.isBool with
      | true => simp [pastEdge_of_isBool _ _ _ isTruth]
      | false =>
          obtain ⟨past, pastMade⟩ :=
            exists_pastEdge (cursor.cursor.goesUp sorted.sort.direction)
              (sorted.sort.path != primaryKey) sorted.column isTruth
          obtain ⟨atIt, atMade⟩ := exists_atEdge sorted.column isTruth
          cases past <;> simp [pastMade, atMade]

theorem faulted_condition_iff {sorted : List SortColumn} :
    Faulted (condition cursor primaryKey sorted) ↔
      cursor.MeetsTruth (sorted.map SortColumn.sort) := by
  cases sorted with
  | nil => exact iff_of_false (not_faulted_refuse _) cursor.not_meetsTruth_nil
  | cons first rest =>
      have branching := @faulted_branches_iff cursor primaryKey [] (first :: rest)
      change Faulted (branches cursor primaryKey [] (first :: rest) >>= _) ↔ _
      rw [faulted_bind_iff, branching, or_iff_left]
      rintro ⟨conditions, _, faulted⟩
      rcases conditions with _ | ⟨_, _ | _⟩ <;> exact not_faulted_pure _ faulted

end Sql.Keyset

namespace Listing

open Sql

theorem faulted_conditions_iff {entity : LoadedEntity} {cursor : ResolvedCursor}
    {filtering : List Condition} {sorted : List SortColumn} :
    Faulted (conditions entity cursor filtering sorted) ↔
      cursor.isEmpty = false ∧ cursor.MeetsTruth (sorted.map SortColumn.sort) := by
  unfold conditions
  cases cursor.isEmpty with
  | true => exact iff_of_false (not_faulted_pure filtering) fun given => nomatch given.1
  | false =>
      rw [if_neg Bool.false_ne_true, faulted_bind_iff, Keyset.faulted_condition_iff, or_iff_left]
      · simp
      · rintro ⟨beyond, _, faulted⟩
        exact not_faulted_pure _ faulted

theorem not_faulted_offset (cursor : ResolvedCursor) (pagination : Pagination) :
    ¬Faulted (offset cursor pagination) := by
  unfold offset
  split
  · exact not_faulted_pure _
  · split
    · exact not_faulted_refuse _
    · exact not_faulted_pure _

/-- Building is faulted if parts can not be planned, or rows are to be beyond an edge that meets a
truth value. -/
theorem faulted_build_iff {operators : Operators} {entity : LoadedEntity}
    {filters : List ResolvedFilter} {sorts : List ResolvedSort} {cursor : ResolvedCursor}
    (pagination : Pagination) (size : Int) :
    Faulted (Listing.build operators entity filters sorts cursor pagination size) ↔
      (¬∃ result, (planned operators filters sorts).run { entity } = .ok result) ∨
        cursor.isEmpty = false ∧ cursor.MeetsTruth sorts := by
  unfold Listing.build
  rw [faulted_bind_iff, faulted_mapError_iff]
  cases made : (planned operators filters sorts).run { entity } with
  | error fault => simp
  | ok result =>
      obtain ⟨⟨filtering, sorted⟩, plan⟩ := result
      obtain ⟨sameSorts, _⟩ := planned_eq_ok made
      simp only [Success.mapError_eq_ok, Except.ok.injEq, exists_eq_left', exists_eq',
        not_true_eq_false, false_or]
      rw [faulted_bind_iff, faulted_conditions_iff, sameSorts, or_iff_left]
      rintro ⟨conditions, _, faulted⟩
      exact not_faulted_bind (not_faulted_offset cursor pagination)
        (fun passed => not_faulted_pure _) faulted

end Listing

namespace QueryService

structure Parts where
  entity : LoadedEntity
  filters : List ResolvedFilter
  sorts : List ResolvedSort
  cursor : ResolvedCursor

def Parts.totalSorts (parts : Parts) : List ResolvedSort :=
  ResolvedSort.withPrimaryKey parts.entity parts.sorts

def askedFilters (service : QueryService) (request : ListRequest) : List Filter :=
  request.arguments.filters service.registry.operators service.settings.sortKey

/-- Whether all parts of a request are resolved on a catalog, and what to. -/
structure Resolves (service : QueryService) (request : ListRequest) (catalog : Catalog)
    (parts : Parts) : Prop where
  loaded : answer (Catalog.loadedEntity request.entity) catalog = .ok parts.entity
  filtered : answer (Filter.resolveAll service.registry request.querystring parts.entity
    (service.askedFilters request)) catalog = .ok parts.filters
  sorted : answer (SortTerm.resolveAll parts.entity
    (request.arguments.sorts service.settings.sortKey)) catalog = .ok parts.sorts
  started : answer (request.cursor.resolve service.registry.casters parts.entity) catalog =
    .ok parts.cursor

/-- Whether resolved parts make no statement: a filter makes no condition, a sort is by an
unexpanded junction, or an edge meets a truth value. -/
inductive Parts.Inexpressible (parts : Parts) : Prop
  | filter {filter : ResolvedFilter} {constraint : ResolvedConstraint}
      (isFilter : filter ∈ parts.filters) (isConstraint : constraint ∈ filter.constraints)
      (inexpressible : constraint.Inexpressible filter.target.leaf.dataType)
  | sort {sort : ResolvedSort} (isSort : sort ∈ parts.totalSorts)
      (isJunction : sort.target.leaf.dataType = .junction)
      (notExpanded : sort.target.leaf.isLoaded = false)
  | edge (given : parts.cursor.isEmpty = false)
      (meetsTruth : parts.cursor.MeetsTruth parts.totalSorts)

variable {service : QueryService} {request : ListRequest} {catalog : Catalog}

/-- A request is faulted if its parts are resolved, and putting them into a statement is faulted. -/
theorem faulted_build_iff_resolves
    (noTokens : ∀ filter ∈ service.askedFilters request, filter.LacksTokens) :
    Faulted (answer (service.build request) catalog) ↔
      ∃ parts, service.Resolves request catalog parts ∧
        Faulted (Listing.build service.registry.operators parts.entity parts.filters
          parts.totalSorts parts.cursor request.pagination
          (service.pageSize parts.entity request.pagination)) := by
  simp only [answer_build, answer_buildOn, faulted_bind_iff, not_faulted_refused,
    Success.mapError_eq_ok, false_or]
  constructor
  · rintro ⟨entity, loaded, faulted |
      ⟨filters, filtered, sorts, sorted, cursor, started, faulted⟩⟩
    · exact absurd faulted (Filter.not_faulted_resolveAll noTokens entity catalog)
    · exact ⟨⟨entity, filters, sorts, cursor⟩, ⟨loaded, filtered, sorted, started⟩, faulted⟩
  · rintro ⟨parts, resolves, faulted⟩
    exact ⟨parts.entity, resolves.loaded, Or.inr ⟨parts.filters, resolves.filtered, parts.sorts,
      resolves.sorted, parts.cursor, resolves.started, faulted⟩⟩

/-- Resolved parts can be planned if their filters make conditions and no sort is
by an unexpanded junction. -/
theorem Resolves.exists_planned_iff {parts : Parts}
    (resolves : Resolves service request catalog parts) (standard : service.registry = {})
    (keyed : catalog.store.KeyedByName) (apart : catalog.definitions.Apart) :
    (∃ result, (Listing.planned .standard parts.filters parts.totalSorts).run
        { entity := parts.entity } = .ok result) ↔
      (∀ filter ∈ parts.filters, ∀ constraint ∈ filter.constraints,
        ¬constraint.Inexpressible filter.target.leaf.dataType) ∧
      ∀ sort ∈ parts.totalSorts, sort.target.leaf.dataType = .junction →
        sort.target.leaf.isLoaded = true := by
  have faithful := Catalog.faithful_loadedEntity keyed resolves.loaded
  apply Listing.exists_planned_iff apart faithful.defined
  · intro filter isFilter
    have filtered := resolves.filtered
    rw [standard] at filtered
    obtain ⟨typed, path, found⟩ := Filter.resolveAll_spec filtered filter isFilter
    exact ⟨typed, Sql.plannable_of_resolvePath faithful keyed found⟩
  · intro sort isSort ready
    rcases ResolvedSort.mem_withPrimaryKey isSort with requested | rfl
    · have found := SortTerm.resolvePath_of_mem resolves.sorted requested
      exact Sql.plannable_of_resolvePath faithful keyed found
    · exact Sql.plannable_toPrimaryKey faithful keyed (Sql.isFieldPath_of_apart apart faithful)
        ready

/-- A request is faulted if its parts are resolved, but make no statement. -/
theorem faulted_iff_inexpressible (standard : service.registry = {})
    (keyed : catalog.store.KeyedByName) (apart : catalog.definitions.Apart)
    (noTokens : ∀ filter ∈ service.askedFilters request, filter.LacksTokens) :
    Faulted (answer (service.build request) catalog) ↔
      ∃ parts, service.Resolves request catalog parts ∧ parts.Inexpressible := by
  rw [faulted_build_iff_resolves noTokens]
  apply exists_congr
  intro parts
  apply and_congr_right
  intro resolves
  have planned := resolves.exists_planned_iff standard keyed apart
  have operators : service.registry.operators = .standard := by rw [standard]
  rw [Listing.faulted_build_iff, operators, planned]
  constructor
  · rintro (notPlanned | ⟨given, meetsTruth⟩)
    · by_contra expressible
      apply notPlanned
      constructor
      · exact fun filter isFilter constraint isConstraint inexpressible =>
          expressible (.filter isFilter isConstraint inexpressible)
      · intro sort isSort isJunction
        by_contra notExpanded
        exact expressible (.sort isSort isJunction (Bool.eq_false_iff.2 notExpanded))
    · exact .edge given meetsTruth
  · rintro (⟨isFilter, isConstraint, inexpressible⟩ | ⟨isSort, isJunction, notExpanded⟩ |
      ⟨given, meetsTruth⟩)
    · exact Or.inl fun planned => planned.1 _ isFilter _ isConstraint inexpressible
    · exact Or.inl fun planned =>
        absurd (planned.2 _ isSort isJunction) (Bool.eq_false_iff.1 notExpanded)
    · exact Or.inr ⟨given, meetsTruth⟩

def switch : StoredEntity where
  name := "Switch"
  tableName := "switches"
  attributes :=
    [.ofColumn "id" .int, .ofColumn "active" .bool, .ofColumn "changed" .date]

def switches : Catalog where
  store := .ofEntities [switch]

def askingSwitches (field operator operand : String) : ListRequest where
  entity := "Switch"
  arguments := [(field, [(operator, [.text operand])])]

def switchFilter (field : String) (dataType : DataType) (constraint : ResolvedConstraint) :
    ResolvedFilter where
  target :=
    { path := field, relationship := "", steps := [],
      leaf := (Attribute.ofColumn field dataType).load "switches" }
  combination := .all
  constraints := [constraint]

def switchParts (filter : ResolvedFilter) : Parts where
  entity := switch.load
  filters := [filter]
  sorts := []
  cursor := { cursor := {} }

theorem switch_requests_faulted :
    Faulted (answer (({} : QueryService).build (askingSwitches "active" "lt" "true")) switches) ∧
      Faulted (answer
        (({} : QueryService).build (askingSwitches "changed" "dateIs" "9999-12-31")) switches) ∧
      ¬Faulted (answer (({} : QueryService).build (askingSwitches "id" "lt" "3")) switches) := by
  have keyed : switches.store.KeyedByName := Store.keyedByName_ofEntities _
  have apart : switches.definitions.Apart := Catalog.apart_of_notCompound (by decide)
  refine ⟨(faulted_iff_inexpressible rfl keyed apart ?_).2 ?_,
    (faulted_iff_inexpressible rfl keyed apart ?_).2 ?_,
    (faulted_iff_inexpressible rfl keyed apart ?_).not.2 ?_⟩
  · unfold Filter.LacksTokens; decide
  · refine ⟨switchParts (switchFilter "active" .bool ⟨"lt", [.bool true]⟩),
      ⟨rfl, rfl, rfl, rfl⟩, ?_⟩
    exact .filter List.mem_cons_self List.mem_cons_self (Or.inl ⟨rfl, by decide⟩)
  · unfold Filter.LacksTokens; decide
  · let lastDay : Calendar.Date := ⟨9999, 12, 31, by decide⟩
    refine ⟨switchParts (switchFilter "changed" .date ⟨"dateIs", [.date lastDay]⟩),
      ⟨rfl, rfl, rfl, rfl⟩, ?_⟩
    exact .filter List.mem_cons_self List.mem_cons_self
      (Or.inr ⟨by decide, _, lastDay, rfl, rfl, rfl⟩)
  · unfold Filter.LacksTokens; decide
  · rintro ⟨parts, resolves, inexpressible⟩
    obtain ⟨entity, filters, sorts, cursor⟩ := parts
    obtain ⟨loaded, filtered, sorted, started⟩ := resolves
    obtain rfl : switch.load = entity := Except.ok.inj loaded
    obtain rfl : [switchFilter "id" .int ⟨"lt", [.int 3]⟩] = filters := Except.ok.inj filtered
    obtain rfl : [] = sorts := Except.ok.inj sorted
    obtain rfl : ({ cursor := {} } : ResolvedCursor) = cursor := Except.ok.inj started
    cases inexpressible with
    | filter isFilter isConstraint inexpressible =>
        rw [List.mem_singleton.1 isFilter] at isConstraint inexpressible
        rw [List.mem_singleton.1 isConstraint] at inexpressible
        rcases inexpressible with ⟨isBool, _⟩ | ⟨wholeDay, _⟩
        · exact nomatch isBool
        · exact absurd wholeDay (by decide)
    | sort isSort isJunction notExpanded =>
        rw [List.mem_singleton.1 isSort] at isJunction
        exact nomatch isJunction
    | edge given meetsTruth => exact nomatch given

end QueryService
end SchemaQuery
