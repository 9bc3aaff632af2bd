import SchemaQuery.Proofs.QuerystringFilters
import SchemaQuery.Proofs.ResolvedFilters

/-!
# Registered operators

Operators are registered one after another, under new names or in place of others, for some data
types or for all.  A request asks for one by its name or by an alias, and an alias stands for its
own name whatever else is registered.  This file proves that a name that is no alias stands for
what was registered under it last, and that requests are answered as before unless they ask for
something that has been registered.  What is registered under an alias is never asked for.
-/

namespace SchemaQuery

open Catalog (answer)

/-- An operator to be registered under a name, perhaps for some data types only. -/
structure Registration where
  name : String
  operator : Operator
  dataTypes : Option (List DataType) := none

def Registration.Fits (registration : Registration) (dataType : DataType) : Prop :=
  ∀ allowed, registration.dataTypes = some allowed → dataType ∈ allowed

namespace Operators

def registerAll (operators : Operators) (registrations : List Registration) : Operators :=
  registrations.foldl
    (fun known added => known.register added.name added.operator added.dataTypes) operators

def nameFor (asked : String) : String :=
  (aliases.get? asked).getD asked

theorem canonical?_eq_ite (operators : Operators) (asked : String) :
    operators.canonical? asked =
      if operators.builders.contains (nameFor asked) then some (nameFor asked) else none :=
  rfl

theorem canonical?_eq_some {operators : Operators} {asked name : String} :
    operators.canonical? asked = some name ↔
      nameFor asked = name ∧ operators.builders.contains name = true := by
  rw [canonical?_eq_ite, Option.ite_none_right_eq_some, Option.some.injEq]
  constructor
  · rintro ⟨present, rfl⟩
    exact ⟨rfl, present⟩
  · rintro ⟨rfl, present⟩
    exact ⟨present, rfl⟩

/-- Aliases stand for names that are no aliases themselves. -/
theorem get?_aliases_nameFor (asked : String) : aliases.get? (nameFor asked) = none := by
  have plain : ∀ entry ∈ aliases, aliases.get? entry.2 = none := by decide
  unfold nameFor
  cases found : aliases.get? asked with
  | none => exact found
  | some name => exact plain _ (Dictionary.mem_of_get? found)

structure AgreeOn (name : String) (first second : Operators) : Prop where
  builder : first.builders.get? name = second.builders.get? name
  restriction : first.restrictions.get? name = second.restrictions.get? name

namespace AgreeOn

variable {name : String} {first second third : Operators}

theorem trans (before : AgreeOn name first second) (behind : AgreeOn name second third) :
    AgreeOn name first third :=
  ⟨before.builder.trans behind.builder, before.restriction.trans behind.restriction⟩

theorem accepts_eq (agree : AgreeOn name first second) :
    first.accepts name = second.accepts name := by
  funext dataType
  unfold accepts
  rw [agree.restriction]

theorem condition_eq (agree : AgreeOn name first second) :
    first.condition name = second.condition name := by
  funext column values
  unfold condition
  rw [agree.builder]

theorem canonical?_eq {asked : String} (agree : AgreeOn (nameFor asked) first second) :
    first.canonical? asked = second.canonical? asked := by
  rw [canonical?_eq_ite, canonical?_eq_ite, Dictionary.contains, Dictionary.contains,
    agree.builder]

end AgreeOn

theorem builders_register (operators : Operators) (name : String) (operator : Operator)
    (dataTypes : Option (List DataType)) :
    (operators.register name operator dataTypes).builders =
      operators.builders.insert name operator :=
  rfl

theorem agreeOn_register (operators : Operators) {name added : String} (other : name ≠ added)
    (operator : Operator) (dataTypes : Option (List DataType)) :
    AgreeOn name (operators.register added operator dataTypes) operators where
  builder := by rw [builders_register, Dictionary.get?_insert, if_neg other]
  restriction := by
    unfold register
    cases dataTypes with
    | none => rw [Dictionary.get?_erase, if_neg other]
    | some allowed => rw [Dictionary.get?_insert, if_neg other]

theorem agreeOn_registerAll (operators : Operators) {name : String}
    {registrations : List Registration} (others : ∀ added ∈ registrations, added.name ≠ name) :
    AgreeOn name (operators.registerAll registrations) operators := by
  induction registrations generalizing operators with
  | nil => exact ⟨rfl, rfl⟩
  | cons first rest hypothesis =>
      obtain ⟨firstOther, restOther⟩ := List.forall_mem_cons.1 others
      exact (hypothesis _ restOther).trans (agreeOn_register _ firstOther.symm _ _)

section Latest

variable (operators : Operators) (before : List Registration) (latest : Registration)
  {behind : List Registration} (isLatest : ∀ later ∈ behind, later.name ≠ latest.name)

include isLatest

/-- Under a name there is what was registered there last, whatever came before. -/
theorem agreeOn_latest :
    AgreeOn latest.name (operators.registerAll (before ++ latest :: behind))
      ((operators.registerAll before).register latest.name latest.operator latest.dataTypes) := by
  rw [registerAll, List.foldl_append, List.foldl_cons]
  exact agreeOn_registerAll _ isLatest

theorem get?_builders_latest :
    (operators.registerAll (before ++ latest :: behind)).builders.get? latest.name =
      some latest.operator := by
  rw [(agreeOn_latest operators before latest isLatest).builder, builders_register,
    Dictionary.get?_insert, if_pos rfl]

theorem condition_latest :
    (operators.registerAll (before ++ latest :: behind)).condition latest.name =
      latest.operator := by
  unfold condition
  rw [get?_builders_latest operators before latest isLatest]

theorem accepts_latest_iff (dataType : DataType) :
    (operators.registerAll (before ++ latest :: behind)).accepts latest.name dataType = true ↔
      latest.Fits dataType := by
  rw [(agreeOn_latest operators before latest isLatest).accepts_eq]
  unfold accepts register Registration.Fits
  cases latest.dataTypes with
  | none => simp
  | some allowed => simp

theorem canonical?_latest (isName : aliases.get? latest.name = none) :
    (operators.registerAll (before ++ latest :: behind)).canonical? latest.name =
      some latest.name := by
  rw [canonical?_eq_some, nameFor, isName, Dictionary.contains,
    get?_builders_latest operators before latest isLatest]
  exact ⟨rfl, rfl⟩

end Latest

end Operators

/-- Requests use what is registered: constraints with its name are resolved to it if it fits the
column, refused otherwise, and put into the condition that it makes. -/
structure Registration.IsUsed (registration : Registration) (registry : Registry) : Prop where
  canonical : registry.operators.canonical? registration.name = some registration.name
  accepts : ∀ dataType, registry.operators.accepts registration.name dataType = true ↔
    registration.Fits dataType
  resolved : ∀ (querystring : Dictionary (List Value)) path (target : ResolvedPath) values,
    registration.Fits target.leaf.dataType →
      Filter.resolveConstraint registry querystring path target ⟨registration.name, values⟩ = do
        let typed ← (Filter.rawValues ⟨registration.name, values⟩).mapM
          (Filter.resolveValue registry querystring target registration.name)
        Filter.counted path registration.name typed.flatten
  refused : ∀ (querystring : Dictionary (List Value)) path (target : ResolvedPath) values,
    ¬registration.Fits target.leaf.dataType →
      Filter.resolveConstraint registry querystring path target ⟨registration.name, values⟩ =
        .error (.refused (.matchUnfit registration.name path target.leaf.dataType))
  condition : ∀ column values,
    registry.operators.condition registration.name column values =
      registration.operator column values

theorem Registration.isUsed_of_latest (registry : Registry) (before : List Registration)
    (latest : Registration) {behind : List Registration}
    (isLatest : ∀ later ∈ behind, later.name ≠ latest.name)
    (isName : Operators.aliases.get? latest.name = none) :
    latest.IsUsed { registry with
      operators := registry.operators.registerAll (before ++ latest :: behind) } := by
  have known := Operators.canonical?_latest registry.operators before latest isLatest isName
  have accepts := Operators.accepts_latest_iff registry.operators before latest isLatest
  refine ⟨known, accepts, ?_, ?_, ?_⟩
  · intro querystring path target values fits
    rw [Filter.resolveConstraint_of_canonical known, (accepts _).2 fits]
    rfl
  · intro querystring path target values unfit
    rw [Filter.resolveConstraint_of_canonical known, Bool.eq_false_iff.2 (mt (accepts _).1 unfit)]
    rfl
  · intro column values
    dsimp only
    rw [Operators.condition_latest registry.operators before latest isLatest]

open Operators (AgreeOn nameFor)

def Arguments.AsksFor (sortKey : String) (arguments : Arguments) (asked : String) : Prop :=
  ∃ argument ∈ arguments, argument.1 ≠ sortKey ∧
    ∃ pair ∈ argument.2, pair.1 ≠ Filter.combinationKey ∧ pair.1 = asked

section Agreeing

variable {first second : Operators}

theorem Filter.constraintsFor_congr {asked : String} (agree : AgreeOn (nameFor asked) first second)
    (values : List Value) :
    constraintsFor first asked values = constraintsFor second asked values := by
  unfold constraintsFor Operators.takesSeveral
  rw [agree.canonical?_eq]

theorem Filter.parse_congr (path : String) {pairs : Dictionary (List Value)}
    (agree : ∀ pair ∈ pairs, pair.1 ≠ combinationKey → AgreeOn (nameFor pair.1) first second) :
    parse first path pairs = parse second path pairs := by
  unfold parse
  congr 1
  apply List.flatMap_congr
  intro pair isPair
  obtain ⟨isPair, isMatch⟩ := List.mem_filter.1 isPair
  exact constraintsFor_congr (agree pair isPair (bne_iff_ne.1 isMatch)) pair.2

variable {sortKey : String} {arguments : Arguments}

theorem Arguments.filters_congr
    (agree : ∀ asked, arguments.AsksFor sortKey asked → AgreeOn (nameFor asked) first second) :
    arguments.filters first sortKey = arguments.filters second sortKey := by
  unfold filters
  apply List.map_congr_left
  intro argument isArgument
  obtain ⟨isArgument, isFilter⟩ := List.mem_filter.1 isArgument
  apply Filter.parse_congr
  intro pair isPair isMatch
  exact agree _ ⟨argument, isArgument, bne_iff_ne.1 isFilter, pair, isPair, isMatch, rfl⟩

theorem Arguments.asksFor_of_mem_filters {operators : Operators} {filter : Filter}
    (isFilter : filter ∈ arguments.filters operators sortKey) {constraint : Constraint}
    (isConstraint : constraint ∈ filter.constraints) :
    arguments.AsksFor sortKey constraint.operator := by
  obtain ⟨argument, isArgument, rfl⟩ := List.mem_map.1 isFilter
  obtain ⟨isArgument, notSorts⟩ := List.mem_filter.1 isArgument
  obtain ⟨pair, isPair, isMade⟩ := List.mem_flatMap.1 isConstraint
  obtain ⟨isPair, isMatch⟩ := List.mem_filter.1 isPair
  exact ⟨argument, isArgument, bne_iff_ne.1 notSorts, pair, isPair, bne_iff_ne.1 isMatch,
    (Filter.operator_of_mem_constraintsFor isMade).symm⟩

theorem ResolvedFilter.condition_congr {filter : ResolvedFilter}
    (agree : ∀ constraint ∈ filter.constraints, AgreeOn constraint.operator first second) :
    filter.condition first = filter.condition second := by
  funext column
  unfold condition
  rw [Success.mapM_congr fun constraint isConstraint => by
    rw [(agree constraint isConstraint).condition_eq]]

theorem Listing.build_congr (entity : LoadedEntity) {filters : List ResolvedFilter}
    (agree : ∀ filter ∈ filters, ∀ constraint ∈ filter.constraints,
      AgreeOn constraint.operator first second) :
    build first entity filters = build second entity filters := by
  have same : filterConditions first filters = filterConditions second filters :=
    Success.mapM_congr fun filter isFilter => by
      rw [ResolvedFilter.condition_congr (agree filter isFilter)]
  funext sorts cursor pagination pageSize
  unfold build planned
  rw [same]

end Agreeing

section Resolving

variable {registry other : Registry} (sameCasters : registry.casters = other.casters)
  (querystring : Dictionary (List Value))

include sameCasters

theorem Filter.resolveConstraint_congr (path : String) (target : ResolvedPath)
    {constraint : Constraint}
    (agree : AgreeOn (nameFor constraint.operator) registry.operators other.operators) :
    resolveConstraint registry querystring path target constraint =
      resolveConstraint other querystring path target constraint := by
  have sameName := agree.canonical?_eq
  cases known : other.operators.canonical? constraint.operator with
  | none =>
      unfold resolveConstraint
      rw [sameName, known]
  | some operator =>
      obtain ⟨rfl, _⟩ := Operators.canonical?_eq_some.1 known
      have sameValues : resolveValue registry querystring target =
          resolveValue other querystring target := by
        funext operator raw
        unfold resolveValue castOperand
        rw [sameCasters]
      rw [resolveConstraint_of_canonical (sameName.trans known),
        resolveConstraint_of_canonical known, agree.accepts_eq, sameValues]

theorem Filter.resolveAll_congr (entity : LoadedEntity) {filters : List Filter}
    (agree : ∀ filter ∈ filters, ∀ constraint ∈ filter.constraints,
      AgreeOn (nameFor constraint.operator) registry.operators other.operators) :
    resolveAll registry querystring entity filters =
      resolveAll other querystring entity filters := by
  apply Success.mapM_congr
  intro filter isFilter
  have sameConstraints (target : ResolvedPath) :
      filter.constraints.mapM (resolveConstraint registry querystring filter.path target) =
        filter.constraints.mapM (resolveConstraint other querystring filter.path target) :=
    Success.mapM_congr fun constraint isConstraint =>
      resolveConstraint_congr sameCasters querystring filter.path target
        (agree filter isFilter constraint isConstraint)
  simp only [resolve, sameConstraints]

end Resolving

/-- The operators of filters that have been resolved are those that were asked for. -/
theorem Filter.nameFor_of_resolveAll {registry : Registry} {querystring : Dictionary (List Value)}
    {entity : LoadedEntity} {filters : List Filter} {catalog : Catalog}
    {resolved : List ResolvedFilter}
    (made : answer (resolveAll registry querystring entity filters) catalog = .ok resolved)
    {good : ResolvedFilter} (isGood : good ∈ resolved) {typed : ResolvedConstraint}
    (isTyped : typed ∈ good.constraints) :
    ∃ filter ∈ filters, ∃ constraint ∈ filter.constraints,
      nameFor constraint.operator = typed.operator := by
  rw [answer_resolveAll] at made
  obtain ⟨filter, isFilter, filterMade⟩ := Success.exists_of_mem_mapM made isGood
  obtain ⟨_, _, constraintsMade⟩ := resolve_parts filterMade
  obtain ⟨constraint, isConstraint, constraintMade⟩ :=
    Success.exists_of_mem_mapM constraintsMade isTyped
  obtain ⟨known, _⟩ := resolveConstraint_eq_ok.1 constraintMade
  exact ⟨filter, isFilter, constraint, isConstraint, (Operators.canonical?_eq_some.1 known).1⟩

namespace QueryService

def registering (service : QueryService) (registrations : List Registration) : QueryService :=
  { service with
    registry :=
      { service.registry with
        operators := service.registry.operators.registerAll registrations } }

section Asking

variable {service : QueryService} {registrations : List Registration} {request : ListRequest}
  (agree : ∀ asked, request.arguments.AsksFor service.settings.sortKey asked →
    AgreeOn (nameFor asked) (service.registering registrations).registry.operators
      service.registry.operators)

include agree

/-- A request that asks for nothing registered is put into the same statement. -/
theorem answer_buildOn_registering (entity : LoadedEntity) (catalog : Catalog) :
    answer ((service.registering registrations).buildOn request entity) catalog =
      answer (service.buildOn request entity) catalog := by
  let later := service.registering registrations
  have sameFilters : later.askedFilters request = service.askedFilters request :=
    Arguments.filters_congr agree
  have agreeOn : ∀ filter ∈ service.askedFilters request, ∀ constraint ∈ filter.constraints,
      AgreeOn (nameFor constraint.operator) later.registry.operators
        service.registry.operators :=
    fun _ isFilter _ isConstraint =>
      agree _ (Arguments.asksFor_of_mem_filters isFilter isConstraint)
  have sameCasters : later.registry.casters = service.registry.casters := rfl
  have sameResolved := Filter.resolveAll_congr sameCasters request.querystring entity agreeOn
  unfold askedFilters at sameFilters agreeOn sameResolved
  rw [answer_buildOn, answer_buildOn, sameFilters, sameResolved]
  cases made : answer (Filter.resolveAll service.registry request.querystring entity
      (request.arguments.filters service.registry.operators service.settings.sortKey)) catalog with
  | error failure => rfl
  | ok filters =>
      have sameBuilt : Listing.build later.registry.operators entity filters =
          Listing.build service.registry.operators entity filters := by
        apply Listing.build_congr entity
        intro good isGood typed isTyped
        obtain ⟨filter, isFilter, constraint, isConstraint, named⟩ :=
          Filter.nameFor_of_resolveAll made isGood isTyped
        exact named ▸ agreeOn filter isFilter constraint isConstraint
      dsimp only [bind, Except.bind]
      rw [sameBuilt]
      rfl

theorem answer_build_registering (catalog : Catalog) :
    answer ((service.registering registrations).build request) catalog =
      answer (service.build request) catalog := by
  have sameOn : (fun entity =>
        answer ((service.registering registrations).buildOn request entity) catalog) =
      fun entity => answer (service.buildOn request entity) catalog :=
    funext fun entity => answer_buildOn_registering agree entity catalog
  rw [answer_build, answer_build, sameOn]

end Asking

/-- What is registered under a name is used if that is no alias and nothing else is registered there
later. Requests that ask for nothing registered are answered as before. -/
theorem latest_registration_is_used_iff (service : QueryService)
    (registrations : List Registration) :
    let registry := (service.registering registrations).registry
    (∀ before latest behind, registrations = before ++ latest :: behind →
      (∀ later ∈ behind, later.name ≠ latest.name) →
        (latest.IsUsed registry ↔ Operators.aliases.get? latest.name = none) ∧
        ((∃ asked, registry.operators.canonical? asked = some latest.name) ↔
          Operators.aliases.get? latest.name = none)) ∧
    ∀ request : ListRequest,
      (∀ asked, request.arguments.AsksFor service.settings.sortKey asked →
        ∀ added ∈ registrations,
          added.name ≠ asked ∧ Operators.aliases.get? asked ≠ some added.name) →
      ∀ catalog, answer ((service.registering registrations).build request) catalog =
        answer (service.build request) catalog := by
  intro registry
  constructor
  · rintro before latest behind rfl isLatest
    have used := Registration.isUsed_of_latest service.registry before latest isLatest
    have isName {asked : String}
        (reached : registry.operators.canonical? asked = some latest.name) :
        Operators.aliases.get? latest.name = none := by
      rw [← (Operators.canonical?_eq_some.1 reached).1]
      exact Operators.get?_aliases_nameFor asked
    exact ⟨⟨fun isUsed => isName isUsed.canonical, used⟩,
      fun ⟨_, reached⟩ => isName reached, fun plain => ⟨_, (used plain).canonical⟩⟩
  · intro request apart
    apply answer_build_registering
    intro asked asksFor
    apply Operators.agreeOn_registerAll
    intro added isAdded
    obtain ⟨notName, notAlias⟩ := apart asked asksFor added isAdded
    unfold nameFor
    cases found : Operators.aliases.get? asked with
    | none => exact notName
    | some name => exact fun same => notAlias (by rw [found, same]; rfl)

def matching : Registration where
  name := "matches"
  operator := .like
  dataTypes := some Operators.textTypes

def holding : Registration where
  name := "matches"
  operator := .holding .anywhere

def equalling : Registration where
  name := "equals"
  operator := .holding .anywhere

/-- Of three operators only the last is used, and switches are found as before. -/
theorem holding_is_used :
    let service : QueryService := {}
    let later := service.registering [matching, equalling, holding]
    holding.IsUsed later.registry ∧
      ¬equalling.IsUsed later.registry ∧
      ∃ listing, answer (service.build (askingSwitches "id" "neq" "1")) switches = .ok listing ∧
        answer (later.build (askingSwitches "id" "neq" "1")) switches = .ok listing := by
  intro service later
  obtain ⟨used, alike⟩ := latest_registration_is_used_iff service [matching, equalling, holding]
  refine ⟨?_, ?_, ?_⟩
  · exact (used [matching, equalling] holding [] rfl nofun).1.2 rfl
  · have noAlias := (used [matching] equalling [holding] rfl (by simp [holding, equalling])).1
    exact fun isUsed => absurd (noAlias.1 isUsed) (by decide)
  · have succeeds :
        (answer (service.build (askingSwitches "id" "neq" "1")) switches).isOk = true := by
      decide +kernel
    have same := alike (askingSwitches "id" "neq" "1") ?_ switches
    · cases made : answer (service.build (askingSwitches "id" "neq" "1")) switches with
      | error failure => simp [made, Except.isOk, Except.toBool] at succeeds
      | ok listing => exact ⟨listing, rfl, same.trans made⟩
    · rintro asked ⟨argument, isArgument, _, pair, isPair, _, rfl⟩
      obtain rfl := List.mem_singleton.1 isArgument
      obtain rfl := List.mem_singleton.1 isPair
      decide

end QueryService

end SchemaQuery
