import SchemaQuery.Proofs.JoinedTables

/-!
# Planning lists

Paths that have been resolved can be planned, and so can the primary key, unless it is an
unexpanded junction, which has no column.  This file tells what the plan of a list consists of: the
joins of all its paths, a condition for each filter on its column, and the column of each sort.
-/

namespace SchemaQuery
namespace Sql

open Catalog (Definitions EndsAt IsFieldPath)

/-- A primary key that is a junction has been declared. -/
theorem find?_primaryKey_of_isJunction {entity : LoadedEntity}
    (isJunction : entity.primaryKeyAttribute.dataType = .junction) :
    entity.find? entity.primaryKey = some entity.primaryKeyAttribute := by
  unfold Entity.primaryKeyAttribute at isJunction ⊢
  cases located : entity.find? entity.primaryKey with
  | none => simp [located] at isJunction
  | some declared => rfl

theorem find?_declared_of_isJunction {entity : LoadedEntity}
    (isJunction : entity.primaryKeyAttribute.dataType = .junction) :
    entity.declared.find? entity.primaryKey =
      some entity.primaryKeyAttribute.toAttribute := by
  rw [Catalog.find?_declared, find?_primaryKey_of_isJunction isJunction, Option.map_some]

theorem isFieldPath_of_apart {known : Definitions} (apart : known.Apart) {entity : LoadedEntity}
    (faithful : Catalog.Faithful known entity)
    (isJunction : entity.primaryKeyAttribute.dataType = .junction) :
    IsFieldPath entity.primaryKey := by
  obtain ⟨name, found⟩ := faithful.defined
  exact apart.keyIsPath found (find?_declared_of_isJunction isJunction) isJunction

section Planning

variable {catalog : Catalog} {entity : LoadedEntity}
  (faithful : Catalog.Faithful catalog.definitions entity)
  (keyed : catalog.store.KeyedByName)

include faithful keyed

theorem plannable_of_resolvePath {path : String} {target : ResolvedPath}
    (made : Catalog.answer (Catalog.resolvePath entity path) catalog = .ok target) :
    Plannable catalog.definitions entity target := by
  obtain ⟨segments, noneBlank, last, passes, endsAt⟩ :=
    Catalog.passes_of_resolvePath keyed faithful made
  have isField : ∀ field ∈ target.steps.map (·.field) ++ [target.leaf.field],
      IsFieldPath field := by
    rw [← segments]
    exact fun field isSegment =>
      Catalog.isFieldPath_of_mem_pathSegments isSegment (noneBlank field isSegment)
  refine ⟨last, passes, ?_, ?_, ?_⟩
  · intro step isStep
    exact isField _ (List.mem_append_left _ (List.mem_map_of_mem isStep))
  · exact field_mem_tableColumns endsAt.located
  · exact fun _ => ⟨isField _ (by simp), endsAt⟩

/-- A primary key that is an expanded junction leads on. -/
theorem endsAt_primaryKey (isJunction : entity.primaryKeyAttribute.dataType = .junction)
    (ready : entity.primaryKeyAttribute.isLoaded = true) :
    EndsAt catalog.definitions entity entity.primaryKeyAttribute where
  located := by
    rw [Entity.field_primaryKeyAttribute, find?_declared_of_isJunction isJunction]
  leadsOn _ :=
    faithful.exists_leadsTo (Catalog.named_definitions keyed)
      (Entity.mem_of_find? (find?_primaryKey_of_isJunction isJunction))
      (by rw [isJunction]; rfl) ready

/-- The primary key can be planned, unless it is an unexpanded junction or no path. -/
theorem plannable_toPrimaryKey
    (isPath : entity.primaryKeyAttribute.dataType = .junction → IsFieldPath entity.primaryKey)
    (ready : entity.primaryKeyAttribute.dataType = .junction →
      entity.primaryKeyAttribute.isLoaded = true) :
    Plannable catalog.definitions entity (.toPrimaryKey entity) := by
  have named := Entity.field_primaryKeyAttribute entity
  refine ⟨entity, .here entity, nofun, ?_, ?_⟩
  · intro _
    change entity.primaryKeyAttribute.field ∈ _
    rw [named]
    exact primaryKey_mem_tableColumns entity.declared
  · intro isJunction
    change IsFieldPath entity.primaryKeyAttribute.field ∧
      EndsAt catalog.definitions entity entity.primaryKeyAttribute
    change entity.primaryKeyAttribute.dataType = .junction at isJunction
    rw [named]
    exact ⟨isPath isJunction, endsAt_primaryKey faithful keyed isJunction (ready isJunction)⟩

end Planning

end Sql

namespace Listing

open Sql Success
open Catalog (Definitions)

def paths (filters : List ResolvedFilter) (sorts : List ResolvedSort) : List ResolvedPath :=
  filters.map (·.target) ++ sorts.map (·.target)

theorem forall_mem_paths {filters : List ResolvedFilter} {sorts : List ResolvedSort}
    {property : ResolvedPath → Prop} :
    (∀ path ∈ paths filters sorts, property path) ↔
      (∀ filter ∈ filters, property filter.target) ∧ ∀ sort ∈ sorts, property sort.target := by
  unfold paths
  rw [List.forall_mem_append, List.forall_mem_map, List.forall_mem_map]

/-- Filters that can be put into conditions and sorts are planned, if their paths can be. -/
theorem yields_planned {known : Catalog.Definitions} (suffixFree : known.SuffixFree)
    {entity : LoadedEntity} (defined : ∃ name, known name = .ok entity.declared)
    {operators : Operators} {filters : List ResolvedFilter} {sorts : List ResolvedSort}
    (filterPaths : ∀ filter ∈ filters, Plannable known entity filter.target)
    (expressible : ∀ filter ∈ filters, ∃ condition,
      filter.condition operators (filter.target.columnIn entity) = .ok condition)
    (sortPaths : ∀ sort ∈ sorts, Plannable known entity sort.target) :
    Yields (planned operators filters sorts) { entity } fun _ later =>
      later.Consistent known entity := by
  have consistent := JoinPlan.consistent_start known entity
  unfold planned
  apply Yields.bind
  · apply Yields.mapM _ consistent
    intro filter isFilter plan kept
    apply Yields.bind
      (JoinPlan.yields_columnFor suffixFree defined (filterPaths filter isFilter) kept)
    rintro column later ⟨rfl, keptAgain, _⟩
    obtain ⟨condition, placed⟩ := expressible filter isFilter
    exact Yields.of_ok placed keptAgain
  · intro filtering later kept
    apply Yields.bind
    · apply Yields.mapM _ kept
      intro sort isSort plan kept
      apply Yields.bind
        (JoinPlan.yields_columnFor suffixFree defined (sortPaths sort isSort) kept)
      rintro column later ⟨_, keptAgain, _⟩
      exact Yields.pure keptAgain
    · intro sorted last keptAgain
      exact Yields.pure keptAgain

section Planned

variable {known : Definitions} (suffixFree : known.SuffixFree) {entity : LoadedEntity}
  (defined : ∃ name, known name = .ok entity.declared) {plan later : JoinPlan}

include suffixFree defined

theorem filterConditions_spec {operators : Operators} {filters : List ResolvedFilter}
    (plannable : ∀ filter ∈ filters, Plannable known entity filter.target)
    (consistent : plan.Consistent known entity) {filtering : List Condition}
    (made : (filterConditions operators filters).run plan = .ok (filtering, later)) :
    later.Consistent known entity ∧
      JoinPlan.Adds (filters.flatMap fun filter => filter.target.joins entity) plan later ∧
      List.Forall₂ (fun filter condition =>
        filter.condition operators (filter.target.columnIn entity) = .ok condition)
        filters filtering := by
  induction filters generalizing plan filtering with
  | nil =>
      simp only [filterConditions, List.mapM_nil, StateT.run_pure, pure_eq_ok, Prod.mk.injEq]
        at made
      obtain ⟨rfl, rfl⟩ := made
      exact ⟨consistent, .of_subset (List.nil_subset _), .nil⟩
  | cons filter rest hypothesis =>
      simp only [filterConditions, List.mapM_cons, run_bind_eq_ok, StateT.run_pure, pure_eq_ok,
        run_lift_eq_ok, Prod.mk.injEq] at made
      obtain ⟨_, _, ⟨column, between, found, condition, placed, rfl, rfl⟩, others, _, othersMade,
        rfl, rfl⟩ := made
      obtain ⟨rfl, kept, added⟩ := (JoinPlan.yields_columnFor suffixFree defined
        (plannable filter List.mem_cons_self) consistent).of_run found
      obtain ⟨keptThen, addedThen, placedThen⟩ := hypothesis
        (fun other isOther => plannable other (List.mem_cons_of_mem _ isOther)) kept othersMade
      exact ⟨keptThen, added.trans addedThen, .cons placed placedThen⟩

theorem sortColumns_spec {sorts : List ResolvedSort}
    (plannable : ∀ sort ∈ sorts, Plannable known entity sort.target)
    (consistent : plan.Consistent known entity) {sorted : List SortColumn}
    (made : (sortColumns sorts).run plan = .ok (sorted, later)) :
    later.Consistent known entity ∧
      JoinPlan.Adds (sorts.flatMap fun sort => sort.target.joins entity) plan later ∧
      sorted = sorts.map fun sort => { sort, column := sort.target.columnIn entity } := by
  induction sorts generalizing plan sorted with
  | nil =>
      simp only [sortColumns, List.mapM_nil, StateT.run_pure, pure_eq_ok, Prod.mk.injEq] at made
      obtain ⟨rfl, rfl⟩ := made
      exact ⟨consistent, .of_subset (List.nil_subset _), rfl⟩
  | cons sort rest hypothesis =>
      simp only [sortColumns, List.mapM_cons, run_bind_eq_ok, StateT.run_pure, pure_eq_ok,
        Prod.mk.injEq] at made
      obtain ⟨_, _, ⟨column, between, found, rfl, rfl⟩, others, _, othersMade, rfl, rfl⟩ := made
      obtain ⟨rfl, kept, added⟩ := (JoinPlan.yields_columnFor suffixFree defined
        (plannable sort List.mem_cons_self) consistent).of_run found
      obtain ⟨keptThen, addedThen, sortedThen⟩ := hypothesis
        (fun other isOther => plannable other (List.mem_cons_of_mem _ isOther)) kept othersMade
      exact ⟨keptThen, added.trans addedThen, by rw [sortedThen, List.map_cons]⟩

/-- A plan has the joins of all paths, a condition for each filter and a column for each sort. -/
theorem planned_spec {operators : Operators} {filters : List ResolvedFilter}
    {sorts : List ResolvedSort}
    (filterPaths : ∀ filter ∈ filters, Plannable known entity filter.target)
    (sortPaths : ∀ sort ∈ sorts, Plannable known entity sort.target)
    {filtering : List Condition} {sorted : List SortColumn}
    (made : (planned operators filters sorts).run { entity } = .ok ((filtering, sorted), plan)) :
    plan.Consistent known entity ∧
      (∀ join, join ∈ plan.joins ↔
        ∃ path ∈ paths filters sorts, join ∈ path.joins entity) ∧
      List.Forall₂ (fun filter condition =>
        filter.condition operators (filter.target.columnIn entity) = .ok condition)
        filters filtering ∧
      sorted = sorts.map fun sort => { sort, column := sort.target.columnIn entity } := by
  simp only [planned, run_bind_eq_ok, StateT.run_pure, pure_eq_ok, Prod.mk.injEq] at made
  obtain ⟨_, between, filteringMade, _, _, sortedMade, ⟨rfl, rfl⟩, rfl⟩ := made
  obtain ⟨kept, added, placed⟩ := filterConditions_spec suffixFree defined filterPaths
    (JoinPlan.consistent_start known entity) filteringMade
  obtain ⟨keptThen, addedThen, sortedThen⟩ :=
    sortColumns_spec suffixFree defined sortPaths kept sortedMade
  refine ⟨keptThen, fun join => ?_, placed, sortedThen⟩
  rw [(added.trans addedThen) join]
  simp only [paths, List.not_mem_nil, false_or, List.mem_append, List.mem_flatMap, List.mem_map,
    or_and_right, exists_or, exists_exists_and_eq_and]

end Planned

theorem eq_of_mem_sortProjections {sorted : List SortColumn} {taken : List String}
    {projection : Projection} (selected : projection ∈ sortProjections taken sorted) :
    ∃ column ∈ sorted,
      projection = { column := column.column, label := some column.sort.path } := by
  induction sorted generalizing taken with
  | nil => simp [sortProjections] at selected
  | cons first rest hypothesis =>
      unfold sortProjections at selected
      dsimp only at selected
      split at selected
      · obtain ⟨column, isColumn, same⟩ := hypothesis selected
        exact ⟨column, List.mem_cons_of_mem _ isColumn, same⟩
      · rcases List.mem_cons.1 selected with rfl | later
        · exact ⟨first, List.mem_cons_self, rfl⟩
        · obtain ⟨column, isColumn, same⟩ := hypothesis later
          exact ⟨column, List.mem_cons_of_mem _ isColumn, same⟩

/-- What is selected are the entity's own columns, and those of sorts under their paths. -/
theorem eq_of_mem_projections {entity : LoadedEntity} {sorted : List SortColumn}
    {projection : Projection} (selected : projection ∈ projections entity sorted) :
    (∃ name ∈ ownColumns entity, projection = { column := ⟨.root entity.tableName, name⟩ }) ∨
      ∃ column ∈ sorted,
        projection = { column := column.column, label := some column.sort.path } := by
  unfold projections at selected
  rcases List.mem_append.1 selected with own | added
  · obtain ⟨name, isOwn, rfl⟩ := List.mem_map.1 own
    exact Or.inl ⟨name, isOwn, rfl⟩
  · exact Or.inr (eq_of_mem_sortProjections added)

/-- Each selected column is one of the entity's own, or one of a sort. -/
theorem column_of_mem_projections {entity : LoadedEntity} {sorted : List SortColumn}
    {projection : Projection} (selected : projection ∈ projections entity sorted) :
    projection.column.table = .root entity.tableName ∨
      ∃ column ∈ sorted, projection.column = column.column := by
  rcases eq_of_mem_projections selected with ⟨name, _, rfl⟩ | ⟨column, isColumn, rfl⟩
  · exact Or.inl rfl
  · exact Or.inr ⟨column, isColumn, rfl⟩

/-- A planned list without a cursor can be put into a statement. -/
theorem exists_build_of_isEmpty {operators : Operators} {entity : LoadedEntity}
    {filters : List ResolvedFilter} {sorts : List ResolvedSort} {cursor : ResolvedCursor}
    {pagination : Pagination} {size : Int} {filtering : List Condition}
    {sorted : List SortColumn} {plan : JoinPlan}
    (planned : (Listing.planned operators filters sorts).run { entity } =
      .ok ((filtering, sorted), plan))
    (noEdge : cursor.isEmpty = true) (notNegative : 0 ≤ pagination.offset) :
    ∃ listing, Listing.build operators entity filters sorts cursor pagination size =
      .ok listing := by
  unfold Listing.build Listing.conditions Listing.offset
  simp only [planned, noEdge, bind_eq_ok, mapError_eq_ok, Bool.not_true, Bool.false_eq_true,
    if_true, if_false, if_neg (not_lt.2 notNegative)]
  exact ⟨_, _, rfl, _, rfl, _, rfl, rfl⟩

end Listing
end SchemaQuery
