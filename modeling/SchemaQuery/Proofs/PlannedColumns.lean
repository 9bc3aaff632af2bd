import SchemaQuery.Listing
import SchemaQuery.Proofs.Success

/-!
# The columns of a plan

Planning a statement joins tables to that of an entity and never puts another entity in
its place.  So a sort by an attribute of the entity itself is by a column of the entity's
own table, whatever has been joined before.
-/

namespace SchemaQuery

theorem LoadedAttribute.isLoaded_of_link? {member : LoadedAttribute}
    {link : Junction LoadedAttribute} (isJunction : member.dataType = .junction)
    (isLink : member.link? = some link) : member.isLoaded = true := by
  unfold link? at isLink
  unfold isLoaded
  rw [isJunction]
  split at isLink
  · rename_i carries
    rw [carries]
  · simp at isLink

namespace Sql

open Success

theorem Source.eq_of_column {source : Source} {name : String} {column : Column}
    (made : source.column name = .ok column) : column = ⟨source.occurrence, name⟩ := by
  unfold Source.column at made
  split at made
  · exact (Except.ok.inj made).symm
  · simp at made

def KeepsEntity {α : Type} (work : JoinM α) : Prop :=
  ∀ (plan : JoinPlan) (result : α × JoinPlan), work.run plan = .ok result →
    result.2.entity = plan.entity

namespace KeepsEntity

variable {α β : Type}

theorem pure (value : α) : KeepsEntity (Pure.pure value) := by
  intro plan result made
  simp only [StateT.run_pure, pure_eq_ok] at made
  rw [← made]

theorem get : KeepsEntity MonadState.get := by
  intro plan result made
  simp only [StateT.run_get, pure_eq_ok] at made
  rw [← made]

theorem modify {change : JoinPlan → JoinPlan}
    (stays : ∀ plan, (change plan).entity = plan.entity) :
    KeepsEntity (modify change) := by
  intro plan result made
  simp only [StateT.run_modify, pure_eq_ok] at made
  rw [← made]
  exact stays plan

theorem throw (fault : Fault) : KeepsEntity (throw fault : JoinM α) := by
  intro plan result made
  exact ((run_throw_ne_ok _ _ _).1 made).elim

theorem lift (work : Except Fault α) : KeepsEntity (liftM work : JoinM α) := by
  intro plan result made
  obtain ⟨value, _, rfl⟩ := (run_lift_eq_ok _ _ _).1 made
  rfl

theorem bind {work : JoinM α} {next : α → JoinM β} (first : KeepsEntity work)
    (second : ∀ value, KeepsEntity (next value)) : KeepsEntity (work >>= next) := by
  intro plan result made
  obtain ⟨value, between, worked, made⟩ := (run_bind_eq_ok _ _ _ _).1 made
  rw [second value between result made]
  exact first plan _ worked

theorem mapM {work : α → JoinM β} (each : ∀ item, KeepsEntity (work item)) (items : List α) :
    KeepsEntity (items.mapM work) := by
  induction items with
  | nil =>
      rw [List.mapM_nil]
      exact pure []
  | cons item rest hypothesis =>
      rw [List.mapM_cons]
      apply bind (each item)
      intro value
      apply bind hypothesis
      intro others
      exact pure _

end KeepsEntity

namespace JoinPlan

theorem keepsEntity_join (path table : String) (source : Source) (column owner : Column) :
    KeepsEntity (join path table source column owner) := by
  apply KeepsEntity.bind
  · apply KeepsEntity.modify
    intro plan
    rfl
  · intro _
    exact KeepsEntity.pure source

theorem keepsEntity_linkTable (owner : Source) (ownerKey : String) (member : LoadedAttribute)
    (path : String) : KeepsEntity (linkTable owner ownerKey member path) := by
  apply KeepsEntity.bind KeepsEntity.get
  intro plan
  split
  · exact KeepsEntity.pure _
  · split
    · exact KeepsEntity.throw _
    · apply KeepsEntity.bind (KeepsEntity.lift _)
      intro sourceColumn
      apply KeepsEntity.bind (KeepsEntity.lift _)
      intro ownerColumn
      apply KeepsEntity.bind (keepsEntity_join _ _ _ _ _)
      intro source
      apply KeepsEntity.bind
      · apply KeepsEntity.modify
        intro plan
        rfl
      · intro _
        exact KeepsEntity.pure _

theorem keepsEntity_targetTable (owner : Source) (ownerKey : String)
    (member : LoadedAttribute) (target : LoadedEntity) (path : String) :
    KeepsEntity (targetTable owner ownerKey member target path) := by
  apply KeepsEntity.bind KeepsEntity.get
  intro plan
  split
  · exact KeepsEntity.pure _
  · apply KeepsEntity.bind (KeepsEntity.lift _)
    intro key
    split
    · apply KeepsEntity.bind (KeepsEntity.lift _)
      intro ownerColumn
      exact keepsEntity_join _ _ _ _ _
    · apply KeepsEntity.bind (keepsEntity_linkTable _ _ _ _)
      intro linked
      split
      · exact KeepsEntity.throw _
      · apply KeepsEntity.bind (KeepsEntity.lift _)
        intro targetColumn
        exact keepsEntity_join _ _ _ _ _

theorem keepsEntity_follow (owner : Source) (entity : LoadedEntity) (path : String)
    (steps : List LoadedAttribute) : KeepsEntity (follow owner entity path steps) := by
  induction steps generalizing owner entity path with
  | nil => exact KeepsEntity.pure _
  | cons member rest hypothesis =>
      unfold follow
      split
      · exact KeepsEntity.throw _
      · apply KeepsEntity.bind (keepsEntity_targetTable _ _ _ _ _)
        intro source
        exact hypothesis _ _ _

theorem keepsEntity_columnFor (resolved : ResolvedPath) :
    KeepsEntity (columnFor resolved) := by
  apply KeepsEntity.bind KeepsEntity.get
  intro plan
  apply KeepsEntity.bind (keepsEntity_follow _ _ _ _)
  rintro ⟨owner, entity, path⟩
  dsimp only
  split
  · apply KeepsEntity.bind (keepsEntity_linkTable _ _ _ _)
    intro linked
    split
    · exact KeepsEntity.throw _
    · exact KeepsEntity.lift _
  · exact KeepsEntity.lift _

/-- An attribute of the entity itself is a column of the entity's own table. -/
theorem columnFor_local {resolved : ResolvedPath} {plan after : JoinPlan} {column : Column}
    (made : (columnFor resolved).run plan = .ok (column, after))
    (isLocal : resolved.steps = []) (isColumn : resolved.leaf.dataType ≠ .junction) :
    column = ⟨.root plan.entity.tableName, resolved.leaf.field⟩ := by
  unfold columnFor at made
  rw [isLocal] at made
  simp only [follow, run_bind_eq_ok, StateT.run_get, StateT.run_pure, pure_eq_ok,
    Prod.mk.injEq] at made
  obtain ⟨_, _, ⟨rfl, rfl⟩, _, _, ⟨rfl, rfl⟩, made⟩ := made
  rw [if_neg isColumn, run_lift_eq_ok] at made
  obtain ⟨found, made, same⟩ := made
  obtain ⟨rfl, _⟩ := Prod.mk.inj same
  exact Source.eq_of_column made

theorem isLoaded_of_columnFor {resolved : ResolvedPath} {plan : JoinPlan}
    {result : Column × JoinPlan}
    (made : (columnFor resolved).run plan = .ok result)
    (isJunction : resolved.leaf.dataType = .junction) : resolved.leaf.isLoaded = true := by
  cases carried : resolved.leaf.link? with
  | some link => exact LoadedAttribute.isLoaded_of_link? isJunction carried
  | none =>
      unfold columnFor at made
      simp only [run_bind_eq_ok] at made
      obtain ⟨_, _, _, ⟨owner, entity, path⟩, between, _, made⟩ := made
      dsimp only at made
      rw [if_pos isJunction, carried, run_bind_eq_ok] at made
      obtain ⟨_, _, _, refused⟩ := made
      exact ((run_throw_ne_ok _ _ _).1 refused).elim

end JoinPlan

/-- Whether the columns of sorts by the entity's own attributes are in its table. -/
def InOwnTable (entity : LoadedEntity) (sorted : List SortColumn) : Prop :=
  ∀ column ∈ sorted, column.sort.target.steps = [] →
    column.sort.target.leaf.dataType ≠ .junction →
      column.column = ⟨.root entity.tableName, column.sort.target.leaf.field⟩

end Sql

namespace Listing

open Sql Success

theorem keepsEntity_filterConditions (operators : Operators) (filters : List ResolvedFilter) :
    KeepsEntity (filterConditions operators filters) := by
  apply KeepsEntity.mapM
  intro filter
  apply KeepsEntity.bind (JoinPlan.keepsEntity_columnFor _)
  intro column
  exact KeepsEntity.lift _

theorem sortColumns_eq_ok {sorts : List ResolvedSort} {plan after : JoinPlan}
    {sorted : List SortColumn}
    (made : (sortColumns sorts).run plan = .ok (sorted, after)) :
    sorted.map SortColumn.sort = sorts ∧ InOwnTable plan.entity sorted := by
  induction sorts generalizing plan sorted with
  | nil =>
      simp only [sortColumns, List.mapM_nil, StateT.run_pure, pure_eq_ok, Prod.mk.injEq] at made
      obtain ⟨rfl, _⟩ := made
      refine ⟨rfl, ?_⟩
      intro column member
      simp at member
  | cons sort rest hypothesis =>
      simp only [sortColumns, List.mapM_cons, run_bind_eq_ok, StateT.run_pure, pure_eq_ok,
        Prod.mk.injEq] at made
      obtain ⟨_, _, ⟨column, between, found, rfl, rfl⟩, others, _, othersMade, rfl, rfl⟩ := made
      obtain ⟨othersSorts, othersOwn⟩ := hypothesis othersMade
      have sameEntity : between.entity = plan.entity :=
        JoinPlan.keepsEntity_columnFor sort.target plan _ found
      refine ⟨by rw [List.map_cons, othersSorts], ?_⟩
      intro sortColumn member
      rcases List.mem_cons.1 member with rfl | later
      · intro isLocal isColumn
        exact JoinPlan.columnFor_local found isLocal isColumn
      · rw [← sameEntity]
        exact othersOwn sortColumn later

theorem isLoaded_of_sortColumns {sorts : List ResolvedSort} {plan : JoinPlan}
    {result : List SortColumn × JoinPlan}
    (made : (sortColumns sorts).run plan = .ok result) {sort : ResolvedSort}
    (member : sort ∈ sorts) (isJunction : sort.target.leaf.dataType = .junction) :
    sort.target.leaf.isLoaded = true := by
  obtain ⟨_, _, sortMade⟩ := exists_run_of_run_mapM made member
  obtain ⟨_, _, found, _⟩ := (run_bind_eq_ok _ _ _ _).1 sortMade
  exact JoinPlan.isLoaded_of_columnFor found isJunction

theorem isLoaded_of_planned {operators : Operators} {filters : List ResolvedFilter}
    {sorts : List ResolvedSort} {plan : JoinPlan}
    {result : (List Condition × List SortColumn) × JoinPlan}
    (made : (planned operators filters sorts).run plan = .ok result) {sort : ResolvedSort}
    (member : sort ∈ sorts) (isJunction : sort.target.leaf.dataType = .junction) :
    sort.target.leaf.isLoaded = true := by
  simp only [planned, run_bind_eq_ok] at made
  obtain ⟨_, _, _, _, _, sortedMade, _⟩ := made
  exact isLoaded_of_sortColumns sortedMade member isJunction

theorem planned_eq_ok {operators : Operators} {entity : LoadedEntity}
    {filters : List ResolvedFilter} {sorts : List ResolvedSort} {filtering : List Condition}
    {sorted : List SortColumn} {plan : JoinPlan}
    (made : (planned operators filters sorts).run { entity } = .ok ((filtering, sorted), plan)) :
    sorted.map SortColumn.sort = sorts ∧ InOwnTable entity sorted := by
  simp only [planned, run_bind_eq_ok, StateT.run_pure, pure_eq_ok, Prod.mk.injEq] at made
  obtain ⟨_, between, filteringMade, _, _, sortedMade, ⟨rfl, rfl⟩, rfl⟩ := made
  have sameEntity : between.entity = entity :=
    keepsEntity_filterConditions operators filters _ _ filteringMade
  rw [← sameEntity]
  exact sortColumns_eq_ok sortedMade

end Listing
end SchemaQuery
