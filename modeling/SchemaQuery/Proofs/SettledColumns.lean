import SchemaQuery.Proofs.TableNames

/-!
# Columns that stay the same

A plan only grows: what it has under a path stays there.  So a path whose column has been asked for
stands for this column from then on, whatever other paths are planned, and asking for it again adds
nothing.  In particular, two sorts of a list that lead the same way are by the same column.
-/

namespace SchemaQuery
namespace Sql

open Success

/-- Whether a plan is for the entity of an earlier one, and has all that this has. -/
structure JoinPlan.Extends (plan later : JoinPlan) : Prop where
  entity : later.entity = plan.entity
  sources : ∀ key source, plan.sources.get? key = some source →
    later.sources.get? key = some source

namespace JoinPlan.Extends

variable {plan between later : JoinPlan}

theorem refl (plan : JoinPlan) : plan.Extends plan where
  entity := rfl
  sources _ _ := id

theorem trans (first : plan.Extends between) (second : between.Extends later) :
    plan.Extends later where
  entity := second.entity.trans first.entity
  sources key source located := second.sources key source (first.sources key source located)

theorem root_eq (grows : plan.Extends later) : later.root = plan.root := by
  unfold root
  rw [grows.entity]

end JoinPlan.Extends

/-- Whether work extends a plan, and would answer the same and do nothing on any plan that extends
the outcome. -/
def Settles {α : Type} (work : JoinM α) (plan : JoinPlan) : Prop :=
  Ensures work plan fun value later => plan.Extends later ∧
    ∀ last, later.Extends last → work.run last = .ok (value, last)

namespace Settles

variable {α β : Type} {plan : JoinPlan}

theorem pure (value : α) : Settles (Pure.pure value) plan :=
  Ensures.pure ⟨.refl plan, fun _ _ => rfl⟩

theorem throw (fault : Fault) : Settles (throw fault : JoinM β) plan :=
  Ensures.throw fault

theorem lift (work : Except Fault α) : Settles (liftM work) plan :=
  Ensures.of_lift fun value made => ⟨.refl plan, fun _ _ =>
    (run_lift_eq_ok _ _ _).2 ⟨value, made, rfl⟩⟩

theorem bind {work : JoinM α} {next : α → JoinM β} (first : Settles work plan)
    (second : ∀ value later, Settles (next value) later) : Settles (work >>= next) plan := by
  refine Ensures.bind first ?_
  rintro value between ⟨grows, again⟩ result later made
  obtain ⟨further, andAgain⟩ := second value between result later made
  refine ⟨grows.trans further, fun last beyond => (run_bind_eq_ok _ _ _ _).2 ?_⟩
  exact ⟨value, last, again last (further.trans beyond), andAgain last beyond⟩

theorem get {next : JoinPlan → JoinM β}
    (same : ∀ last, plan.Extends last → next last = next plan)
    (settles : Settles (next plan) plan) : Settles (MonadState.get >>= next) plan := by
  refine Ensures.get fun value later made => ?_
  obtain ⟨grows, again⟩ := settles value later made
  refine ⟨grows, fun last beyond => ?_⟩
  change (next last).run last = _
  rw [same last (grows.trans beyond)]
  exact again last beyond

/-- Work that files a table under a path, once, is settled. -/
theorem of_filed {work : JoinM Source} (key : String)
    (found : ∀ last source, last.sources.get? key = some source →
      work.run last = .ok (source, last))
    (files : plan.sources.get? key = none → Ensures work plan fun source later =>
      plan.Extends later ∧ later.sources.get? key = some source) :
    Settles work plan := by
  intro source later made
  obtain ⟨grows, filed⟩ : plan.Extends later ∧ later.sources.get? key = some source := by
    cases located : plan.sources.get? key with
    | some present =>
        rw [found plan present located] at made
        obtain ⟨rfl, rfl⟩ := Prod.mk.inj (Except.ok.inj made)
        exact ⟨.refl plan, located⟩
    | none => exact files located source later made
  exact ⟨grows, fun last beyond => found last source (beyond.sources key source filed)⟩

/-- What settled work answers for each item, it would answer on any later plan. -/
theorem mapM {work : α → JoinM β} (each : ∀ item plan, Settles (work item) plan)
    (items : List α) :
    Ensures (items.mapM work) plan fun values later => plan.Extends later ∧
      ∀ last, later.Extends last →
        List.Forall₂ (fun item value => (work item).run last = .ok (value, last)) items values := by
  induction items generalizing plan with
  | nil => exact Ensures.pure ⟨.refl plan, fun _ _ => .nil⟩
  | cons item rest hypothesis =>
      rw [List.mapM_cons]
      refine Ensures.bind (each item plan) ?_
      rintro value between ⟨grows, again⟩
      refine Ensures.bind hypothesis ?_
      rintro others later ⟨further, settled⟩
      refine Ensures.pure ⟨grows.trans further, fun last beyond => ?_⟩
      exact .cons (again last (further.trans beyond)) (settled last beyond)

end Settles

namespace JoinPlan

variable {plan between : JoinPlan}

/-- Joining a table under a new path keeps all that a plan has. -/
theorem ensures_join_filed (grows : plan.Extends between) {path : String}
    (absent : plan.sources.get? path = none) (table : String) (source : Source)
    (column owner : Column) :
    Ensures (join path table source column owner) between fun value later =>
      plan.Extends later ∧ later.sources.get? path = some value := by
  unfold join
  apply Ensures.modify
  refine Ensures.pure ⟨⟨grows.entity, fun key present located => ?_⟩, ?_⟩
  · have differs : key ≠ path := by
      rintro rfl
      rw [absent] at located
      exact nomatch located
    rw [Dictionary.get?_insert, if_neg differs]
    exact grows.sources key present located
  · rw [Dictionary.get?_insert, if_pos rfl]

theorem settles_linkTable (owner : Source) (ownerKey : String) (member : LoadedAttribute)
    (path : String) : Settles (linkTable owner ownerKey member path) plan := by
  apply Settles.of_filed (path ++ junctionSuffix)
  · intro last source located
    unfold linkTable
    refine (run_bind_eq_ok _ _ _ _).2 ⟨last, last, rfl, ?_⟩
    rw [located]
    rfl
  · intro absent
    unfold linkTable
    apply Ensures.get
    dsimp only
    rw [absent]
    cases member.link? with
    | none => exact Ensures.throw _
    | some link =>
        apply Ensures.lift
        intro column _
        apply Ensures.lift
        intro ownerColumn _
        refine Ensures.bind (ensures_join_filed (.refl plan) absent _ _ _ _) ?_
        rintro source later ⟨grows, filed⟩
        apply Ensures.modify
        exact Ensures.pure ⟨⟨grows.entity, grows.sources⟩, filed⟩

theorem settles_targetTable (owner : Source) (ownerKey : String) (member : LoadedAttribute)
    (target : LoadedEntity) (path : String) :
    Settles (targetTable owner ownerKey member target path) plan := by
  apply Settles.of_filed path
  · intro last source located
    unfold targetTable
    refine (run_bind_eq_ok _ _ _ _).2 ⟨last, last, rfl, ?_⟩
    rw [located]
    rfl
  · intro absent
    unfold targetTable
    apply Ensures.get
    dsimp only
    rw [absent]
    apply Ensures.lift
    intro key _
    split
    · apply Ensures.lift
      intro column _
      exact ensures_join_filed (.refl plan) absent _ _ _ _
    · refine Ensures.bind (settles_linkTable owner ownerKey member path) ?_
      rintro linked between ⟨grows, _⟩
      cases member.link? with
      | none => exact Ensures.throw _
      | some link =>
          dsimp only
          apply Ensures.lift
          intro column _
          exact ensures_join_filed grows absent _ _ _ _

theorem settles_follow (owner : Source) (entity : LoadedEntity) (path : String)
    (steps : List LoadedAttribute) : Settles (follow owner entity path steps) plan := by
  induction steps generalizing plan owner entity path with
  | nil => exact Settles.pure _
  | cons step rest hypothesis =>
      unfold follow
      cases step.target? with
      | none => exact Settles.throw _
      | some target =>
          exact Settles.bind (settles_targetTable owner _ step target _)
            fun source later => hypothesis source target _

/-- The column of a path stays the same, and asking again adds nothing. -/
theorem settles_columnFor (resolved : ResolvedPath) : Settles (columnFor resolved) plan := by
  unfold columnFor
  apply Settles.get
  · intro last grows
    rw [grows.root_eq, grows.entity]
  · refine Settles.bind (settles_follow plan.root plan.entity "" resolved.steps) ?_
    rintro ⟨owner, entity, path⟩ between
    dsimp only
    split
    · refine Settles.bind (settles_linkTable owner _ resolved.leaf _) ?_
      intro linked later
      cases resolved.leaf.link? with
      | none => exact Settles.throw _
      | some link => exact Settles.lift _
    · exact Settles.lift _

end JoinPlan
end Sql

namespace Listing

open Sql Success

variable {operators : Operators} {entity : LoadedEntity} {filters : List ResolvedFilter}
  {filtering : List Condition} {sorted : List SortColumn} {plan : JoinPlan}

theorem ensures_sortColumns_settled (sorts : List ResolvedSort) :
    Ensures (sortColumns sorts) plan fun sorted later => plan.Extends later ∧
      ∀ column ∈ sorted, ∀ last, later.Extends last →
        (JoinPlan.columnFor column.sort.target).run last = .ok (column.column, last) := by
  intro sorted later made
  have settles (sort : ResolvedSort) (plan : JoinPlan) :
      Settles (do return SortColumn.mk sort (← JoinPlan.columnFor sort.target)) plan :=
    Settles.bind (JoinPlan.settles_columnFor sort.target) fun _ _ => Settles.pure _
  obtain ⟨grows, settled⟩ := Settles.mapM settles sorts sorted later made
  refine ⟨grows, fun column isColumn last beyond => ?_⟩
  obtain ⟨index, inSorted, rfl⟩ := List.getElem_of_mem isColumn
  have again := (settled last beyond).get ((settled last beyond).length_eq ▸ inSorted) inSorted
  rw [run_bind_eq_ok] at again
  obtain ⟨found, _, again, answered⟩ := again
  rw [StateT.run_pure, pure_eq_ok] at answered
  obtain ⟨same, rfl⟩ := Prod.mk.inj answered
  change _ = sorted[index] at same
  rw [← same]
  exact again

/-- Each sort of a planned list is by the column of its path in the whole plan. -/
theorem columnFor_of_planned {sorts : List ResolvedSort}
    (planned : (Listing.planned operators filters sorts).run { entity } =
      .ok ((filtering, sorted), plan)) :
    ∀ column ∈ sorted,
      (JoinPlan.columnFor column.sort.target).run plan = .ok (column.column, plan) := by
  simp only [Listing.planned, run_bind_eq_ok, StateT.run_pure, pure_eq_ok, Prod.mk.injEq]
    at planned
  obtain ⟨_, between, _, _, _, sortedMade, ⟨rfl, rfl⟩, rfl⟩ := planned
  obtain ⟨_, settled⟩ := ensures_sortColumns_settled sorts _ _ sortedMade
  exact fun column isColumn => settled column isColumn _ (.refl _)

theorem column_eq_of_planned {sorts : List ResolvedSort}
    (planned : (Listing.planned operators filters sorts).run { entity } =
      .ok ((filtering, sorted), plan))
    {one other : SortColumn} (isOne : one ∈ sorted) (isOther : other ∈ sorted)
    (same : one.sort.target = other.sort.target) : one.column = other.column := by
  have oneMade := columnFor_of_planned planned one isOne
  have otherMade := columnFor_of_planned planned other isOther
  rw [same, otherMade] at oneMade
  exact (Prod.mk.inj (Except.ok.inj oneMade)).1.symm

end Listing
end SchemaQuery
