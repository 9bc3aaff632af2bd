import Mathlib.Data.List.Forall2
import SchemaQuery.Failure

/-!
# When work succeeds

Work in several steps succeeds if each step does, with what the ones before it
have answered.  This file takes such work apart into its steps.  Where work does
not succeed, it is refused or faulted, and it is faulted if one of its steps is.
-/

namespace SchemaQuery
namespace Success

variable {σ ε ε' α α' β β' : Type}

@[simp]
theorem bind_eq_ok (work : Except ε α) (next : α → Except ε β) (result : β) :
    (work >>= next) = .ok result ↔ ∃ value, work = .ok value ∧ next value = .ok result := by
  cases work <;> simp [bind, Except.bind]

@[simp]
theorem pure_eq_ok (value result : α) :
    (pure value : Except ε α) = .ok result ↔ value = result := by
  simp [pure, Except.pure]

@[simp]
theorem throw_ne_ok (failure : ε) (result : α) :
    (throw failure : Except ε α) = .ok result ↔ False := by
  simp [throw, throwThe, MonadExceptOf.throw]

theorem guarded_eq_ok {condition : Prop} [Decidable condition] (failure : ε)
    {next : Except ε α} {result : α} :
    (if condition then (throw failure : Except ε PUnit) >>= fun _ => next else next) =
      .ok result ↔ ¬condition ∧ next = .ok result := by
  split
  · simp [*]
  · simp [*]

@[simp]
theorem mapError_eq_ok (change : ε → ε') (work : Except ε α) (result : α) :
    work.mapError change = .ok result ↔ work = .ok result := by
  cases work with
  | error failure =>
      change (Except.error (change failure) : Except ε' α) = .ok result ↔ _
      simp
  | ok value =>
      change (Except.ok value : Except ε' α) = .ok result ↔ _
      simp

theorem map_eq_ok {change : α → β} {work : Except ε α} {result : β} :
    work.map change = .ok result ↔ ∃ value, work = .ok value ∧ change value = result := by
  cases work <;> simp [Except.map]

@[simp]
theorem run_bind_eq_ok (work : StateT σ (Except ε) α) (next : α → StateT σ (Except ε) β)
    (state : σ) (result : β × σ) :
    (work >>= next).run state = .ok result ↔
      ∃ value between, work.run state = .ok (value, between) ∧
        (next value).run between = .ok result := by
  rw [StateT.run_bind, bind_eq_ok]
  simp

@[simp]
theorem run_lift_eq_ok (work : Except ε α) (state : σ) (result : α × σ) :
    (liftM work : StateT σ (Except ε) α).run state = .ok result ↔
      ∃ value, work = .ok value ∧ (value, state) = result := by
  cases work with
  | error failure => exact ⟨nofun, nofun⟩
  | ok value =>
      change Except.ok (value, state) = .ok result ↔ _
      simp

@[simp]
theorem run_throw_ne_ok (failure : ε) (state : σ) (result : α × σ) :
    (throw failure : StateT σ (Except ε) α).run state = .ok result ↔ False :=
  ⟨nofun, nofun⟩

/-- Work in two steps does not fail in some way if neither step does. -/
theorem bind_ne_error {work : Except ε α} {next : α → Except ε β} {failure : ε}
    (first : work ≠ .error failure) (second : ∀ value, next value ≠ .error failure) :
    (work >>= next) ≠ .error failure := by
  cases work with
  | error other => exact fun same => first (congrArg Except.error (Except.error.inj same))
  | ok value => exact second value

theorem mapM_cons_eq_ok (work : α → Except ε β) (item : α) (rest : List α) (results : List β) :
    (item :: rest).mapM work = .ok results ↔
      ∃ result others, work item = .ok result ∧ rest.mapM work = .ok others ∧
        result :: others = results := by
  simp only [List.mapM_cons, bind_eq_ok, pure_eq_ok]
  constructor
  · rintro ⟨result, made, others, othersMade, same⟩
    exact ⟨result, others, made, othersMade, same⟩
  · rintro ⟨result, others, made, othersMade, same⟩
    exact ⟨result, made, others, othersMade, same⟩

theorem exists_of_mem_mapM {work : α → Except ε β} {items : List α} {results : List β}
    (made : items.mapM work = .ok results) {result : β} (member : result ∈ results) :
    ∃ item ∈ items, work item = .ok result := by
  induction items generalizing results with
  | nil =>
      obtain rfl := Except.ok.inj made
      exact absurd member List.not_mem_nil
  | cons item rest hypothesis =>
      obtain ⟨first, others, firstMade, othersMade, rfl⟩ := (mapM_cons_eq_ok _ _ _ _).1 made
      rcases List.mem_cons.1 member with rfl | later
      · exact ⟨item, List.mem_cons_self, firstMade⟩
      · obtain ⟨origin, originMember, originMade⟩ := hypothesis othersMade later
        exact ⟨origin, List.mem_cons_of_mem item originMember, originMade⟩

theorem exists_mapM {work : α → Except ε β} {items : List α}
    (each : ∀ item ∈ items, ∃ result, work item = .ok result) :
    ∃ results, items.mapM work = .ok results := by
  induction items with
  | nil => exact ⟨[], rfl⟩
  | cons item rest hypothesis =>
      obtain ⟨result, made⟩ := each item List.mem_cons_self
      obtain ⟨others, othersMade⟩ := hypothesis fun item member =>
        each item (List.mem_cons_of_mem _ member)
      exact ⟨result :: others, (mapM_cons_eq_ok _ _ _ _).2 ⟨result, others, made, othersMade, rfl⟩⟩

theorem ne_nil_of_mapM {work : α → Except ε β} {items : List α} {results : List β}
    (made : items.mapM work = .ok results) (someItems : items ≠ []) : results ≠ [] := by
  cases items with
  | nil => exact absurd rfl someItems
  | cons item rest =>
      obtain ⟨result, others, _, _, rfl⟩ := (mapM_cons_eq_ok _ _ _ _).1 made
      exact List.cons_ne_nil _ _

theorem exists_of_ok_mapM {work : α → Except ε β} {items : List α} {results : List β}
    (made : items.mapM work = .ok results) {item : α} (member : item ∈ items) :
    ∃ result, work item = .ok result := by
  induction items generalizing results with
  | nil => exact absurd member List.not_mem_nil
  | cons first rest hypothesis =>
      obtain ⟨result, others, firstMade, othersMade, _⟩ := (mapM_cons_eq_ok _ _ _ _).1 made
      rcases List.mem_cons.1 member with rfl | later
      · exact ⟨result, firstMade⟩
      · exact hypothesis othersMade later

theorem forall₂_of_mapM {work : α → Except ε β} {items : List α} {results : List β}
    (made : items.mapM work = .ok results) :
    List.Forall₂ (fun item result => work item = .ok result) items results := by
  induction items generalizing results with
  | nil =>
      obtain rfl := Except.ok.inj made
      exact .nil
  | cons item rest hypothesis =>
      obtain ⟨result, others, firstMade, othersMade, rfl⟩ := (mapM_cons_eq_ok _ _ _ _).1 made
      exact .cons firstMade (hypothesis othersMade)

theorem mapM_eq_ok_iff {work : α → Except ε β} {items : List α} {results : List β} :
    items.mapM work = .ok results ↔
      List.Forall₂ (fun item result => work item = .ok result) items results := by
  refine ⟨forall₂_of_mapM, fun each => ?_⟩
  induction each with
  | nil => rfl
  | cons headMade _ hypothesis =>
      exact (mapM_cons_eq_ok _ _ _ _).2 ⟨_, _, headMade, hypothesis, rfl⟩

theorem mapM_cons_eq_error (work : α → Except ε β) (item : α) (rest : List α) (failure : ε) :
    (item :: rest).mapM work = .error failure ↔
      work item = .error failure ∨
        (∃ result, work item = .ok result) ∧ rest.mapM work = .error failure := by
  rw [List.mapM_cons]
  cases work item with
  | error refusal => simp [bind, Except.bind]
  | ok result => cases rest.mapM work <;> simp [bind, Except.bind, pure, Except.pure]

/-- Steps for each item fail as the first one does that fails. -/
theorem mapM_eq_error_iff {work : α → Except ε β} {items : List α} {failure : ε} :
    items.mapM work = .error failure ↔
      ∃ before item behind, items = before ++ item :: behind ∧
        (∀ earlier ∈ before, ∃ result, work earlier = .ok result) ∧
        work item = .error failure := by
  induction items with
  | nil => exact iff_of_false nofun fun ⟨_, _, _, same, _⟩ => absurd same (by simp)
  | cons first rest hypothesis =>
      rw [mapM_cons_eq_error, hypothesis]
      constructor
      · rintro (failed | ⟨firstMade, before, item, behind, rfl, made, failed⟩)
        · exact ⟨[], first, rest, rfl, nofun, failed⟩
        · exact ⟨first :: before, item, behind, rfl,
            List.forall_mem_cons.2 ⟨firstMade, made⟩, failed⟩
      · rintro ⟨_ | ⟨earlier, before⟩, item, behind, same, made, failed⟩
        · obtain ⟨rfl, _⟩ := List.cons.inj same
          exact Or.inl failed
        · obtain ⟨rfl, rfl⟩ := List.cons.inj same
          obtain ⟨firstMade, made⟩ := List.forall_mem_cons.1 made
          exact Or.inr ⟨firstMade, before, item, behind, rfl, made, failed⟩

theorem mapM_congr {m : Type → Type} [Monad m] [LawfulMonad m] {work other : α → m β}
    {items : List α} (same : ∀ item ∈ items, work item = other item) :
    items.mapM work = items.mapM other := by
  induction items with
  | nil => rfl
  | cons item rest hypothesis =>
      rw [List.mapM_cons, List.mapM_cons, same item List.mem_cons_self,
        hypothesis fun later isLater => same later (List.mem_cons_of_mem _ isLater)]

theorem mapM_map_eq {m : Type → Type} [Monad m] [LawfulMonad m] {work : α → m β}
    {change : α → α} {items : List α}
    (same : ∀ item ∈ items, work (change item) = work item) :
    (items.map change).mapM work = items.mapM work := by
  rw [List.mapM_map]
  exact mapM_congr same

/-- Steps that each give a list may be taken one item at a time. -/
theorem mapM_flatMap_eq {work : α → Except ε (List β)} {expand : α → List α} {items : List α}
    (same : ∀ item ∈ items, ((expand item).mapM work).map List.flatten = work item) :
    ((items.flatMap expand).mapM work).map List.flatten =
      (items.mapM work).map List.flatten := by
  induction items with
  | nil => rfl
  | cons item rest hypothesis =>
      have ofRest := hypothesis fun other isOther =>
        same other (List.mem_cons_of_mem _ isOther)
      rw [List.flatMap_cons, List.mapM_append, List.mapM_cons, ← same item List.mem_cons_self]
      cases (expand item).mapM work with
      | error failure => rfl
      | ok lists =>
          cases expanded : (rest.flatMap expand).mapM work <;> cases plain : rest.mapM work <;>
            simp_all [bind, Except.bind, Except.map, pure, Except.pure]

theorem mapM_singletons {work : α → Except ε β} {lists : α → Except ε (List β)} {items : List α}
    (same : ∀ item ∈ items, lists item = (work item).map fun result => [result]) :
    (items.mapM lists).map List.flatten = items.mapM work := by
  induction items with
  | nil => rfl
  | cons item rest hypothesis =>
      have ofRest := hypothesis fun other isOther =>
        same other (List.mem_cons_of_mem _ isOther)
      rw [List.mapM_cons, List.mapM_cons, same item List.mem_cons_self, ← ofRest]
      cases work item with
      | error failure => rfl
      | ok result => cases rest.mapM lists <;> rfl

/-- Work that goes on with a part of what it is given depends on that alone. -/
theorem bind_eq_of_map_eq {work other : Except ε α} {part : α → α'}
    (same : work.map part = other.map part) (next : α' → Except ε β) :
    (work >>= fun value => next (part value)) = (other >>= fun value => next (part value)) := by
  cases work <;> cases other <;> simp_all [bind, Except.bind, Except.map]

/-- Work on items that are alike has outcomes that are alike, if it has for each. -/
theorem forall₂_mapM_of_alike {work : α → Except ε β} {again : α' → Except ε β'}
    {alike : α → α' → Prop} {good : β → β' → Prop} {items : List α} {others : List α'}
    (itemsAlike : List.Forall₂ alike items others)
    (each : ∀ item ∈ items, ∀ ⦃other result resultOther⦄, alike item other →
      work item = .ok result → again other = .ok resultOther → good result resultOther)
    {results : List β} {resultsOther : List β'} (made : items.mapM work = .ok results)
    (otherMade : others.mapM again = .ok resultsOther) :
    List.Forall₂ good results resultsOther := by
  induction itemsAlike generalizing results resultsOther with
  | nil =>
      obtain rfl := Except.ok.inj made
      obtain rfl := Except.ok.inj otherMade
      exact .nil
  | cons headAlike _ hypothesis =>
      obtain ⟨result, rest, headMade, restMade, rfl⟩ := (mapM_cons_eq_ok _ _ _ _).1 made
      obtain ⟨resultOther, restOther, headOtherMade, restOtherMade, rfl⟩ :=
        (mapM_cons_eq_ok _ _ _ _).1 otherMade
      exact .cons (each _ List.mem_cons_self headAlike headMade headOtherMade)
        (hypothesis (fun item isItem => each item (List.mem_cons_of_mem _ isItem)) restMade
          restOtherMade)

theorem mapM_cons_apply {ι ρ : Type} (step : ι → StateM σ ρ) (first : ι) (rest : List ι)
    (state : σ) :
    (first :: rest).mapM step state =
      ((step first state).1 :: (rest.mapM step (step first state).2).1,
        (rest.mapM step (step first state).2).2) := by
  rw [List.mapM_cons]
  rfl

theorem exists_run_of_run_mapM {work : α → StateT σ (Except ε) β} {items : List α} {state : σ}
    {result : List β × σ} (made : (items.mapM work).run state = .ok result) {item : α}
    (member : item ∈ items) : ∃ before behind, (work item).run before = .ok behind := by
  induction items generalizing state result with
  | nil => exact absurd member List.not_mem_nil
  | cons first rest hypothesis =>
      rw [List.mapM_cons, run_bind_eq_ok] at made
      obtain ⟨value, between, firstMade, made⟩ := made
      obtain ⟨others, last, othersMade, _⟩ := (run_bind_eq_ok _ _ _ _).1 made
      rcases List.mem_cons.1 member with rfl | later
      · exact ⟨state, _, firstMade⟩
      · exact hypothesis othersMade later

end Success

section Faults

variable {ε α β : Type}

def Faulted (work : Except Failure α) : Prop :=
  ∃ fault, work = .error (.faulted fault)

@[simp]
theorem not_faulted_pure (value : α) : ¬Faulted (pure value) :=
  fun ⟨_, same⟩ => absurd same nofun

@[simp]
theorem not_faulted_refuse (refusal : Refusal) :
    ¬Faulted (throw (.refused refusal) : Except Failure α) :=
  fun ⟨_, same⟩ => absurd same nofun

@[simp]
theorem not_faulted_mapError (work : Except ε α) (change : ε → Refusal) :
    ¬Faulted (work.mapError fun failure => .refused (change failure)) := by
  cases work with
  | error failure => exact not_faulted_refuse (change failure)
  | ok value => exact not_faulted_pure value

@[simp]
theorem not_faulted_refused (work : Except Refusal α) : ¬Faulted (work.mapError .refused) :=
  not_faulted_mapError work id

theorem faulted_mapError_iff (work : Except Fault α) :
    Faulted (work.mapError .faulted) ↔ ¬∃ value, work = .ok value := by
  cases work with
  | error fault => exact iff_of_true ⟨fault, rfl⟩ fun ⟨_, same⟩ => absurd same nofun
  | ok value => exact iff_of_false (not_faulted_pure value) fun none => none ⟨value, rfl⟩

/-- Work in two steps is faulted if one of the steps is. -/
theorem faulted_bind_iff {work : Except Failure α} {next : α → Except Failure β} :
    Faulted (work >>= next) ↔
      Faulted work ∨ ∃ value, work = .ok value ∧ Faulted (next value) := by
  cases work with
  | error failure =>
      constructor
      · rintro ⟨fault, same⟩
        exact Or.inl ⟨fault, congrArg Except.error (Except.error.inj same)⟩
      · rintro (⟨fault, same⟩ | ⟨value, same, _⟩)
        · exact ⟨fault, congrArg Except.error (Except.error.inj same)⟩
        · exact absurd same nofun
  | ok value =>
      constructor
      · exact fun faulted => Or.inr ⟨value, rfl, faulted⟩
      · rintro (⟨fault, same⟩ | ⟨other, same, faulted⟩)
        · exact absurd same nofun
        · exact Except.ok.inj same ▸ faulted

theorem not_faulted_bind {work : Except Failure α} {next : α → Except Failure β}
    (first : ¬Faulted work) (second : ∀ value, ¬Faulted (next value)) :
    ¬Faulted (work >>= next) := by
  rw [faulted_bind_iff]
  rintro (faulted | ⟨value, _, faulted⟩)
  · exact first faulted
  · exact second value faulted

theorem not_faulted_guarded {condition : Prop} [Decidable condition] (refusal : Refusal)
    {next : Except Failure α} (notFaulted : ¬Faulted next) :
    ¬Faulted (if condition then
      (throw (.refused refusal) : Except Failure PUnit) >>= fun _ => next else next) := by
  split
  · exact not_faulted_bind (not_faulted_refuse refusal) fun _ => notFaulted
  · exact notFaulted

theorem not_faulted_mapM {work : α → Except Failure β} {items : List α}
    (each : ∀ item ∈ items, ¬Faulted (work item)) : ¬Faulted (items.mapM work) := by
  induction items with
  | nil => exact not_faulted_pure []
  | cons item rest hypothesis =>
      rw [List.mapM_cons]
      apply not_faulted_bind (each item List.mem_cons_self)
      intro result
      apply not_faulted_bind
        (hypothesis fun other isOther => each other (List.mem_cons_of_mem _ isOther))
      intro others
      exact not_faulted_pure _

end Faults
end SchemaQuery
