import SchemaQuery.Proofs.CatalogWork
import SchemaQuery.Proofs.DictionaryEntries

/-!
# What a catalog defines

A catalog answers for each name which entity it defines, from its snapshot or from its store.
Reading may take a snapshot and counts reads, but it never changes what is defined.  Work that
consults nothing but definitions answers the same on all catalogs that define the same, so it
can be taken apart as if it had no state at all.
-/

namespace SchemaQuery

namespace Cache

variable {α : Type}

theorem probe_cases (cache : Cache α) (key : String) :
    (∃ value, cache.probe key = (some value, cache)) ∨
      cache.probe key = (none, cache.remove key) := by
  unfold probe
  cases found : cache.entries.get? key with
  | none =>
      have absent : key ∉ cache.entries.map Prod.fst := by
        rw [← Dictionary.contains_eq_true_iff, Dictionary.contains, found]
        simp
      right
      unfold remove
      rw [Dictionary.erase_of_not_mem absent]
  | some entry =>
      dsimp only
      split
      · exact Or.inl ⟨entry.value, rfl⟩
      · exact Or.inr rfl

theorem exists_entry_of_probe {cache rest : Cache α} {key : String} {value : α}
    (found : cache.probe key = (some value, rest)) :
    ∃ entry, cache.entries.get? key = some entry ∧ entry.value = value := by
  unfold probe at found
  cases present : cache.entries.get? key with
  | none => simp [present] at found
  | some entry =>
      rw [present] at found
      dsimp only at found
      split at found
      · exact ⟨entry, rfl, Option.some.inj (Prod.mk.inj found).1⟩
      · simp at found

theorem probe_fill_cases (cache : Cache α) (key : String) (value : α) :
    ((cache.fill key value).probe key).1 = some value ∨
      ((cache.fill key value).probe key).1 = none := by
  have found : (cache.fill key value).entries.get? key = some ⟨cache.clock, value⟩ := by
    simp [fill]
  unfold probe
  rw [found]
  dsimp only
  split
  · exact Or.inl rfl
  · exact Or.inr rfl

end Cache

namespace Catalog

variable {ε ε' α β : Type}

/-- What is answered for the names of entities. -/
abbrev Definitions := String → Except Refusal StoredEntity

def definitions (catalog : Catalog) : Definitions :=
  fun name => answer (entity name) catalog

theorem snapshot_fst (catalog : Catalog) :
    (snapshot catalog).1 =
      (catalog.cache.probe catalog.cacheKey).1.getD catalog.store.toList := by
  unfold snapshot
  split
  · rename_i probed
    rw [probed]
    rfl
  · rename_i probed
    rw [probed]
    rfl

def settle (catalog : Catalog) : Catalog :=
  (snapshot catalog).2

theorem entities_settle (catalog : Catalog) :
    catalog.settle.store.entities = catalog.store.entities := by
  unfold settle snapshot
  split <;> rfl

/-- The second snapshot is like the first, be it cached or taken again. -/
theorem snapshot_settle (catalog : Catalog) :
    (snapshot catalog.settle).1 = (snapshot catalog).1 := by
  rcases catalog.cache.probe_cases catalog.cacheKey with ⟨entities, found⟩ | absent
  · have kept : snapshot catalog = (entities, catalog) := by
      unfold snapshot
      rw [found]
    unfold settle
    rw [kept, kept]
  · have taken : snapshot catalog =
        (catalog.store.toList,
          { catalog with
            store := { catalog.store with reads := catalog.store.reads + 1 }
            cache := (catalog.cache.remove catalog.cacheKey).fill catalog.cacheKey
              catalog.store.toList }) := by
      unfold snapshot
      rw [absent]
      rfl
    unfold settle
    rw [taken, snapshot_fst]
    dsimp only
    rcases Cache.probe_fill_cases (catalog.cache.remove catalog.cacheKey) catalog.cacheKey
      catalog.store.toList with cached | stale
    · rw [cached]
      rfl
    · rw [stale]
      rfl

/-- A step that never fails is followed by the rest of the work. -/
theorem answer_step (step : StateM Catalog α) (next : α → CatalogM ε β) (catalog : Catalog) :
    answer ((liftM step : CatalogM ε α) >>= next) catalog =
      answer (next (step catalog).1) (step catalog).2 :=
  rfl

theorem after_step (step : StateM Catalog α) (next : α → CatalogM ε β) (catalog : Catalog) :
    after ((liftM step : CatalogM ε α) >>= next) catalog =
      after (next (step catalog).1) (step catalog).2 :=
  rfl

theorem definitions_eq (catalog : Catalog) (name : String) :
    catalog.definitions name =
      if Text.isBlankText name then .error .entityNameMissing
      else
        match (snapshot catalog).1.find? fun candidate => candidate.name == name with
        | some found => .ok found
        | none =>
            match catalog.store.entities.get? name with
            | some found => .ok found
            | none => .error (.entityUnknown name) := by
  unfold definitions entity
  split
  · rfl
  · rw [answer_step]
    cases (snapshot catalog).1.find? fun candidate => candidate.name == name with
    | some found => rfl
    | none =>
        dsimp only
        rw [answer_step, ← entities_settle]
        unfold readStore Store.get?
        change answer (match catalog.settle.store.entities.get? name with
          | some found => _
          | none => _) _ = _
        cases catalog.settle.store.entities.get? name <;> rfl

theorem definitions_congr {first second : Catalog}
    (snapshots : (snapshot second).1 = (snapshot first).1)
    (entities : second.store.entities = first.store.entities) :
    second.definitions = first.definitions := by
  funext name
  rw [definitions_eq, definitions_eq, snapshots, entities]

theorem definitions_settle (catalog : Catalog) :
    catalog.settle.definitions = catalog.definitions :=
  definitions_congr catalog.snapshot_settle catalog.entities_settle

theorem definitions_readStore (name : String) (catalog : Catalog) :
    (readStore name catalog).2.definitions = catalog.definitions := by
  have snapshots : (snapshot (readStore name catalog).2).1 = (snapshot catalog).1 := by
    rw [snapshot_fst, snapshot_fst]
    rfl
  exact definitions_congr snapshots rfl

/-- Work that answers by what a catalog defines alone, and leaves that as it is. -/
structure Consults (work : CatalogM ε α) : Prop where
  answers : ∀ {first second : Catalog}, second.definitions = first.definitions →
    answer work second = answer work first
  keeps : ∀ catalog : Catalog, (after work catalog).definitions = catalog.definitions

theorem consults_entity (name : String) : Consults (entity name) where
  answers same := congrFun same name
  keeps catalog := by
    unfold entity
    split
    · rfl
    · rw [after_step]
      cases (snapshot catalog).1.find? fun candidate => candidate.name == name with
      | some found => exact catalog.definitions_settle
      | none =>
          dsimp only
          rw [after_step]
          have kept := (definitions_readStore name catalog.settle).trans catalog.definitions_settle
          cases (readStore name (snapshot catalog).2).1 <;> exact kept

namespace Consults

theorem pure (value : α) : Consults (Pure.pure value : CatalogM ε α) where
  answers _ := rfl
  keeps _ := rfl

theorem throw (failure : ε) : Consults (throw failure : CatalogM ε α) where
  answers _ := rfl
  keeps _ := rfl

/-- Work that consults definitions makes no difference to other such work. -/
theorem answer_after {work : CatalogM ε α} {other : CatalogM ε' β} (first : Consults work)
    (second : Consults other) (catalog : Catalog) :
    answer other (after work catalog) = answer other catalog :=
  second.answers (first.keeps catalog)

/-- Steps that consult definitions are as good as without a state. -/
theorem answer_bind {work : CatalogM ε α} {next : α → CatalogM ε β} (first : Consults work)
    (second : ∀ value, Consults (next value)) (catalog : Catalog) :
    answer (work >>= next) catalog =
      answer work catalog >>= fun value => answer (next value) catalog := by
  rw [Catalog.answer_bind]
  cases answer work catalog with
  | error failure => rfl
  | ok value => exact first.answer_after (second value) catalog

theorem bind {work : CatalogM ε α} {next : α → CatalogM ε β} (first : Consults work)
    (second : ∀ value, Consults (next value)) : Consults (work >>= next) where
  answers same := by
    have later := fun value => (second value).answers same
    simp only [first.answer_bind second, first.answers same, later]
  keeps catalog := by
    rw [after_bind]
    cases answer work catalog with
    | error failure => exact first.keeps catalog
    | ok value => exact ((second value).keeps _).trans (first.keeps catalog)

theorem guarded {condition : Prop} [Decidable condition] (failure : ε) {next : CatalogM ε α}
    (consults : Consults next) :
    Consults (if condition then (MonadExcept.throw failure : CatalogM ε PUnit) >>= fun _ => next
      else next) := by
  split
  · exact bind (throw failure) fun _ => consults
  · exact consults

theorem adapt {work : CatalogM ε α} (consults : Consults work) (change : ε → ε') :
    Consults (ExceptT.adapt change work) where
  answers same := by rw [answer_adapt, answer_adapt, consults.answers same]
  keeps catalog := consults.keeps catalog

theorem mapM {work : α → CatalogM ε β} (each : ∀ item, Consults (work item))
    (items : List α) : Consults (items.mapM work) := by
  induction items with
  | nil => exact pure []
  | cons item rest hypothesis =>
      rw [List.mapM_cons]
      exact bind (each item) fun _ => bind hypothesis fun _ => pure _

theorem answer_mapM {work : α → CatalogM ε β} (each : ∀ item, Consults (work item))
    (items : List α) (catalog : Catalog) :
    answer (items.mapM work) catalog = items.mapM fun item => answer (work item) catalog := by
  induction items with
  | nil => rfl
  | cons item rest hypothesis =>
      rw [List.mapM_cons, List.mapM_cons,
        (each item).answer_bind fun _ => bind (mapM each rest) fun _ => pure _]
      congr 1
      funext value
      rw [(mapM each rest).answer_bind fun _ => pure _, hypothesis]
      rfl

/-- Where steps for each item succeed together, each of them succeeds. -/
theorem answer_of_forM {work : α → CatalogM ε PUnit} (each : ∀ item, Consults (work item))
    {items : List α} {catalog : Catalog} (made : answer (items.forM work) catalog = .ok ⟨⟩) :
    ∀ item ∈ items, answer (work item) catalog = .ok ⟨⟩ := by
  induction items generalizing catalog with
  | nil => exact fun _ member => absurd member List.not_mem_nil
  | cons item rest hypothesis =>
      obtain ⟨_, first, others⟩ :=
        (answer_bind_eq_ok catalog (work item) (fun _ => rest.forM work) _).1 made
      intro other member
      rcases List.mem_cons.1 member with rfl | later
      · exact first
      · rw [← (each item).answer_after (each other)]
        exact hypothesis others other later

end Consults

end Catalog
end SchemaQuery
