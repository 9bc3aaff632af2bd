import SchemaQuery.Proofs.LoadedTree
import SchemaQuery.Proofs.PlainWalk

/-!
# A catalog with a history

Whoever uses a catalog reads entities, loads, verifies, saves and deletes them, drops what is
cached, and lets time pass.  All of it may change the cache: reading fills it, and looks at
entries that have meanwhile expired.  This file compares a catalog with a plain dictionary of
entities that knows no cache and no time, through any sequence of such operations.  Each
operation keeps the cached snapshot, if there is one, equal to the entities of the dictionary,
so a catalog answers throughout what the dictionary does.
-/

namespace SchemaQuery

theorem Store.find?_toList {store : Store} (keyed : store.KeyedByName) (name : String) :
    (store.toList.find? fun candidate => candidate.name == name) = store.entities.get? name := by
  obtain ⟨entities, reads⟩ := store
  unfold toList KeyedByName at *
  dsimp only at keyed ⊢
  induction entities with
  | nil => rfl
  | cons entry rest hypothesis =>
      obtain ⟨here, later⟩ := List.forall_mem_cons.1 keyed
      obtain ⟨key, stored⟩ := entry
      dsimp only at here
      unfold Dictionary.get? at hypothesis ⊢
      rw [List.map_cons, List.find?_cons, List.lookup_cons, hypothesis later, here]
      by_cases same : name = key
      · simp [same]
      · rw [beq_eq_false_iff_ne.2 same, beq_eq_false_iff_ne.2 (Ne.symm same)]

namespace Catalog

variable {ε ε' α β : Type}

/-- Whether work leaves a catalog with a property as one with that property. -/
def Keeps (property : Catalog → Prop) (work : CatalogM ε α) : Prop :=
  ∀ catalog, property catalog → property (after work catalog)

namespace Keeps

variable {property : Catalog → Prop}

theorem pure (value : α) : Keeps property (Pure.pure value : CatalogM ε α) :=
  fun _ holds => holds

theorem throw (failure : ε) : Keeps property (MonadExcept.throw failure : CatalogM ε α) :=
  fun _ holds => holds

theorem bind {work : CatalogM ε α} {next : α → CatalogM ε β} (first : Keeps property work)
    (second : ∀ value, Keeps property (next value)) : Keeps property (work >>= next) := by
  intro catalog holds
  rw [after_bind]
  cases answer work catalog with
  | error failure => exact first catalog holds
  | ok value => exact second value _ (first catalog holds)

theorem adapt {work : CatalogM ε α} (keeps : Keeps property work) (change : ε → ε') :
    Keeps property (ExceptT.adapt change work) :=
  keeps

theorem forM {work : α → CatalogM ε PUnit} (each : ∀ item, Keeps property (work item))
    (items : List α) : Keeps property (items.forM work) := by
  induction items with
  | nil => exact pure _
  | cons item rest hypothesis => exact bind (each item) fun _ => hypothesis

section Reading

variable (reads : ∀ name, Keeps property (entity name))

include reads

theorem expandLookup (member : LoadedAttribute) : Keeps property (expandLookup member) := by
  unfold Catalog.expandLookup
  split
  · exact pure member
  · split
    · exact throw _
    · exact bind ((reads _).adapt _) fun _ => pure _

theorem expandJunction {expandTarget : Expansion}
    (targets : ∀ entity visited, Keeps property (expandTarget entity visited)) (owner : String)
    (member : LoadedAttribute) (visited : List String) :
    Keeps property (expandJunction expandTarget owner member visited) := by
  unfold Catalog.expandJunction
  split
  · exact pure _
  · split
    · exact throw _
    · dsimp only
      split
      · exact pure _
      · exact bind ((reads _).adapt _) fun _ => bind (targets _ _) fun _ => pure _

theorem expandAttributes {expandTarget : Expansion}
    (targets : ∀ entity visited, Keeps property (expandTarget entity visited)) (owner : String)
    (members : List LoadedAttribute) (visited : List String) :
    Keeps property (expandAttributes expandTarget owner members visited) := by
  induction members generalizing visited with
  | nil => exact pure _
  | cons member rest hypothesis =>
      have first : Keeps property (expandAttribute expandTarget owner member visited) := by
        unfold expandAttribute
        split
        · exact bind (expandLookup reads member) fun _ => pure _
        · exact expandJunction reads targets owner member visited
        · exact pure _
      exact bind first fun expanded => bind (hypothesis _) fun _ => pure _

theorem expandWithin (depth : Nat) (entity : LoadedEntity) (visited : List String) :
    Keeps property (expandWithin depth entity visited) := by
  induction depth generalizing entity visited with
  | zero => exact pure _
  | succ depth hypothesis =>
      exact bind (expandAttributes reads hypothesis _ _ _) fun _ => pure _

theorem loadedEntity (name : String) : Keeps property (loadedEntity name) := by
  apply bind (reads name)
  intro stored catalog holds
  have expands := expandWithin reads (depthBound catalog stored.load) stored.load []
  exact bind expands (fun _ => pure _) catalog holds

theorem verify (candidate : StoredEntity) : Keeps property (verify candidate) := by
  unfold Catalog.verify
  split
  · exact throw _
  · apply forM
    intro member
    unfold verifyAttribute
    split
    · split
      · exact throw _
      · split
        · exact pure _
        · exact bind ((reads _).adapt _) fun _ => pure _
    · exact pure _

end Reading

end Keeps

theorem consults_verify (candidate : StoredEntity) : Consults (verify candidate) := by
  unfold verify
  split
  · exact Consults.throw _
  · induction candidate.attributes with
    | nil => exact Consults.pure _
    | cons member rest hypothesis =>
        exact Consults.bind (consults_verifyAttribute candidate member) fun _ => hypothesis

def holding (entities : Dictionary StoredEntity) : Catalog :=
  { store := { entities } }

def definedIn (entities : Dictionary StoredEntity) : Definitions := fun name =>
  if Text.isBlankText name then .error .entityNameMissing
  else
    match entities.get? name with
    | some found => .ok found
    | none => .error (.entityUnknown name)

/-- Whether a catalog has stored just these entities, and cached no other snapshot. -/
structure Holds (cacheKey : String) (entities : Dictionary StoredEntity) (catalog : Catalog) :
    Prop where
  keyed : catalog.store.KeyedByName
  stored : catalog.store.entities = entities
  keeping : catalog.cacheKey = cacheKey
  cached : ∀ entry, catalog.cache.entries.get? cacheKey = some entry →
    entry.value = entities.map Prod.snd

namespace Holds

variable {cacheKey : String} {entities : Dictionary StoredEntity} {catalog : Catalog}

theorem toList_eq (holds : catalog.Holds cacheKey entities) :
    catalog.store.toList = entities.map Prod.snd := by
  unfold Store.toList
  rw [holds.stored]

theorem snapshot_eq (holds : catalog.Holds cacheKey entities) :
    (snapshot catalog).1 = entities.map Prod.snd := by
  rw [snapshot_fst, holds.keeping]
  cases probed : (catalog.cache.probe cacheKey).1 with
  | none => exact holds.toList_eq
  | some value =>
      obtain ⟨entry, found, rfl⟩ := Cache.exists_entry_of_probe (Prod.ext probed rfl)
      exact holds.cached entry found

theorem definitions_eq (holds : catalog.Holds cacheKey entities) :
    catalog.definitions = definedIn entities := by
  funext name
  rw [Catalog.definitions_eq, holds.snapshot_eq, ← holds.toList_eq,
    Store.find?_toList holds.keyed, holds.stored]
  unfold definedIn
  cases entities.get? name <;> rfl

theorem untouched (holds : catalog.Holds cacheKey entities) :
    (holding entities).Holds "" entities where
  keyed := fun entry member => holds.keyed entry (by rw [holds.stored]; exact member)
  stored := rfl
  keeping := rfl
  cached := fun entry found => by simp [holding, Dictionary.get?] at found

/-- Work that consults definitions answers what it does where nothing has happened. -/
theorem answer_eq (holds : catalog.Holds cacheKey entities) {work : CatalogM ε α}
    (consults : Consults work) :
    answer work catalog = answer work (holding entities) :=
  consults.answers (holds.definitions_eq.trans holds.untouched.definitions_eq.symm)

theorem settle (holds : catalog.Holds cacheKey entities) :
    catalog.settle.Holds cacheKey entities := by
  obtain ⟨keyed, stored, rfl, cached⟩ := holds
  unfold Catalog.settle snapshot
  rcases catalog.cache.probe_cases catalog.cacheKey with ⟨value, found⟩ | absent
  · rw [found]
    exact ⟨keyed, stored, rfl, cached⟩
  · rw [absent]
    refine ⟨keyed, stored, rfl, ?_⟩
    intro entry found
    simp only [Store.all, Cache.fill, Dictionary.get?_insert, if_true, Option.some.injEq] at found
    rw [← found, ← stored]
    rfl

theorem entity (name : String) : Keeps (Holds cacheKey entities) (entity name) := by
  intro catalog holds
  unfold Catalog.entity
  split
  · exact holds
  · rw [after_step]
    have settled : (snapshot catalog).2.Holds cacheKey entities := holds.settle
    cases (snapshot catalog).1.find? fun candidate => candidate.name == name with
    | some found => exact settled
    | none =>
        have read : (readStore name (snapshot catalog).2).2.Holds cacheKey entities :=
          ⟨settled.keyed, settled.stored, settled.keeping, settled.cached⟩
        dsimp only
        rw [after_step]
        cases (readStore name (snapshot catalog).2).1 <;> exact read

/-- Whatever happens to the store, there is no snapshot once it has been dropped. -/
theorem drop {store : Store} (keyed : store.KeyedByName) (keeping : catalog.cacheKey = cacheKey) :
    Holds cacheKey store.entities
      { catalog with store, cache := catalog.cache.remove catalog.cacheKey } where
  keyed := keyed
  stored := rfl
  keeping := keeping
  cached entry found := by simp [Cache.remove, keeping] at found

theorem forget (holds : catalog.Holds cacheKey entities) (key : String) :
    Holds cacheKey entities { catalog with cache := catalog.cache.remove key } where
  keyed := holds.keyed
  stored := holds.stored
  keeping := holds.keeping
  cached entry found := by
    simp only [Cache.remove, Dictionary.get?_erase] at found
    split at found
    · simp at found
    · exact holds.cached entry found

end Holds

inductive Operation where
  | snapshot
  | entity (name : String)
  | loadedEntity (name : String)
  | verify (candidate : StoredEntity)
  | save (candidate : StoredEntity)
  | delete (name : String)
  | forget (key : String)
  | wait (time : Int)

inductive Reply where
  | entities (snapshot : List StoredEntity)
  | entity (result : Except Refusal StoredEntity)
  | loadedEntity (result : Except Refusal LoadedEntity)
  | verified (result : Except Refusal Unit)
  | saved (result : Except Refusal StoredEntity)
  | deleted (present : Bool)
  | done

namespace Operation

def onCatalog : Operation → StateM Catalog Reply
  | snapshot => Reply.entities <$> Catalog.snapshot
  | entity name => Reply.entity <$> (Catalog.entity name).run
  | loadedEntity name => Reply.loadedEntity <$> (Catalog.loadedEntity name).run
  | verify candidate => Reply.verified <$> (Catalog.verify candidate).run
  | save candidate => Reply.saved <$> (Catalog.save candidate).run
  | delete name => Reply.deleted <$> Catalog.delete name
  | forget key => do
      modify fun catalog => { catalog with cache := catalog.cache.remove key }
      return .done
  | wait time => do
      modify fun catalog => { catalog with cache := catalog.cache.advance time }
      return .done

/-- Performs an operation on a dictionary, which only saves and deletions change. -/
def onDictionary : Operation → StateM (Dictionary StoredEntity) Reply
  | snapshot, entities => (.entities (entities.map Prod.snd), entities)
  | entity name, entities => (.entity (definedIn entities name), entities)
  | loadedEntity name, entities =>
      (.loadedEntity (answer (Catalog.loadedEntity name) (holding entities)), entities)
  | verify candidate, entities =>
      (.verified (answer (Catalog.verify candidate) (holding entities)), entities)
  | save candidate, entities =>
      let completed := candidate.withDefaultAttributes
      match answer (Catalog.verify completed) (holding entities) with
      | .ok _ => (.saved (.ok completed), entities.insert completed.name completed)
      | .error refusal => (.saved (.error refusal), entities)
  | delete name, entities => (.deleted (entities.contains name), entities.erase name)
  | forget _, entities => (.done, entities)
  | wait _, entities => (.done, entities)

end Operation

theorem Holds.onCatalog_save {cacheKey : String} {entities : Dictionary StoredEntity}
    {catalog : Catalog} (holds : catalog.Holds cacheKey entities) (candidate : StoredEntity) :
    ((Operation.save candidate).onCatalog catalog).1 =
        ((Operation.save candidate).onDictionary entities).1 ∧
      ((Operation.save candidate).onCatalog catalog).2.Holds cacheKey
        ((Operation.save candidate).onDictionary entities).2 := by
  have verified := holds.answer_eq (consults_verify candidate.withDefaultAttributes)
  have behind := Keeps.verify Holds.entity candidate.withDefaultAttributes catalog holds
  change Reply.saved (answer (save candidate) catalog) = _ ∧
    (after (save candidate) catalog).Holds cacheKey _
  unfold save Operation.onDictionary
  dsimp only
  rw [answer_bind, after_bind, ← verified]
  cases answer (verify candidate.withDefaultAttributes) catalog with
  | error refusal => exact ⟨rfl, behind⟩
  | ok _ =>
      refine ⟨rfl, ?_⟩
      rw [← behind.stored]
      exact Holds.drop (Store.keyedByName_save behind.keyed _) behind.keeping

/-- Each operation answers on a catalog what it does on the dictionary that the catalog holds. -/
theorem Holds.onCatalog {cacheKey : String} {entities : Dictionary StoredEntity}
    {catalog : Catalog} (holds : catalog.Holds cacheKey entities) (operation : Operation) :
    (operation.onCatalog catalog).1 = (operation.onDictionary entities).1 ∧
      (operation.onCatalog catalog).2.Holds cacheKey (operation.onDictionary entities).2 := by
  cases operation with
  | snapshot => exact ⟨congrArg Reply.entities holds.snapshot_eq, holds.settle⟩
  | entity name =>
      exact ⟨congrArg Reply.entity (congrFun holds.definitions_eq name), Holds.entity name _ holds⟩
  | loadedEntity name =>
      have loaded := holds.answer_eq (consults_loadedEntity name)
      exact ⟨congrArg Reply.loadedEntity loaded, Keeps.loadedEntity Holds.entity name _ holds⟩
  | verify candidate =>
      have verified := holds.answer_eq (consults_verify candidate)
      exact ⟨congrArg Reply.verified verified, Keeps.verify Holds.entity candidate _ holds⟩
  | save candidate => exact holds.onCatalog_save candidate
  | delete name =>
      obtain ⟨keyed, rfl, keeping, _⟩ := holds
      exact ⟨rfl, Holds.drop (Store.keyedByName_delete keyed name) keeping⟩
  | forget key => exact ⟨rfl, holds.forget key⟩
  | wait time => exact ⟨rfl, holds.keyed, holds.stored, holds.keeping, holds.cached⟩

/-- A catalog and the dictionary that it holds answer the same throughout a history. -/
theorem Holds.mapM_onCatalog {cacheKey : String} {entities : Dictionary StoredEntity}
    {catalog : Catalog} (holds : catalog.Holds cacheKey entities) (history : List Operation) :
    (history.mapM Operation.onCatalog catalog).1 =
        (history.mapM Operation.onDictionary entities).1 ∧
      (history.mapM Operation.onCatalog catalog).2.Holds cacheKey
        (history.mapM Operation.onDictionary entities).2 := by
  induction history generalizing catalog entities with
  | nil => exact ⟨rfl, holds⟩
  | cons first rest hypothesis =>
      obtain ⟨here, behind⟩ := holds.onCatalog first
      obtain ⟨later, held⟩ := hypothesis behind
      rw [Success.mapM_cons_apply, Success.mapM_cons_apply, here, later]
      exact ⟨rfl, held⟩

def opened (entities : List StoredEntity) (lifetime : Option Int) (clock : Int)
    (cacheKey : String) : Catalog where
  store := .ofEntities entities
  cache := { lifetime, clock }
  cacheKey := cacheKey

theorem holds_opened (entities : List StoredEntity) (lifetime : Option Int) (clock : Int)
    (cacheKey : String) :
    Holds cacheKey (Store.ofEntities entities).entities
      (opened entities lifetime clock cacheKey) where
  keyed := Store.keyedByName_ofEntities entities
  stored := rfl
  keeping := rfl
  cached entry found := by simp [opened, Dictionary.get?] at found

theorem Holds.entity_eq {cacheKey : String} {entities : Dictionary StoredEntity}
    {catalog : Catalog} (holds : catalog.Holds cacheKey entities) {name : String}
    (named : Text.isBlankText name = false) :
    (answer (Catalog.entity name) catalog).mapError Refusal.kind =
      match entities.get? name with
      | some found => .ok found
      | none => .error .notFound := by
  have defined : answer (Catalog.entity name) catalog = definedIn entities name :=
    congrFun holds.definitions_eq name
  rw [defined, definedIn, named, if_neg Bool.false_ne_true]
  cases entities.get? name <;> rfl

theorem Holds.save_refused {cacheKey : String} {entities : Dictionary StoredEntity}
    {catalog : Catalog} (holds : catalog.Holds cacheKey entities) {candidate : StoredEntity}
    {refusal : Refusal} (refused : answer (save candidate) catalog = .error refusal) :
    (after (save candidate) catalog).Holds cacheKey entities := by
  obtain ⟨replied, behind⟩ := holds.onCatalog_save candidate
  change Reply.saved (answer (save candidate) catalog) = _ at replied
  rw [refused] at replied
  unfold Operation.onDictionary at replied behind
  dsimp only at replied behind
  cases verified : answer (verify candidate.withDefaultAttributes) (holding entities) with
  | ok _ => simp [verified] at replied
  | error _ =>
      rw [verified] at behind
      exact behind

/-- Through any history of operations and for any lifetime of its cache, a catalog answers what a
plain dictionary does that only successful saves and deletions change. -/
theorem history_follows_dictionary (entities : List StoredEntity) (lifetime : Option Int)
    (clock : Int) (cacheKey : String) (history : List Operation) :
    let start := opened entities lifetime clock cacheKey
    let catalog := (history.mapM Operation.onCatalog start).2
    let dictionary := (history.mapM Operation.onDictionary start.store.entities).2
    (history.mapM Operation.onCatalog start).1 =
        (history.mapM Operation.onDictionary start.store.entities).1 ∧
      catalog.store.entities = dictionary ∧
      (∀ entry, catalog.cache.entries.get? cacheKey = some entry →
        entry.value = catalog.store.toList) ∧
      (snapshot catalog).1 = dictionary.map Prod.snd ∧
      (∀ name, Text.isBlankText name = false →
        (answer (entity name) catalog).mapError Refusal.kind =
          match dictionary.get? name with
          | some found => .ok found
          | none => .error .notFound) ∧
      ∀ candidate refusal, answer (save candidate) catalog = .error refusal →
        (after (save candidate) catalog).store.entities = dictionary ∧
        ∀ later : List Operation,
          (later.mapM Operation.onCatalog (after (save candidate) catalog)).1 =
            (later.mapM Operation.onCatalog catalog).1 := by
  intro start catalog dictionary
  have initially : start.Holds cacheKey start.store.entities :=
    holds_opened entities lifetime clock cacheKey
  obtain ⟨replies, holds⟩ := initially.mapM_onCatalog history
  refine ⟨replies, holds.stored, ?_, holds.snapshot_eq, fun name => holds.entity_eq, ?_⟩
  · intro entry found
    rw [holds.cached entry found, holds.toList_eq]
  · intro candidate refusal refused
    have unchanged := holds.save_refused refused
    refine ⟨unchanged.stored, fun later => ?_⟩
    rw [(unchanged.mapM_onCatalog later).1, (holds.mapM_onCatalog later).1]

/-- A catalog of users that has not been read for longer than its cache lasts. -/
def neglected : Catalog :=
  (([.snapshot, .wait 120] : List Operation).mapM Operation.onCatalog
    (opened [user] (some 60) 0 "schema")).2

/-- Posts are refused as long as there are no tags, and nobody notices. -/
theorem neglected_refuses_posts :
    answer (save post) neglected = .error (.targetUnknown "Tag") ∧
      (after (save post) neglected).store.entities = neglected.store.entities ∧
      ∀ later : List Operation,
        (later.mapM Operation.onCatalog (after (save post) neglected)).1 =
          (later.mapM Operation.onCatalog neglected).1 := by
  obtain ⟨_, stored, _, _, _, unchanged⟩ :=
    history_follows_dictionary [user] (some 60) 0 "schema" [.snapshot, .wait 120]
  have refused : answer (save post) neglected = .error (.targetUnknown "Tag") := by rfl
  obtain ⟨storedBehind, later⟩ := unchanged post _ refused
  exact ⟨refused, storedBehind.trans stored.symm, later⟩

end Catalog
end SchemaQuery
