import SchemaQuery.Proofs.CatalogHistory
import SchemaQuery.Proofs.TextForms

/-!
# What saving keeps

An entity is only saved when it has been verified: it has no defect, and its compound attributes
name entities that are stored already, or the entity itself.  This looks one level deep, while
loading follows junctions through the whole schema.  This file proves that loading an entity
succeeds all the same, however often entities have been saved, refused and replaced since the store
was empty, as long as none has been deleted.

What is stored names only what is stored: this is what each operation keeps.  A replaced entity
stays stored under its name, so whatever pointed at it still does.
-/

namespace SchemaQuery

/-- Trimming leaves blank space only where it leaves nothing. -/
theorem Text.isBlankText_trim {text : String} (someText : trim text ≠ "") :
    isBlankText (trim text) = false := by
  rw [← Bool.not_eq_true]
  intro blank
  rw [isBlankText, toList_trim, List.all_eq_true] at blank
  have plain := hasPlainEnds_trimCharacters text.toList
  cases left : trimCharacters text.toList with
  | nil => exact someText (by simp [trim, left])
  | cons first rest =>
      have firstBlank := blank first (by simp [left])
      have notBlank := plain.first first (by simp [left])
      simp [firstBlank] at notBlank

theorem Attribute.isBlankText_of_targetName? {declared : Attribute} {target : String}
    (named : declared.targetName? = some target) : Text.isBlankText target = false := by
  unfold targetName? at named
  split at named
  · dsimp only at named
    split at named
    · simp at named
    · rename_i someText
      obtain rfl := Option.some.inj named
      exact Text.isBlankText_trim someText
  · simp at named

namespace Entity

theorem firstRepeated_eq_none_iff (seen names : List String) :
    defect?.firstRepeated seen names = none ↔ names.Nodup ∧ ∀ name ∈ names, name ∉ seen := by
  induction names generalizing seen with
  | nil => simp [defect?.firstRepeated]
  | cons name rest hypothesis =>
      unfold defect?.firstRepeated
      by_cases repeated : name ∈ seen
      · simp [repeated]
      · rw [if_neg repeated, hypothesis, List.nodup_cons, List.forall_mem_cons]
        simp only [List.mem_cons, not_or]
        constructor
        · rintro ⟨nodup, others⟩
          exact ⟨⟨fun later => (others name later).1 rfl, nodup⟩, repeated,
            fun other isOther => (others other isOther).2⟩
        · rintro ⟨⟨fresh, nodup⟩, _, others⟩
          refine ⟨nodup, fun other isOther => ⟨?_, others other isOther⟩⟩
          rintro rfl
          exact fresh isOther

/-- Whether an entity declares each field once, its primary key and title among them. -/
structure Sound (entity : StoredEntity) : Prop where
  nodup : entity.fields.Nodup
  title : entity.titleAttribute ≠ "" → entity.titleAttribute ∈ entity.fields
  key : entity.primaryKey ∈ entity.fields

theorem find?_eq_none_iff {entity : StoredEntity} {field : String} :
    entity.find? field = none ↔ field ∉ entity.fields := by
  rw [← isSome_find?_iff, Bool.not_eq_true, Option.isSome_eq_false_iff, Option.isNone_iff_eq_none]

theorem sound_of_defect? {entity : StoredEntity} (sound : entity.defect? = none) :
    entity.Sound := by
  unfold defect? at sound
  split at sound
  · simp at sound
  · rename_i noneRepeated
    have nodup := ((firstRepeated_eq_none_iff [] entity.fields).1 noneRepeated).1
    simp only [find?_eq_none_iff] at sound
    split at sound
    · simp at sound
    · rename_i titled
      split at sound
      · simp at sound
      · rename_i keyed
        exact ⟨nodup, fun hasTitle => not_not.1 fun absent => titled ⟨hasTitle, absent⟩,
          not_not.1 keyed⟩

end Entity

namespace Catalog

/-- Whether an entity can be stored: it is sound, and its compound attributes name stored ones. -/
structure Supports (entities : Dictionary StoredEntity) (stored : StoredEntity) : Prop where
  sound : stored.Sound
  targets : ∀ declared ∈ stored.attributes, declared.dataType.isCompound = true →
    ∃ target, declared.targetName? = some target ∧ entities.contains target = true

/-- Whether the compound attributes of all that is stored name entities that are stored. -/
def Complete (entities : Dictionary StoredEntity) : Prop :=
  ∀ entry ∈ entities, ∀ declared ∈ entry.2.attributes, declared.dataType.isCompound = true →
    ∃ target, declared.targetName? = some target ∧ entities.contains target = true

/-- Whether a dictionary has each name once, and supports all that it stores. -/
structure SelfSupporting (entities : Dictionary StoredEntity) : Prop where
  nodup : (entities.map Prod.fst).Nodup
  supports : ∀ entry ∈ entities, Supports entities entry.2

theorem SelfSupporting.complete {entities : Dictionary StoredEntity}
    (selfSupporting : SelfSupporting entities) : Complete entities :=
  fun entry isEntry => (selfSupporting.supports entry isEntry).targets

variable {cacheKey : String} {entities : Dictionary StoredEntity} {catalog : Catalog}

theorem Supports.insert {stored : StoredEntity} (supports : Supports entities stored)
    (name : String) (value : StoredEntity) : Supports (entities.insert name value) stored where
  sound := supports.sound
  targets declared isDeclared isCompound := by
    obtain ⟨target, named, there⟩ := supports.targets declared isDeclared isCompound
    exact ⟨target, named, Dictionary.contains_insert there name value⟩

theorem Holds.name_eq (holds : catalog.Holds cacheKey entities) {name : String}
    {stored : StoredEntity} (isEntry : (name, stored) ∈ entities) : stored.name = name :=
  holds.keyed (name, stored) (holds.stored ▸ isEntry)

theorem Holds.definition_eq_ok_iff (holds : catalog.Holds cacheKey entities) {name : String}
    {stored : StoredEntity} :
    catalog.definitions name = .ok stored ↔
      Text.isBlankText name = false ∧ entities.get? name = some stored := by
  rw [holds.definitions_eq, definedIn]
  cases Text.isBlankText name with
  | true => simp
  | false => cases entities.get? name <;> simp

/-- A verified entity is supported where it has been inserted: it may name itself. -/
theorem Holds.supports_of_verify (holds : catalog.Holds cacheKey entities)
    {candidate : StoredEntity} (verified : answer (verify candidate) catalog = .ok ()) :
    Supports (entities.insert candidate.name candidate) candidate := by
  obtain ⟨sound, leadsOn⟩ := verify_spec verified
  refine ⟨Entity.sound_of_defect? sound, fun declared isDeclared isCompound => ?_⟩
  obtain ⟨target, named, there⟩ := leadsOn declared isDeclared isCompound
  refine ⟨target, named, ?_⟩
  unfold Dictionary.contains
  rw [Dictionary.get?_insert]
  rcases there with isSelf | ⟨entity, found⟩
  · rw [if_pos isSelf]
    rfl
  · split
    · rfl
    · rw [(holds.definition_eq_ok_iff.1 found).2]
      rfl

theorem Holds.selfSupporting_save (holds : catalog.Holds cacheKey entities)
    (selfSupporting : SelfSupporting entities) (candidate : StoredEntity) :
    SelfSupporting ((Operation.save candidate).onDictionary entities).2 := by
  unfold Operation.onDictionary
  dsimp only
  cases verified : answer (verify candidate.withDefaultAttributes) (holding entities) with
  | error refusal => exact selfSupporting
  | ok _ =>
      refine ⟨Dictionary.nodup_keys_insert selfSupporting.nodup _ _, fun entry isEntry => ?_⟩
      rcases Dictionary.mem_insert isEntry with there | rfl
      · exact (selfSupporting.supports entry there).insert _ _
      · exact holds.untouched.supports_of_verify verified

/-- Only deleting an entity can leave others without the support that they need. -/
theorem Holds.selfSupporting_onDictionary (holds : catalog.Holds cacheKey entities)
    (selfSupporting : SelfSupporting entities) {operation : Operation}
    (kept : ∀ name, operation ≠ .delete name) :
    SelfSupporting (operation.onDictionary entities).2 := by
  cases operation with
  | save candidate => exact holds.selfSupporting_save selfSupporting candidate
  | delete name => exact absurd rfl (kept name)
  | snapshot => exact selfSupporting
  | entity name => exact selfSupporting
  | loadedEntity name => exact selfSupporting
  | verify candidate => exact selfSupporting
  | forget key => exact selfSupporting
  | wait time => exact selfSupporting

theorem Holds.selfSupporting_mapM (holds : catalog.Holds cacheKey entities)
    (selfSupporting : SelfSupporting entities) {history : List Operation}
    (kept : ∀ name, Operation.delete name ∉ history) :
    SelfSupporting (history.mapM Operation.onDictionary entities).2 := by
  induction history generalizing catalog entities with
  | nil => exact selfSupporting
  | cons first rest hypothesis =>
      rw [Success.mapM_cons_apply]
      have firstKept : ∀ name, first ≠ .delete name := by
        rintro name rfl
        exact kept name List.mem_cons_self
      exact hypothesis (holds.onCatalog first).2
        (holds.selfSupporting_onDictionary selfSupporting firstKept)
        fun name later => kept name (List.mem_cons_of_mem _ later)

theorem Holds.closed (holds : catalog.Holds cacheKey entities) (complete : Complete entities) :
    catalog.definitions.Closed := by
  intro name stored found declared isDeclared isCompound
  have there := Dictionary.mem_of_get? (holds.definition_eq_ok_iff.1 found).2
  obtain ⟨target, named, present⟩ := complete _ there declared isDeclared isCompound
  obtain ⟨entity, targetFound⟩ := Option.isSome_iff_exists.1 present
  exact ⟨target, entity, named, holds.definition_eq_ok_iff.2
    ⟨Attribute.isBlankText_of_targetName? named, targetFound⟩⟩

theorem Holds.exists_loadedEntity (holds : catalog.Holds cacheKey entities)
    (selfSupporting : SelfSupporting entities) {name : String} {stored : StoredEntity}
    (found : entities.get? name = some stored) (notBlank : Text.isBlankText name = false) :
    ∃ loaded, answer (loadedEntity name) catalog = .ok loaded ∧ loaded.declared = stored := by
  have defined := holds.definition_eq_ok_iff.2 ⟨notBlank, found⟩
  obtain ⟨loaded, made⟩ :=
    Catalog.exists_loadedEntity holds.keyed (holds.closed selfSupporting.complete) defined
  obtain ⟨_, declared, _⟩ := loadedEntity_spec holds.keyed made
  exact ⟨loaded, made, Except.ok.inj (declared.symm.trans defined)⟩

/-- Through any history in which nothing is deleted, each stored entity declares its fields once,
and its compound attributes name stored entities. So it can be loaded, unless its name is blank. -/
theorem saved_entities_load (lifetime : Option Int) (clock : Int) (cacheKey : String)
    (history : List Operation) (kept : ∀ name, Operation.delete name ∉ history) :
    let catalog := (history.mapM Operation.onCatalog (opened [] lifetime clock cacheKey)).2
    ∀ stored ∈ catalog.store.toList,
      stored.primaryKey ∈ stored.fields ∧
      stored.fields.Nodup ∧
      (stored.titleAttribute ≠ "" → stored.titleAttribute ∈ stored.fields) ∧
      (∀ declared ∈ stored.attributes, declared.dataType.isCompound = true →
        ∃ target ∈ catalog.store.toList, declared.targetName? = some target.name) ∧
      (Text.isBlankText stored.name = false →
        ∃ loaded, answer (loadedEntity stored.name) catalog = .ok loaded ∧
          loaded.declared = stored) := by
  intro catalog stored isStored
  have initially := holds_opened [] lifetime clock cacheKey
  have holds := (initially.mapM_onCatalog history).2
  have selfSupporting := initially.selfSupporting_mapM ⟨List.nodup_nil, nofun⟩ kept
  rw [holds.toList_eq] at isStored ⊢
  obtain ⟨⟨name, stored⟩, isEntry, rfl⟩ := List.mem_map.1 isStored
  obtain ⟨⟨nodup, title, key⟩, targets⟩ := selfSupporting.supports _ isEntry
  refine ⟨key, nodup, title, fun declared isDeclared isCompound => ?_, ?_⟩
  · obtain ⟨target, targetNamed, present⟩ := targets declared isDeclared isCompound
    obtain ⟨entity, found⟩ := Option.isSome_iff_exists.1 present
    have there := Dictionary.mem_of_get? found
    exact ⟨entity, List.mem_map_of_mem there, by rw [targetNamed, holds.name_eq there]⟩
  · dsimp only
    rw [holds.name_eq isEntry]
    exact holds.exists_loadedEntity selfSupporting
      (Dictionary.get?_of_mem selfSupporting.nodup isEntry)

/-- A forum built up entity by entity. Posts are refused until there are users and tags, which are
first saved without their posts. -/
def forumHistory : List Operation :=
  [.save post, .save user, .save { name := "Tag" }, .save post, .loadedEntity "Post", .wait 120,
    .save tag]

def builtForum : Catalog :=
  (forumHistory.mapM Operation.onCatalog (opened [] (some 60) 0 "schema")).2

/-- Posts are loaded with the tags that have replaced those they were saved with. -/
theorem builtForum_post_loads :
    post ∈ builtForum.store.toList ∧ tag ∈ builtForum.store.toList ∧
      ∃ loaded, answer (loadedEntity "Post") builtForum = .ok loaded ∧ loaded.declared = post := by
  have postStored : post ∈ builtForum.store.toList := by decide +kernel
  have tagStored : tag ∈ builtForum.store.toList := by decide +kernel
  have kept : ∀ name, Operation.delete name ∉ forumHistory := by simp [forumHistory]
  unfold builtForum at postStored tagStored ⊢
  obtain ⟨_, _, _, _, loads⟩ :=
    saved_entities_load (some 60) 0 "schema" forumHistory kept post postStored
  exact ⟨postStored, tagStored, loads rfl⟩

end Catalog
end SchemaQuery
