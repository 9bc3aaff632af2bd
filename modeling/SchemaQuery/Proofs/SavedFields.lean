import SchemaQuery.Proofs.FieldPaths
import SchemaQuery.Proofs.SavedEntities

/-!
# Asking for what has been saved

An entity is accepted for what it declares: no field twice, its primary key and its title among
its fields, and compound attributes that name stored entities.  Nobody looks at how its name and
its fields are written.  But an entity with a blank name is never found, and the fields are asked
for by paths, which are taken apart at each separator and have no blank segment.  This file proves
that what has been accepted can be loaded and asked for by its fields, just as far as its name is
not blank and its fields are paths of their own.
-/

namespace SchemaQuery

namespace Catalog

def Reaches (catalog : Catalog) (entity : LoadedEntity) (field : String) : Prop :=
  ∃ resolved, answer (resolvePath entity field) catalog = .ok resolved ∧
    resolved.leaf.field = field

section Reaching

variable {catalog : Catalog} (keyed : catalog.store.KeyedByName)
  (closed : catalog.definitions.Closed) {entity : LoadedEntity}
  (faithful : Faithful catalog.definitions entity)

include keyed closed faithful

/-- The field at the end of a path is its last segment, which is not blank. -/
theorem isFieldPath_leaf {path : String} {resolved : ResolvedPath}
    (made : answer (resolvePath entity path) catalog = .ok resolved) :
    IsFieldPath resolved.leaf.field := by
  obtain ⟨noneBlank, field, rest, walked, segments, walkMade, rfl⟩ :=
    (resolvePath_eq_ok _ _ _ _).1 made
  have follows := follows_walk keyed closed path faithful field rest
  rw [walkMade] at follows
  have isLast : walked.2.field ∈ pathSegments path := by
    generalize plainWalk catalog.definitions entity.declared field rest = plainly at follows
    cases follows with
    | found leads =>
        rw [segments, leads.segments_eq]
        exact List.mem_append_right _ (List.mem_singleton_self _)
  have notBlank := List.any_eq_false.1 noneBlank _ isLast
  exact isFieldPath_of_mem_pathSegments isLast (Bool.eq_false_iff.2 notBlank)

theorem exists_resolvePath {field : String} (isField : IsFieldPath field)
    {member : LoadedAttribute} (located : entity.find? field = some member) :
    ∃ resolved, answer (resolvePath entity field) catalog = .ok resolved ∧
      resolved.leaf.toAttribute = member.toAttribute := by
  obtain ⟨leaf, leafMade, same, _⟩ := exists_resolveLeaf keyed closed faithful located
  have walkMade : answer (walk field entity field []) catalog = .ok ([], leaf) := by
    unfold walk
    rw [answer_bind, leafMade]
    rfl
  refine ⟨_, (resolvePath_eq_ok _ _ _ _).2 ⟨?_, field, [], _, isField.1, walkMade, rfl⟩, same⟩
  rw [isField.1, List.any_cons, isField.2]
  rfl

/-- A declared field is reached by its own path, if it is one. -/
theorem reaches_iff_isFieldPath {field : String} (isDeclared : field ∈ entity.declared.fields) :
    catalog.Reaches entity field ↔ IsFieldPath field := by
  constructor
  · rintro ⟨resolved, made, named⟩
    exact named ▸ isFieldPath_leaf keyed closed faithful made
  · intro isField
    have someFound := Entity.isSome_find?_iff.2 isDeclared
    rw [find?_declared, Option.isSome_map] at someFound
    obtain ⟨member, located⟩ := Option.isSome_iff_exists.1 someFound
    obtain ⟨resolved, made, same⟩ := exists_resolvePath keyed closed faithful isField located
    refine ⟨resolved, made, ?_⟩
    rw [congrArg Attribute.field same]
    exact Entity.field_of_find? located

end Reaching

section Loading

variable {cacheKey : String} {entities : Dictionary StoredEntity} {catalog : Catalog}
  (holds : catalog.Holds cacheKey entities) {name : String} {stored : StoredEntity}
  (isStored : entities.get? name = some stored)

include holds isStored

theorem Holds.loads_iff (complete : Complete entities) :
    (∃ loaded, answer (loadedEntity name) catalog = .ok loaded) ↔
      Text.isBlankText name = false := by
  constructor
  · rintro ⟨loaded, made⟩
    obtain ⟨_, defined, _⟩ := loadedEntity_spec holds.keyed made
    exact (holds.definition_eq_ok_iff.1 defined).1
  · intro notBlank
    exact Catalog.exists_loadedEntity holds.keyed (holds.closed complete)
      (holds.definition_eq_ok_iff.2 ⟨notBlank, isStored⟩)

theorem Holds.declared_of_loadedEntity {loaded : LoadedEntity}
    (made : answer (loadedEntity name) catalog = .ok loaded) : loaded.declared = stored := by
  obtain ⟨_, defined, _⟩ := loadedEntity_spec holds.keyed made
  have found := (holds.definition_eq_ok_iff.1 defined).2
  exact Option.some.inj (found.symm.trans isStored)

/-- The fields of a loaded entity are reached just if they are paths. -/
theorem Holds.reaches_iff (complete : Complete entities) {loaded : LoadedEntity}
    (made : answer (loadedEntity name) catalog = .ok loaded) {field : String}
    (isDeclared : field ∈ stored.fields) :
    (after (loadedEntity name) catalog).Reaches loaded field ↔ IsFieldPath field := by
  have later : (after (loadedEntity name) catalog).Holds cacheKey entities :=
    Keeps.loadedEntity Holds.entity name catalog holds
  have faithful := faithful_loadedEntity holds.keyed made
  rw [← (consults_loadedEntity name).keeps catalog] at faithful
  rw [← holds.declared_of_loadedEntity isStored made] at isDeclared
  exact reaches_iff_isFieldPath later.keyed (later.closed complete) faithful isDeclared

end Loading

variable {cacheKey : String} {entities : Dictionary StoredEntity} {catalog : Catalog}
  {candidate saved : StoredEntity}

theorem verify_of_save (accepted : answer (save candidate) catalog = .ok saved) :
    answer (verify saved) catalog = .ok () ∧ saved = candidate.withDefaultAttributes := by
  obtain ⟨_, verified, made⟩ := (answer_bind_eq_ok _ _ _ _).1 accepted
  obtain ⟨_, _, same⟩ := (answer_bind_eq_ok _ _ _ _).1 made
  obtain rfl := Except.ok.inj same
  exact ⟨verified, rfl⟩

theorem Holds.behind_save (holds : catalog.Holds cacheKey entities)
    (accepted : answer (save candidate) catalog = .ok saved) :
    (after (save candidate) catalog).Holds cacheKey (entities.insert saved.name saved) := by
  obtain ⟨verified, rfl⟩ := verify_of_save accepted
  have behind := (holds.onCatalog_save candidate).2
  rw [holds.answer_eq (consults_verify _)] at verified
  unfold Operation.onDictionary at behind
  dsimp only at behind
  rw [verified] at behind
  exact behind

theorem Complete.insert (complete : Complete entities)
    (supports : Supports (entities.insert saved.name saved) saved) :
    Complete (entities.insert saved.name saved) := by
  intro entry isEntry declared isDeclared isCompound
  rcases Dictionary.mem_insert isEntry with there | rfl
  · obtain ⟨target, named, present⟩ := complete entry there declared isDeclared isCompound
    exact ⟨target, named, Dictionary.contains_insert present _ _⟩
  · exact supports.targets declared isDeclared isCompound

/-- Among complete definitions an accepted entity can be loaded just if its name is not blank. Each
of its attributes, and its key, is then reached just if its field is a path of its own. -/
theorem saved_fields_reached_iff (holds : catalog.Holds cacheKey entities)
    (complete : Complete entities) (accepted : answer (save candidate) catalog = .ok saved) :
    let behind := after (save candidate) catalog
    let later := after (loadedEntity saved.name) behind
    ((∃ loaded, answer (loadedEntity saved.name) behind = .ok loaded) ↔
        Text.isBlankText saved.name = false) ∧
      ∀ loaded, answer (loadedEntity saved.name) behind = .ok loaded →
        loaded.declared = saved ∧
        (∀ declared ∈ saved.attributes,
          later.Reaches loaded declared.field ↔ IsFieldPath declared.field) ∧
        (later.Reaches loaded (ResolvedPath.toPrimaryKey loaded).path ↔
          IsFieldPath saved.primaryKey) := by
  intro behind later
  obtain ⟨verified, _⟩ := verify_of_save accepted
  have supports := holds.supports_of_verify verified
  have held := holds.behind_save accepted
  have stillComplete := complete.insert supports
  have isStored : (entities.insert saved.name saved).get? saved.name = some saved := by simp
  refine ⟨held.loads_iff isStored stillComplete, fun loaded made => ?_⟩
  have declaredAs := held.declared_of_loadedEntity isStored made
  have reached {field : String} (isDeclared : field ∈ saved.fields) :=
    held.reaches_iff isStored stillComplete made isDeclared
  refine ⟨declaredAs, fun declared isDeclared => reached (List.mem_map_of_mem isDeclared), ?_⟩
  have keyPath : (ResolvedPath.toPrimaryKey loaded).path = saved.primaryKey := by
    rw [← declaredAs]
    exact Entity.field_primaryKeyAttribute loaded
  rw [keyPath]
  exact reached supports.sound.key

/-- Invoices of users, with their numbers in a column with a separator in its name. -/
def invoice : StoredEntity where
  name := "Invoice"
  tableName := "invoices"
  primaryKey := "invoice.no"
  attributes :=
    [{ field := "invoice.no", dataType := .int },
      { field := "customer", dataType := .lookup, options := "User" }]

/-- Invoices are accepted and found by their customers, but not by their numbers. -/
theorem invoice_reaches_customer :
    let catalog := opened [user] none 0 "schema"
    let behind := after (save invoice) catalog
    let later := after (loadedEntity "Invoice") behind
    answer (save invoice) catalog = .ok invoice ∧
      ∃ loaded, answer (loadedEntity "Invoice") behind = .ok loaded ∧
        later.Reaches loaded "customer" ∧
        ¬later.Reaches loaded (ResolvedPath.toPrimaryKey loaded).path := by
  intro catalog behind later
  have complete : Complete catalog.store.entities := by
    intro entry isEntry declared isDeclared isCompound
    obtain rfl := List.mem_singleton.1 isEntry
    obtain rfl := List.mem_singleton.1 isDeclared
    exact absurd isCompound (by decide)
  have accepted : answer (save invoice) catalog = .ok invoice := by rfl
  obtain ⟨loads, reached⟩ :=
    saved_fields_reached_iff (holds_opened [user] none 0 "schema") complete accepted
  obtain ⟨loaded, made⟩ := loads.2 rfl
  obtain ⟨_, fields, key⟩ := reached loaded made
  refine ⟨accepted, loaded, made, ?_, ?_⟩
  · exact (fields _ (List.mem_cons_of_mem _ List.mem_cons_self)).2 ⟨rfl, by decide⟩
  · intro reachesKey
    have isWhole := pathSegments_eq_singleton_iff.1 (key.1 reachesKey).1
    exact isWhole (by decide)

end Catalog
end SchemaQuery
