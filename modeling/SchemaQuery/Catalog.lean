import SchemaQuery.Cache
import SchemaQuery.Failure
import SchemaQuery.Store

/-!
# The catalog of entities

The catalog answers which entities there are and what they look like.  Entities
are read from a snapshot of the store that is kept in the cache under one key.
Saving and deleting go to the store and drop the snapshot.

Loading an entity expands its relationships.  A lookup carries its target
unexpanded; the target of a junction is expanded in turn.  While one entity is
loaded, each join table is expanded once: a junction whose table has been
visited before stays unexpanded, which ends the work on cyclic schemas.
-/

namespace SchemaQuery

/-- The store, the cache in front of it, and the key of the snapshot. -/
structure Catalog where
  store : Store := {}
  cache : Cache (List StoredEntity) := {}
  cacheKey : String := ""
deriving Inhabited

/-- Work on a catalog, which keeps what it has changed even when it fails. -/
abbrev CatalogM (ε : Type) := ExceptT ε (StateM Catalog)

namespace Catalog

/-- Work whose failures are all refusals, as part of work that may be faulted. -/
def refusing {α : Type} (work : CatalogM Refusal α) : CatalogM Failure α :=
  ExceptT.adapt Failure.refused work

/-- The entities of the catalog: the cached snapshot, or a new one. -/
def snapshot : StateM Catalog (List StoredEntity) := fun catalog =>
  match catalog.cache.probe catalog.cacheKey with
  | (some entities, cache) => (entities, { catalog with cache })
  | (none, cache) =>
      let (entities, store) := catalog.store.all
      (entities, { catalog with store, cache := cache.fill catalog.cacheKey entities })

def readStore (name : String) : StateM Catalog (Option StoredEntity) := fun catalog =>
  let (entity, store) := catalog.store.get? name
  (entity, { catalog with store })

/-- The entity with a name. One that the snapshot lacks may have been saved since. -/
def entity (name : String) : CatalogM Refusal StoredEntity := do
  if Text.isBlankText name then throw .entityNameMissing
  let entities ← snapshot
  match entities.find? fun candidate => candidate.name == name with
  | some found => return found
  | none =>
      match ← readStore name with
      | some found => return found
      | none => throw (.entityUnknown name)

def expandLookup (member : LoadedAttribute) : CatalogM Refusal LoadedAttribute :=
  match member.relation with
  | .lookup _ => pure member
  | _ =>
      match member.targetName? with
      | none => throw (.lookupTargetMissing member.field)
      | some target => do
          let stored ← ExceptT.adapt (fun _ => .lookupTargetUnknown target member.field)
            (entity target)
          return { member with relation := .lookup stored.load }

/-- Expands an entity while join tables count as visited, and answers those visited then. -/
abbrev Expansion := LoadedEntity → List String → CatalogM Refusal (LoadedEntity × List String)

def expandJunction (expandTarget : Expansion) (owner : String) (member : LoadedAttribute)
    (visited : List String) : CatalogM Refusal (LoadedAttribute × List String) :=
  match member.relation with
  | .junction _ => pure (member, visited)
  | _ =>
      match member.targetName? with
      | none => throw (.junctionTargetMissing owner member.field)
      | some target => do
          let tableName := junctionTableName owner target member.field
          if tableName ∈ visited then return (member, visited)
          let stored ← ExceptT.adapt (.junctionTargetUnknown target) (entity target)
          let (expanded, visited) ← expandTarget stored.load (tableName :: visited)
          let link := Junction.between owner expanded member.field
          return ({ member with relation := .junction link }, visited)

def expandAttribute (expandTarget : Expansion) (owner : String) (member : LoadedAttribute)
    (visited : List String) : CatalogM Refusal (LoadedAttribute × List String) :=
  match member.dataType with
  | .lookup => do return (← expandLookup member, visited)
  | .junction => expandJunction expandTarget owner member visited
  | _ => pure (member, visited)

def expandAttributes (expandTarget : Expansion) (owner : String) :
    List LoadedAttribute → List String → CatalogM Refusal (List LoadedAttribute × List String)
  | [], visited => pure ([], visited)
  | member :: rest, visited => do
      let (expanded, visited) ← expandAttribute expandTarget owner member visited
      let (others, visited) ← expandAttributes expandTarget owner rest visited
      return (expanded :: others, visited)

def expandWithin : (depth : Nat) → Expansion
  | 0, entity, visited => pure (entity, visited)
  | depth + 1, entity, visited => do
      let (attributes, visited) ←
        expandAttributes (expandWithin depth) entity.name entity.attributes visited
      return ({ entity with attributes }, visited)

def junctionCount {α : Type} [Declared α] (entity : Entity α) : Nat :=
  entity.attributes.countP fun candidate =>
    (Declared.declaration candidate).dataType == .junction

/-- A depth that no expansion reaches: each step down visits another join table. -/
def depthBound (catalog : Catalog) (entity : LoadedEntity) : Nat :=
  let cached := catalog.cache.entries.flatMap fun entry => entry.2.value
  (catalog.store.toList ++ cached).foldl
    (fun count known => count + junctionCount known) (junctionCount entity + 2)

def expand (entity : LoadedEntity) : CatalogM Refusal LoadedEntity := do
  let catalog ← get
  let (expanded, _) ← expandWithin (depthBound catalog entity) entity []
  return expanded

def expandOne (entity : LoadedEntity) (member : LoadedAttribute) :
    CatalogM Refusal LoadedAttribute := do
  let catalog ← get
  let (expanded, _) ←
    expandAttribute (expandWithin (depthBound catalog entity)) entity.name member []
  return expanded

def loadedEntity (name : String) : CatalogM Refusal LoadedEntity := do
  let stored ← entity name
  expand stored.load

/-- Checks that a compound attribute points at a stored entity, or at its own. -/
def verifyAttribute (owner : StoredEntity) (member : Attribute) : CatalogM Refusal Unit := do
  if member.dataType.isCompound then
    match member.targetName? with
    | none => throw (.targetMissing member.dataType member.field)
    | some target =>
        if target = owner.name then return
        discard <| ExceptT.adapt (fun _ => .targetUnknown target) (entity target)

def verify (candidate : StoredEntity) : CatalogM Refusal Unit := do
  match candidate.defect? with
  | some defect => throw (.defective defect)
  | none => candidate.attributes.forM (verifyAttribute candidate)

def save (candidate : StoredEntity) : CatalogM Refusal StoredEntity := do
  let completed := candidate.withDefaultAttributes
  verify completed
  modify fun catalog =>
    { catalog with
      store := catalog.store.save completed
      cache := catalog.cache.remove catalog.cacheKey }
  return completed

/-- Drops the snapshot too, and answers whether there was such an entity. -/
def delete (name : String) : StateM Catalog Bool := fun catalog =>
  let (deleted, store) := catalog.store.delete name
  (deleted, { catalog with store, cache := catalog.cache.remove catalog.cacheKey })

end Catalog

end SchemaQuery
