import SchemaQuery.Dictionary
import SchemaQuery.Schema.Entity

/-!
# The store of entity definitions

Definitions are stored under the names of their entities, in the order in which
the names were first saved.  The store counts how often it has been read.
-/

namespace SchemaQuery

structure Store where
  entities : Dictionary StoredEntity := []
  reads : Nat := 0
deriving Repr, Inhabited

namespace Store

/-- A store that has not been read yet; the last entity of a name counts. -/
def ofEntities (entities : List StoredEntity) : Store where
  entities := Dictionary.ofEntries (entities.map fun entity => (entity.name, entity))

def toList (store : Store) : List StoredEntity :=
  store.entities.map Prod.snd

def all (store : Store) : List StoredEntity × Store :=
  (store.toList, { store with reads := store.reads + 1 })

def get? (store : Store) (name : String) : Option StoredEntity × Store :=
  (store.entities.get? name, { store with reads := store.reads + 1 })

/-- Saves an entity in the place of the one with its name, or at the end. -/
def save (store : Store) (entity : StoredEntity) : Store :=
  { store with entities := store.entities.insert entity.name entity }

def delete (store : Store) (name : String) : Bool × Store :=
  (store.entities.contains name, { store with entities := store.entities.erase name })

end Store

end SchemaQuery
