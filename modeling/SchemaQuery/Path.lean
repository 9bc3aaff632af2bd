import SchemaQuery.Catalog
import SchemaQuery.Text.Segments

/-!
# Paths to attributes

A path names an attribute of an entity, or one that is reached from there: its
segments are the fields of compound attributes to go through, and of the
attribute at the end.  Resolving a path walks from entity to entity, and expands
relationships on the way where that has not happened yet.
-/

namespace SchemaQuery

def pathSeparator : Char := '.'

/-- The path of a field behind another path, which may be empty. -/
def joinPath (before field : String) : String :=
  if before = "" then field else before ++ String.singleton pathSeparator ++ field

def pathSegments (path : String) : List String :=
  (Text.segments pathSeparator path.toList).map String.ofList

/-- A resolved path: the compound attributes that it goes through, and the last one. -/
structure ResolvedPath where
  path : String
  relationship : String
  steps : List LoadedAttribute
  leaf : LoadedAttribute
deriving Inhabited

namespace ResolvedPath

def isLocal (resolved : ResolvedPath) : Bool :=
  resolved.steps.isEmpty

def toPrimaryKey (entity : LoadedEntity) : ResolvedPath where
  path := entity.primaryKeyAttribute.field
  relationship := ""
  steps := []
  leaf := entity.primaryKeyAttribute

end ResolvedPath

namespace Catalog

/-- The attribute through which a path goes on, with its relationship expanded. -/
def resolveStep (path : String) (entity : LoadedEntity) (field : String) :
    CatalogM Refusal LoadedAttribute :=
  match entity.find? field with
  | none => throw (.attributeUnknown field entity.name)
  | some found =>
      if !found.dataType.isCompound then throw (.notCompound path field)
      else if found.isLoaded then pure found
      else expandOne entity found

/-- The attribute at which a path ends, where a junction is expanded. -/
def resolveLeaf (entity : LoadedEntity) (field : String) : CatalogM Refusal LoadedAttribute :=
  match entity.find? field with
  | none => throw (.attributeUnknown field entity.name)
  | some found =>
      if found.dataType = .junction && !found.isLoaded then expandOne entity found
      else pure found

def walk (path : String) (entity : LoadedEntity) :
    (field : String) → List String → CatalogM Refusal (List LoadedAttribute × LoadedAttribute)
  | field, [] => do return ([], ← resolveLeaf entity field)
  | field, next :: rest => do
      let step ← resolveStep path entity field
      let (steps, leaf) ← walk path (step.target?.getD entity) next rest
      return (step :: steps, leaf)

def resolvePath (entity : LoadedEntity) (path : String) : CatalogM Refusal ResolvedPath := do
  let segments := pathSegments path
  if segments.any Text.isBlankText then throw (.blankSegment path)
  match segments with
  | [] => throw (.blankSegment path)
  | field :: rest =>
      let (steps, leaf) ← walk path entity field rest
      let relationship := (String.singleton pathSeparator).intercalate segments.dropLast
      return { path, relationship, steps, leaf }

end Catalog

end SchemaQuery
