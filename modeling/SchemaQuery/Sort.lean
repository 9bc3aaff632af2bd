import SchemaQuery.Path

/-!
# Sorts

A sort term orders rows by the attribute at the end of a path, upwards or
downwards.  A request may spell the direction in several ways.  A list of sorts
is made total by the primary key at its end.
-/

namespace SchemaQuery

inductive Direction where
  | ascending
  | descending
deriving DecidableEq, Repr, Inhabited

namespace Direction

def name : Direction → String
  | .ascending => "asc"
  | .descending => "desc"

def ofName? (name : String) : Option Direction :=
  if name = "asc" then some .ascending
  else if name = "desc" then some .descending
  else none

def flipped : Direction → Direction
  | .ascending => .descending
  | .descending => .ascending

def spellings : Dictionary String :=
  [("asc", "asc"), ("ascending", "asc"), ("1", "asc"), ("desc", "desc"),
    ("descending", "desc"), ("-1", "desc")]

/-- The word that is meant by a raw direction; nothing means upwards. -/
def word : Value → String
  | .null => "asc"
  | raw =>
      let spelled := Text.lower (Text.trim raw.plain)
      (spellings.get? spelled).getD spelled

@[simp]
theorem flipped_flipped (direction : Direction) : direction.flipped.flipped = direction := by
  cases direction <;> rfl

@[simp]
theorem ofName?_name (direction : Direction) : ofName? direction.name = some direction := by
  cases direction <;> decide

end Direction

structure SortTerm where
  path : String
  order : Value := .text "asc"
deriving Inhabited

namespace SortTerm

/-- The sorts of a request, which gives a path its direction. -/
def parseAll (pairs : Dictionary (List Value)) : List SortTerm :=
  pairs.map fun pair =>
    { path := Text.trim pair.1,
      order := .text (Direction.word (pair.2.head?.getD (.text "asc"))) }

end SortTerm

structure ResolvedSort where
  target : ResolvedPath
  direction : Direction
deriving Inhabited

namespace ResolvedSort

/-- The path by which a row holds the value to sort by. -/
def path (sort : ResolvedSort) : String :=
  sort.target.path

def flipped (sort : ResolvedSort) : ResolvedSort :=
  { sort with direction := sort.direction.flipped }

/-- Sorts with the primary key at their end, unless it is one of them. -/
def withPrimaryKey (entity : LoadedEntity) (sorts : List ResolvedSort) : List ResolvedSort :=
  if sorts.any fun sort => sort.path == entity.primaryKey then sorts
  else sorts ++ [⟨.toPrimaryKey entity, .ascending⟩]

@[simp]
theorem flipped_flipped (sort : ResolvedSort) : sort.flipped.flipped = sort := by
  simp [flipped]

theorem mem_withPrimaryKey {entity : LoadedEntity} {sorts : List ResolvedSort}
    {sort : ResolvedSort} (member : sort ∈ withPrimaryKey entity sorts) :
    sort ∈ sorts ∨ sort = ⟨.toPrimaryKey entity, .ascending⟩ := by
  unfold withPrimaryKey at member
  split at member
  · exact Or.inl member
  · rcases List.mem_append.1 member with requested | added
    · exact Or.inl requested
    · exact Or.inr (List.mem_singleton.1 added)

/-- One of the sorts is by the path of the primary key. -/
theorem exists_path_eq_primaryKey (entity : LoadedEntity) (sorts : List ResolvedSort) :
    ∃ sort ∈ withPrimaryKey entity sorts, sort.path = entity.primaryKey := by
  unfold withPrimaryKey
  split
  · rename_i found
    simpa using found
  · exact ⟨⟨.toPrimaryKey entity, .ascending⟩, by simp,
      Entity.field_primaryKeyAttribute entity⟩

end ResolvedSort

namespace SortTerm

def resolve (entity : LoadedEntity) (sort : SortTerm) : CatalogM Refusal ResolvedSort := do
  match Direction.ofName? (Direction.word sort.order) with
  | none => throw (.sortOrder sort.order.plain sort.path)
  | some direction =>
      let target ← ExceptT.adapt (.sortPath sort.path) (Catalog.resolvePath entity sort.path)
      return { target, direction }

def resolveAll (entity : LoadedEntity) (sorts : List SortTerm) :
    CatalogM Refusal (List ResolvedSort) :=
  sorts.mapM (resolve entity)

end SortTerm

end SchemaQuery
