import SchemaQuery.Proofs.CarriedTargets
import SchemaQuery.Sql.JoinPlan

/-!
# Fields of paths

The tables that a statement joins are known under paths: the fields that lead to them with a
separator between, and a suffix for join tables.  A path can be taken apart into its fields again,
as these have no separator, so it tells which definition is reached through them.  Only a field
with the suffix could stand for the join table of another.
-/

namespace SchemaQuery

theorem pathSegments_joinPath {before : String} (notEmpty : before ≠ "") (field : String) :
    pathSegments (joinPath before field) = pathSegments before ++ pathSegments field := by
  unfold joinPath pathSegments
  rw [if_neg notEmpty, String.toList_append, String.toList_append, String.toList_singleton,
    List.append_assoc, List.singleton_append, Text.segments_append, List.map_append]

theorem joinPath_append (before field behind : String) :
    joinPath before field ++ behind = joinPath before (field ++ behind) := by
  unfold joinPath
  split
  · rfl
  · rw [String.append_assoc]

def pathOf (fields : List String) : String :=
  fields.foldl joinPath ""

theorem pathOf_concat (fields : List String) (field : String) :
    pathOf (fields ++ [field]) = joinPath (pathOf fields) field := by
  simp [pathOf]

namespace Catalog

theorem isFieldPath_of_mem_pathSegments {path field : String}
    (isSegment : field ∈ pathSegments path) (notBlank : Text.isBlankText field = false) :
    IsFieldPath field := by
  refine ⟨?_, notBlank⟩
  obtain ⟨characters, isPart, rfl⟩ := List.mem_map.1 isSegment
  rw [pathSegments_eq_singleton_iff, String.toList_ofList]
  exact Text.not_mem_of_mem_segments isPart

/-- A path through fields consists of these fields, whatever is put behind them. -/
theorem pathSegments_joinPath_pathOf {fields : List String}
    (isPath : ∀ field ∈ fields, IsFieldPath field) (field : String) :
    pathSegments (joinPath (pathOf fields) field) = fields ++ pathSegments field := by
  induction fields using List.reverseRecOn generalizing field with
  | nil => rfl
  | append_singleton before last hypothesis =>
      have earlier := fun field isField => isPath field (List.mem_append_left _ isField)
      have isLast := isPath last (by simp)
      have whole : pathSegments (pathOf (before ++ [last])) = before ++ [last] := by
        rw [pathOf_concat, hypothesis earlier, isLast.1]
      have notEmpty : pathOf (before ++ [last]) ≠ "" := by
        intro isEmpty
        rw [isEmpty] at whole
        have lastEmpty : "" = last := by
          have same := congrArg List.getLast? whole
          rw [List.getLast?_concat] at same
          exact Option.some.inj same
        have lastBlank := isLast.2
        rw [← lastEmpty] at lastBlank
        exact absurd lastBlank (by decide)
      rw [pathSegments_joinPath notEmpty, whole]

def Definitions.reach? (known : Definitions) (stored : StoredEntity) (fields : List String) :
    Option StoredEntity :=
  fields.foldlM (fun owner field => (owner.find? field).bind known.target?) stored

variable {known : Definitions}

theorem Definitions.reach?_concat_eq_some {stored target : StoredEntity} {fields : List String}
    {field : String} :
    known.reach? stored (fields ++ [field]) = some target ↔
      ∃ owner declared, known.reach? stored fields = some owner ∧
        owner.find? field = some declared ∧ known.target? declared = some target := by
  unfold reach?
  rw [List.foldlM_append]
  simp only [List.foldlM_cons, List.foldlM_nil, Option.bind_eq_bind, Option.pure_def,
    Option.bind_eq_some_iff, Option.some.injEq]
  constructor
  · rintro ⟨owner, reached, _, ⟨declared, located, leads⟩, rfl⟩
    exact ⟨owner, declared, reached, located, leads⟩
  · rintro ⟨owner, declared, reached, located, leads⟩
    exact ⟨owner, reached, target, ⟨declared, located, leads⟩, rfl⟩

theorem Definitions.isCompound_of_target? {declared : Attribute} {target : StoredEntity}
    (leads : known.target? declared = some target) : declared.dataType.isCompound = true := by
  obtain ⟨name, named, _⟩ := target?_eq_some.1 leads
  by_contra isScalar
  simp [Attribute.targetName?, isScalar] at named

theorem Definitions.exists_of_reach? {stored reached : StoredEntity} {fields : List String}
    (defined : ∃ name, known name = .ok stored)
    (found : known.reach? stored fields = some reached) : ∃ name, known name = .ok reached := by
  cases fields using List.reverseRecOn with
  | nil =>
      obtain rfl := Option.some.inj found
      exact defined
  | append_singleton before last =>
      obtain ⟨owner, declared, _, _, leads⟩ := reach?_concat_eq_some.1 found
      obtain ⟨name, _, found⟩ := target?_eq_some.1 leads
      exact ⟨name, found⟩

/-- Whether no compound attribute is called like another with the suffix of join tables. -/
def Definitions.SuffixFree (known : Definitions) : Prop :=
  ∀ ⦃name stored⦄, known name = .ok stored → ∀ declared ∈ stored.attributes,
    declared.dataType.isCompound = true →
      ∀ stem, declared.field ≠ stem ++ Sql.JoinPlan.junctionSuffix

/-- Whether tables are told apart by paths: no compound attribute is called like another with the
suffix, and a junction that is a primary key is a path. -/
structure Definitions.Apart (known : Definitions) : Prop where
  suffixFree : ∀ ⦃name stored⦄, known name = .ok stored → ∀ declared ∈ stored.attributes,
    declared.dataType.isCompound = true →
      ∀ stem, declared.field ≠ stem ++ Sql.JoinPlan.junctionSuffix
  keyIsPath : ∀ ⦃name stored declared⦄, known name = .ok stored →
    stored.find? stored.primaryKey = some declared → declared.dataType = .junction →
      IsFieldPath stored.primaryKey

theorem suffixFree_of_schema {catalog : Catalog}
    (noSuffix : ∀ stored ∈ catalog.schema, ∀ declared ∈ stored.attributes,
      declared.dataType.isCompound = true →
        ¬Sql.JoinPlan.junctionSuffix.toList <:+ declared.field.toList) :
    catalog.definitions.SuffixFree := by
  intro name stored found declared isDeclared isCompound stem suffixed
  apply noSuffix stored (mem_schema found) declared isDeclared isCompound
  rw [suffixed, String.toList_append]
  exact List.suffix_append _ _

theorem apart_of_schema {catalog : Catalog}
    (noSuffix : ∀ stored ∈ catalog.schema, ∀ declared ∈ stored.attributes,
      declared.dataType.isCompound = true →
        ¬Sql.JoinPlan.junctionSuffix.toList <:+ declared.field.toList)
    (keysAreColumns : ∀ stored ∈ catalog.schema, ∀ declared ∈ stored.attributes,
      declared.field = stored.primaryKey → declared.dataType ≠ .junction) :
    catalog.definitions.Apart where
  suffixFree := suffixFree_of_schema noSuffix
  keyIsPath := fun _ _ _ found located isJunction =>
    absurd isJunction (keysAreColumns _ (mem_schema found) _ (Entity.mem_of_find? located)
      (Entity.field_of_find? located))

theorem apart_of_notCompound {catalog : Catalog}
    (notCompound : ∀ stored ∈ catalog.schema, ∀ declared ∈ stored.attributes,
      declared.dataType.isCompound = false) :
    catalog.definitions.Apart := by
  apply apart_of_schema
  · intro stored isStored declared isDeclared isCompound
    exact absurd isCompound (Bool.eq_false_iff.1 (notCompound stored isStored declared isDeclared))
  · intro stored isStored declared isDeclared _ isJunction
    have isScalar := notCompound stored isStored declared isDeclared
    rw [isJunction] at isScalar
    exact absurd isScalar nofun

end Catalog

end SchemaQuery
