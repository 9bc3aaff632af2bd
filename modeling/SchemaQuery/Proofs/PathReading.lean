import SchemaQuery.Proofs.RepeatedRequest
import SchemaQuery.Proofs.RequestedOrder

/-!
# Resolving a path once more

The path of a sort that has been resolved leads to the same attribute when it is resolved
again.  The name of a field is a path too, unless it is blank or holds a separator, and
leads to the attribute that is declared with it.
-/

namespace SchemaQuery

open Catalog (answer)

theorem pathSegments_eq_singleton_iff {field : String} :
    pathSegments field = [field] ↔ pathSeparator ∉ field.toList := by
  rw [← Text.segments_eq_singleton_iff, pathSegments, List.map_eq_singleton_iff]
  constructor
  · rintro ⟨characters, whole, rfl⟩
    rw [whole, String.toList_ofList]
  · intro whole
    exact ⟨field.toList, whole, String.ofList_toList⟩

theorem eq_of_pathSegments_eq_singleton {path field : String}
    (single : pathSegments path = [field]) : field = path := by
  obtain ⟨characters, whole, rfl⟩ := List.map_eq_singleton_iff.1 single
  have joined := Text.intercalate_segments pathSeparator path.toList
  rw [whole, List.intercalate_singleton] at joined
  rw [joined, String.ofList_toList]

namespace Catalog

/-- A path is resolved by walking its segments, none of which is blank. -/
theorem resolvePath_eq_ok (entity : LoadedEntity) (path : String) (catalog : Catalog)
    (target : ResolvedPath) :
    answer (resolvePath entity path) catalog = .ok target ↔
      (pathSegments path).any Text.isBlankText = false ∧
        ∃ field rest walked, pathSegments path = field :: rest ∧
          answer (walk path entity field rest) catalog = .ok walked ∧
          target =
            { path
              relationship :=
                (String.singleton pathSeparator).intercalate (pathSegments path).dropLast
              steps := walked.1
              leaf := walked.2 } := by
  unfold resolvePath
  cases blank : (pathSegments path).any Text.isBlankText with
  | true => simp [blank]
  | false =>
      cases segments : pathSegments path with
      | nil => simp
      | cons field rest =>
          rw [segments] at blank
          dsimp only
          rw [blank, if_neg Bool.false_ne_true, answer_bind_eq_ok]
          constructor
          · rintro ⟨walked, walkMade, made⟩
            exact ⟨rfl, field, rest, walked, rfl, walkMade, (Except.ok.inj made).symm⟩
          · rintro ⟨_, _, _, walked, same, walkMade, rfl⟩
            obtain ⟨rfl, rfl⟩ := List.cons.inj same
            exact ⟨walked, walkMade, rfl⟩

theorem path_of_resolvePath {entity : LoadedEntity} {path : String} {catalog : Catalog}
    {target : ResolvedPath} (resolved : answer (resolvePath entity path) catalog = .ok target) :
    target.path = path := by
  obtain ⟨_, _, _, _, _, _, rfl⟩ := (resolvePath_eq_ok _ _ _ _).1 resolved
  rfl

theorem toAttribute_of_expandAttribute {expandTarget : Expansion} {owner : String}
    {member : LoadedAttribute} {visited : List String} {catalog : Catalog}
    {result : LoadedAttribute × List String}
    (expanded : answer (expandAttribute expandTarget owner member visited) catalog =
      .ok result) : result.1.toAttribute = member.toAttribute := by
  unfold expandAttribute at expanded
  split at expanded
  · obtain ⟨found, made, same⟩ := (answer_bind_eq_ok _ _ _ _).1 expanded
    obtain rfl := Except.ok.inj same
    unfold expandLookup at made
    split at made
    · obtain rfl := Except.ok.inj made
      rfl
    · split at made
      · simp at made
      · obtain ⟨stored, _, same⟩ := (answer_bind_eq_ok _ _ _ _).1 made
        obtain rfl := Except.ok.inj same
        rfl
  · unfold expandJunction at expanded
    split at expanded
    · obtain rfl := Except.ok.inj expanded
      rfl
    · split at expanded
      · simp at expanded
      · dsimp only at expanded
        split at expanded
        · obtain rfl := Except.ok.inj expanded
          rfl
        · obtain ⟨stored, _, made⟩ := (answer_bind_eq_ok _ _ _ _).1 expanded
          obtain ⟨target, _, same⟩ := (answer_bind_eq_ok _ _ _ _).1 made
          obtain rfl := Except.ok.inj same
          rfl
  · obtain rfl := Except.ok.inj expanded
    rfl

theorem toAttribute_of_expandOne {entity : LoadedEntity} {member result : LoadedAttribute}
    {catalog : Catalog} (expanded : answer (expandOne entity member) catalog = .ok result) :
    result.toAttribute = member.toAttribute := by
  unfold expandOne at expanded
  obtain ⟨known, _, expanded⟩ := (answer_bind_eq_ok _ _ _ _).1 expanded
  obtain ⟨pair, made, same⟩ := (answer_bind_eq_ok _ _ _ _).1 expanded
  obtain rfl := Except.ok.inj same
  exact toAttribute_of_expandAttribute made

def IsFieldPath (name : String) : Prop :=
  pathSegments name = [name] ∧ Text.isBlankText name = false

variable {entity : LoadedEntity} {name : String} {catalog : Catalog} {target : ResolvedPath}

/-- The path of a field leads to the attribute of this name. -/
theorem exists_find?_of_resolvePath (isField : IsFieldPath name)
    (resolved : answer (resolvePath entity name) catalog = .ok target) :
    ∃ found, entity.find? name = some found ∧
      target.leaf.toAttribute = found.toAttribute := by
  obtain ⟨_, field, rest, walked, segments, walkMade, rfl⟩ :=
    (resolvePath_eq_ok _ _ _ _).1 resolved
  rw [isField.1] at segments
  obtain ⟨rfl, rfl⟩ := List.cons.inj segments
  unfold walk at walkMade
  obtain ⟨leaf, leafMade, same⟩ := (answer_bind_eq_ok _ _ _ _).1 walkMade
  obtain rfl := Except.ok.inj same
  unfold resolveLeaf at leafMade
  cases found : entity.find? name with
  | none => simp [found] at leafMade
  | some declared =>
      rw [found] at leafMade
      dsimp only at leafMade
      refine ⟨declared, rfl, ?_⟩
      split at leafMade
      · exact toAttribute_of_expandOne leafMade
      · obtain rfl := Except.ok.inj leafMade
        rfl

/-- The path of a field is resolved to the attribute of this name, if that needs no expanding. -/
theorem resolvePath_of_find? (isField : IsFieldPath name) {declared : LoadedAttribute}
    (found : entity.find? name = some declared)
    (ready : declared.dataType = .junction → declared.isLoaded = true) :
    answer (resolvePath entity name) catalog =
      .ok { path := name, relationship := "", steps := [], leaf := declared } := by
  have noExpansion : (declared.dataType = .junction && !declared.isLoaded) = false := by
    by_cases isJunction : declared.dataType = .junction
    · rw [ready isJunction, Bool.not_true, Bool.and_false]
    · rw [decide_eq_false isJunction, Bool.false_and]
  have leafMade : answer (resolveLeaf entity name) catalog = .ok declared := by
    unfold resolveLeaf
    rw [found]
    dsimp only
    rw [noExpansion]
    rfl
  have walkMade : answer (walk name entity name []) catalog = .ok ([], declared) := by
    unfold walk
    rw [answer_bind, leafMade]
    rfl
  rw [resolvePath_eq_ok]
  refine ⟨?_, name, [], _, isField.1, walkMade, ?_⟩
  · rw [isField.1, List.any_cons, isField.2]
    rfl
  · rw [isField.1]
    rfl

/-- A path leads through relationships just where it holds a separator. -/
theorem steps_eq_nil_iff {path : String}
    (resolved : answer (resolvePath entity path) catalog = .ok target) :
    target.steps = [] ↔ pathSeparator ∉ path.toList := by
  obtain ⟨_, field, rest, walked, segments, walkMade, rfl⟩ :=
    (resolvePath_eq_ok _ _ _ _).1 resolved
  rw [← pathSegments_eq_singleton_iff, segments]
  cases rest with
  | nil =>
      unfold walk at walkMade
      obtain ⟨leaf, _, same⟩ := (answer_bind_eq_ok _ _ _ _).1 walkMade
      obtain rfl := Except.ok.inj same
      simp [eq_of_pathSegments_eq_singleton segments]
  | cons next others =>
      unfold walk at walkMade
      obtain ⟨step, _, walkMade⟩ := (answer_bind_eq_ok _ _ _ _).1 walkMade
      obtain ⟨onward, _, same⟩ := (answer_bind_eq_ok _ _ _ _).1 walkMade
      obtain rfl := Except.ok.inj same
      simp

end Catalog

/-- The path of a resolved sort leads to the same attribute again. -/
theorem SortTerm.resolvePath_of_mem {entity : LoadedEntity} {terms : List SortTerm}
    {sorts : List ResolvedSort} {catalog : Catalog}
    (resolved : answer (SortTerm.resolveAll entity terms) catalog = .ok sorts)
    {sort : ResolvedSort} (member : sort ∈ sorts) :
    answer (Catalog.resolvePath entity sort.path) catalog = .ok sort.target := by
  unfold SortTerm.resolveAll at resolved
  rw [Catalog.Consults.answer_mapM (SortTerm.consults_resolve entity)] at resolved
  obtain ⟨term, _, made⟩ := Success.exists_of_mem_mapM resolved member
  unfold SortTerm.resolve at made
  split at made
  · simp at made
  · obtain ⟨target, found, made⟩ := (Catalog.answer_bind_eq_ok _ _ _ _).1 made
    obtain rfl := Except.ok.inj made
    rw [Catalog.answer_adapt, Success.mapError_eq_ok] at found
    change answer (Catalog.resolvePath entity target.path) catalog = .ok target
    rw [Catalog.path_of_resolvePath found, found]

/-- Requested sorts with the path of the primary key are by its column, unless the
key holds a separator. -/
theorem Sql.sortsByKey_iff {entity : LoadedEntity} {terms : List SortTerm}
    {sorts : List ResolvedSort} {catalog : Catalog}
    (resolved : answer (SortTerm.resolveAll entity terms) catalog = .ok sorts) :
    SortsByKey entity sorts ↔ entity.primaryKeyAttribute.dataType ≠ .junction ∧
      (pathSeparator ∉ entity.primaryKey.toList ∨
        ∀ sort ∈ sorts, sort.path ≠ entity.primaryKey) := by
  constructor
  · intro byKey
    refine ⟨byKey.isColumn, or_iff_not_imp_left.2 fun separated sort member isKey => ?_⟩
    have found := SortTerm.resolvePath_of_mem resolved member
    rw [isKey, byKey.target_eq sort member isKey] at found
    exact separated ((Catalog.steps_eq_nil_iff found).1 rfl)
  · rintro ⟨isColumn, isOwn⟩
    refine ⟨isColumn, fun sort member isKey => ?_⟩
    have found := SortTerm.resolvePath_of_mem resolved member
    rw [isKey] at found
    have whole := pathSegments_eq_singleton_iff.2
      (isOwn.resolve_right fun noSort => noSort sort member isKey)
    have notBlank := ((Catalog.resolvePath_eq_ok _ _ _ _).1 found).1
    rw [whole, List.any_cons, List.any_nil, Bool.or_false] at notBlank
    have isField : Catalog.IsFieldPath entity.primaryKey := ⟨whole, notBlank⟩
    obtain ⟨declared, located, _⟩ := Catalog.exists_find?_of_resolvePath isField found
    have isDeclared : entity.primaryKeyAttribute = declared := by
      unfold Entity.primaryKeyAttribute
      rw [located]
      rfl
    rw [isDeclared] at isColumn
    rw [Catalog.resolvePath_of_find? isField located fun isJunction =>
      absurd isJunction isColumn] at found
    rw [← Except.ok.inj found]
    unfold ResolvedPath.toPrimaryKey
    rw [Entity.field_primaryKeyAttribute, isDeclared]

end SchemaQuery
