import SchemaQuery.Proofs.CursorAcceptance
import SchemaQuery.Proofs.PlainWalk
import SchemaQuery.Proofs.SettledColumns

/-!
# Sorts are selected

The rows of a page lead on by their values for the sorts, which are looked up under the paths of the
sorts.  Local columns are selected anyway; the column of any other sort is selected under its path,
once if it belongs to the entity itself.  This file proves that none is left out: whatever a list is
filtered and sorted by, each sort has a selected column under its path, and it is the one that the
rows are ordered by.  So a list without repetitions is ordered by what it selects, and no row that
has been fetched lacks the value for a sort.
-/

namespace SchemaQuery

open Catalog (answer)

theorem Listing.mem_ownColumns {entity : LoadedEntity} {name : String}
    (isOwn : name ∈ ownColumns entity) :
    (∃ member ∈ entity.attributes, member.dataType ≠ .junction ∧ member.field = name) ∨
      name = entity.primaryKey := by
  have ofField (isField : name ∈ entity.localAttributes.map (·.field)) :
      ∃ member ∈ entity.attributes, member.dataType ≠ .junction ∧ member.field = name := by
    obtain ⟨member, isLocal, named⟩ := List.mem_map.1 isField
    obtain ⟨isMember, notJunction⟩ := List.mem_filter.1 isLocal
    exact ⟨member, isMember, bne_iff_ne.1 notJunction, named⟩
  unfold ownColumns at isOwn
  dsimp only at isOwn
  split at isOwn
  · exact Or.inl (ofField isOwn)
  · exact (List.mem_append.1 isOwn).imp ofField List.mem_singleton.1

namespace Catalog

variable {entity : LoadedEntity} {name : String} {catalog : Catalog} {target : ResolvedPath}

theorem exists_find?_of_steps_nil (resolved : answer (resolvePath entity name) catalog = .ok target)
    (isLocal : target.steps = []) :
    ∃ found, entity.find? name = some found ∧ target.leaf.toAttribute = found.toAttribute := by
  apply exists_find?_of_resolvePath _ resolved
  obtain ⟨noneBlank, field, rest, walked, segments, walkMade, rfl⟩ :=
    (resolvePath_eq_ok _ _ _ _).1 resolved
  cases rest with
  | nil =>
      have whole := intercalate_pathSegments name
      rw [segments, String.intercalate_singleton] at whole
      rw [segments, whole, List.any_cons, List.any_nil, Bool.or_false] at noneBlank
      exact ⟨whole ▸ segments, noneBlank⟩
  | cons next rest =>
      unfold walk at walkMade
      obtain ⟨step, _, walkMade⟩ := (answer_bind_eq_ok _ _ _ _).1 walkMade
      obtain ⟨onward, _, same⟩ := (answer_bind_eq_ok _ _ _ _).1 walkMade
      rw [← Except.ok.inj same] at isLocal
      exact absurd isLocal (List.cons_ne_nil _ _)

end Catalog

/-- The primary key is added to sorts only if none is by it. -/
theorem ResolvedSort.mem_or_added {entity : LoadedEntity} {sorts : List ResolvedSort}
    {sort : ResolvedSort} (member : sort ∈ withPrimaryKey entity sorts) :
    sort ∈ sorts ∨ sort = ⟨.toPrimaryKey entity, .ascending⟩ ∧
      ∀ requested ∈ sorts, requested.path ≠ sort.path := by
  unfold withPrimaryKey at member
  split at member
  · exact Or.inl member
  · rename_i noneByKey
    refine (List.mem_append.1 member).imp_right fun added => ?_
    obtain rfl := List.mem_singleton.1 added
    refine ⟨rfl, fun requested isRequested same => noneByKey ?_⟩
    rw [List.any_eq_true]
    exact ⟨requested, isRequested, beq_iff_eq.2
      (same.trans (Entity.field_primaryKeyAttribute entity))⟩

section Sorts

variable {entity : LoadedEntity} {terms : List SortTerm} {sorts : List ResolvedSort}
  {catalog : Catalog} (resolved : answer (SortTerm.resolveAll entity terms) catalog = .ok sorts)

include resolved

theorem ResolvedSort.target_eq_of_path_eq {one other : ResolvedSort}
    (isOne : one ∈ withPrimaryKey entity sorts) (isOther : other ∈ withPrimaryKey entity sorts)
    (same : one.path = other.path) : one.target = other.target := by
  rcases mem_or_added isOne with oneRequested | ⟨rfl, oneAlone⟩
  · rcases mem_or_added isOther with otherRequested | ⟨rfl, otherAlone⟩
    · have oneFound := SortTerm.resolvePath_of_mem resolved oneRequested
      rw [same, SortTerm.resolvePath_of_mem resolved otherRequested] at oneFound
      exact (Except.ok.inj oneFound).symm
    · exact absurd same (otherAlone one oneRequested)
  · rcases mem_or_added isOther with otherRequested | ⟨rfl, _⟩
    · exact absurd same.symm (oneAlone other otherRequested)
    · rfl

/-- A local sort is by the attribute with its path as field, and no junction where
that is a column. -/
theorem ResolvedSort.local_spec (distinct : entity.fields.Nodup)
    (isColumn : entity.primaryKeyAttribute.dataType ≠ .junction) {sort : ResolvedSort}
    (isSort : sort ∈ withPrimaryKey entity sorts) (isLocal : sort.target.steps = []) :
    sort.target.leaf.field = sort.path ∧
      (sort.path ∈ Listing.ownColumns entity → sort.target.leaf.dataType ≠ .junction) := by
  rcases mem_withPrimaryKey isSort with requested | rfl
  · have found := SortTerm.resolvePath_of_mem resolved requested
    obtain ⟨declared, located, same⟩ := Catalog.exists_find?_of_steps_nil found isLocal
    have named : declared.field = sort.path := Entity.field_of_find? located
    rw [same]
    refine ⟨named, fun isOwn => ?_⟩
    rcases Listing.mem_ownColumns isOwn with ⟨member, isMember, notJunction, sameField⟩ | isKey
    · obtain rfl : member = declared := List.inj_on_of_nodup_map distinct isMember
        (Entity.mem_of_find? located) (sameField.trans named.symm)
      exact notJunction
    · unfold Entity.primaryKeyAttribute at isColumn
      rw [← isKey, located, Option.getD_some] at isColumn
      exact isColumn
  · exact ⟨rfl, fun _ => isColumn⟩

end Sorts

namespace Listing

open Sql Success

variable {operators : Operators} {entity : LoadedEntity} {filters : List ResolvedFilter}
  {sorts : List ResolvedSort} {cursor : ResolvedCursor} {pagination : Pagination} {size : Int}
  {filtering : List Condition} {sorted : List SortColumn} {plan : JoinPlan}
  {listing : Listing}

section Selected

variable {terms : List SortTerm} {catalog : Catalog}
  (resolved : answer (SortTerm.resolveAll entity terms) catalog = .ok sorts)
  (distinct : entity.fields.Nodup) (isColumn : entity.primaryKeyAttribute.dataType ≠ .junction)

include resolved distinct isColumn

theorem exists_projection
    (planned : (Listing.planned operators filters
      (ResolvedSort.withPrimaryKey entity sorts)).run { entity } =
        .ok ((filtering, sorted), plan)) :
    ∀ column ∈ sorted, ∃ projection ∈ projections entity sorted,
      projection.name = column.sort.path ∧ projection.column = column.column := by
  obtain ⟨sameSorts, ownTable⟩ := planned_eq_ok planned
  have isSort {column : SortColumn} (member : column ∈ sorted) :
      column.sort ∈ ResolvedSort.withPrimaryKey entity sorts :=
    sameSorts ▸ List.mem_map_of_mem member
  intro column member
  unfold projections
  rcases exists_mem_sortProjections (entity.primaryKey :: ownColumns entity) sorted column member
    with ⟨isLocal, already⟩ | ⟨other, isOther, same, placed⟩
  · have isOwn : column.sort.path ∈ ownColumns entity := by
      rcases List.mem_cons.1 already with isKey | isOwn
      · exact isKey ▸ primaryKey_mem_ownColumns isColumn
      · exact isOwn
    obtain ⟨named, notJunction⟩ :=
      ResolvedSort.local_spec resolved distinct isColumn (isSort member) isLocal
    refine ⟨_, List.mem_append_left _ (List.mem_map_of_mem isOwn), rfl, ?_⟩
    rw [ownTable column member isLocal (notJunction isOwn), named]
  · have sameTarget :=
      ResolvedSort.target_eq_of_path_eq resolved (isSort isOther) (isSort member) same
    exact ⟨_, List.mem_append_right _ placed, rfl,
      column_eq_of_planned planned isOther member sameTarget⟩

end Selected

end Listing

/-- A row with a value under the path of each sort lacks none for its token. -/
theorem Token.ofRow_ne_rowValueMissing {row : Row} {sorts : List ResolvedSort}
    (keyed : ∀ sort ∈ sorts, Dictionary.contains row sort.path = true) (path : String) :
    ofRow row sorts ≠ .error (.rowValueMissing path) := by
  have given : ∀ sort ∈ sorts, ∃ value, row.valueAt? sort.path = some value := by
    intro sort isSort
    obtain ⟨value, found⟩ := Option.isSome_iff_exists.1 (keyed sort isSort)
    refine ⟨value, ?_⟩
    unfold Row.valueAt?
    rw [found]
  obtain ⟨edge, edgeMade⟩ := Row.exists_edge given
  unfold ofRow
  apply Success.bind_ne_error
  · rw [edgeMade]
    exact fun same => nomatch same
  · intro given
    split
    · exact fun same => nomatch same
    · exact fun same => nomatch same

theorem Cursor.next_ne_rowValueMissing (cursor : Cursor) {items : List Row}
    {sorts : List ResolvedSort}
    (keyed : ∀ row ∈ items, ∀ sort ∈ sorts, Dictionary.contains row sort.path = true)
    (hasMore : Bool) (path : String) :
    cursor.next items sorts hasMore ≠ .error (.rowValueMissing path) := by
  have side (leadsOn : Bool) {row : Row} (isItem : row ∈ items) :
      Token.forSide sorts leadsOn row ≠ .error (.rowValueMissing path) := by
    cases leadsOn with
    | true => exact Token.ofRow_ne_rowValueMissing (keyed row isItem) path
    | false => exact nofun
  cases noSorts : sorts.isEmpty with
  | true =>
      unfold next
      rw [noSorts]
      exact fun same => nomatch same
  | false =>
      cases headed : items.head? with
      | none =>
          unfold next
          rw [noSorts, headed]
          exact fun same => nomatch same
      | some firstRow =>
          cases ended : items.getLast? with
          | none =>
              unfold next
              rw [noSorts, headed, ended]
              exact fun same => nomatch same
          | some lastRow =>
              rw [next_eq_forSide noSorts headed ended]
              apply Success.bind_ne_error (side _ (List.mem_of_head? headed))
              intro first
              apply Success.bind_ne_error (side _ (List.mem_of_getLast? ended))
              exact fun last same => nomatch same

namespace Listing

open Sql Success

variable {operators : Operators} {entity : LoadedEntity} {filters : List ResolvedFilter}
  {sorts : List ResolvedSort} {cursor : ResolvedCursor} {pagination : Pagination} {size : Int}
  {listing : Listing}

theorem page_ne_rowValueMissing {rows : List Row}
    (keyed : ∀ row ∈ rows, ∀ sort ∈ listing.sorts, Dictionary.contains row sort.path = true)
    (path : String) : listing.page rows ≠ .error (.rowValueMissing path) := by
  unfold page
  dsimp only
  split
  · exact nofun
  · refine bind_ne_error (Cursor.next_ne_rowValueMissing _ ?_ _ path) fun next => nofun
    exact fun row isItem => keyed row (mem_of_mem_pageOf isItem)

/-- Each sort of a statement has a selected column under its path, by which the rows are ordered. So
no rows of these columns lack a value for a sort. -/
theorem sorts_selected_under_paths (operators : Operators) {terms : List SortTerm}
    {catalog : Catalog} (resolved : answer (SortTerm.resolveAll entity terms) catalog = .ok sorts)
    (distinct : entity.fields.Nodup) (isColumn : entity.primaryKeyAttribute.dataType ≠ .junction)
    (built : Listing.build operators entity filters (ResolvedSort.withPrimaryKey entity sorts)
      cursor pagination size = .ok listing) :
    let statement := listing.statement
    List.Forall₂ (fun sort term => ∃ projection ∈ statement.projections,
        projection.name = sort.path ∧ projection.column = term.column)
      (ResolvedSort.withPrimaryKey entity sorts) statement.order ∧
    (∀ term ∈ statement.order, term.column ∈ statement.projections.map Projection.column) ∧
    (∀ sort ∈ ResolvedSort.withPrimaryKey entity sorts, sort.path ∈ statement.columnNames) ∧
    ∀ rows : List Row,
      (∀ row ∈ rows, ∀ name ∈ statement.columnNames, Dictionary.contains row name = true) →
        ∀ path, listing.page rows ≠ .error (.rowValueMissing path) := by
  intro statement
  obtain ⟨filtering, sorted, plan, planned⟩ := exists_planned built
  have selected := exists_projection resolved distinct isColumn planned
  obtain ⟨sameSorts, _⟩ := planned_eq_ok planned
  obtain ⟨projected, ordered, listed⟩ : statement.projections = projections entity sorted ∧
      statement.order = orderTerms cursor.cursor entity.primaryKey sorted ∧
      listing.sorts = ResolvedSort.withPrimaryKey entity sorts := by
    obtain ⟨conditions, passed, _, _, same⟩ := build_eq_ok planned built
    unfold statement
    rw [same]
    exact ⟨rfl, rfl, rfl⟩
  have named : ∀ sort ∈ ResolvedSort.withPrimaryKey entity sorts,
      sort.path ∈ statement.columnNames := by
    unfold Select.columnNames
    rw [← sameSorts, projected, List.forall_mem_map]
    intro column member
    obtain ⟨projection, isSelected, isNamed, _⟩ := selected column member
    exact isNamed ▸ List.mem_map_of_mem isSelected
  refine ⟨?_, ?_, named, fun rows keyed => page_ne_rowValueMissing ?_⟩
  · rw [← sameSorts, ordered, projected]
    unfold orderTerms
    rw [List.forall₂_map_left_iff, List.forall₂_map_right_iff, List.forall₂_same]
    exact selected
  · rw [ordered, projected]
    unfold orderTerms
    rw [List.forall_mem_map]
    intro column member
    obtain ⟨projection, isSelected, _, isColumnOf⟩ := selected column member
    exact isColumnOf ▸ List.mem_map_of_mem isSelected
  · rw [listed]
    exact fun row isRow sort isSort => keyed row isRow _ (named sort isSort)

open Catalog (post forum)

def byTagsAndAuthor : List SortTerm :=
  [{ path := "tags" }, { path := "author.id", order := .text "desc" }, { path := "tags" },
    { path := "author.id" }]

/-- The tags of a post are selected once, its key with its own columns, and a related column as
often as it is asked for. -/
theorem tags_and_author_selected :
    ∃ sorts listing, answer (SortTerm.resolveAll post.load byTagsAndAuthor) forum = .ok sorts ∧
      Listing.build .standard post.load [] (ResolvedSort.withPrimaryKey post.load sorts)
        { cursor := {} } {} 20 = .ok listing ∧
      post.load.fields.Nodup ∧ post.load.primaryKeyAttribute.dataType ≠ .junction ∧
      listing.statement.distinct = true ∧
      listing.statement.columnNames = ["id", "author", "tags", "author.id", "author.id"] ∧
      (∀ term ∈ listing.statement.order,
        term.column ∈ listing.statement.projections.map Projection.column) ∧
      ∀ row : Row, row.map Prod.fst = ["id", "author", "tags", "author.id"] →
        ∀ path, listing.page [row] ≠ .error (.rowValueMissing path) := by
  have shown : ((answer (SortTerm.resolveAll post.load byTagsAndAuthor) forum).toOption.bind
      fun sorts => (Listing.build .standard post.load []
        (ResolvedSort.withPrimaryKey post.load sorts) { cursor := {} } {} 20).toOption).map
          (fun listing => (listing.statement.distinct, listing.statement.columnNames)) =
        some (true, ["id", "author", "tags", "author.id", "author.id"]) := by decide +kernel
  have distinct : post.load.fields.Nodup := by decide
  have isColumn : post.load.primaryKeyAttribute.dataType ≠ .junction := by decide
  cases resolved : answer (SortTerm.resolveAll post.load byTagsAndAuthor) forum with
  | error refusal => simp [resolved, Except.toOption] at shown
  | ok sorts =>
      cases built : Listing.build .standard post.load []
          (ResolvedSort.withPrimaryKey post.load sorts) { cursor := {} } {} 20 with
      | error failure => simp [resolved, built, Except.toOption] at shown
      | ok listing =>
          rw [resolved] at shown
          simp only [Except.toOption, Option.bind_some, built, Option.map_some, Option.some.injEq,
            Prod.mk.injEq] at shown
          obtain ⟨usesDistinct, names⟩ := shown
          obtain ⟨_, selected, _, paged⟩ :=
            sorts_selected_under_paths .standard resolved distinct isColumn built
          refine ⟨sorts, listing, rfl, built, distinct, isColumn, usesDistinct, names, selected, ?_⟩
          intro row keys
          apply paged
          rw [names, List.forall_mem_singleton]
          intro name isName
          rw [Dictionary.contains_eq_true_iff, keys]
          simpa using isName

end Listing
end SchemaQuery
