import SchemaQuery.Proofs.PageWindow
import SchemaQuery.Proofs.PlainWalk
import SchemaQuery.Proofs.PlannedLists

/-!
# Joins neither lose nor multiply rows

A list request is about the rows of one table.  Its filters and sorts go through relationships to
rows of other tables, and its statement joins these.  To one row there may be several related ones
behind a junction, or none behind any relationship.  This file proves that a statement without a
cursor selects a row of the table of its entity once if related rows can be chosen for it such that
all filters hold on them, and not at all otherwise, as long as no sort goes through a junction:
joins by primary keys find one row, and of the rows that a junction multiplies a distinct statement
keeps one, since all that it selects is told by the row of the entity.
-/

namespace SchemaQuery

def ResolvedPath.CrossesJunction (resolved : ResolvedPath) : Prop :=
  (∃ step ∈ resolved.steps, step.dataType = .junction) ∨ resolved.leaf.dataType = .junction

theorem ResolvedPath.not_crossesJunction_iff {resolved : ResolvedPath} :
    ¬resolved.CrossesJunction ↔
      (∀ step ∈ resolved.steps, step.dataType ≠ .junction) ∧
        resolved.leaf.dataType ≠ .junction := by
  unfold CrossesJunction
  simp only [not_or, not_exists, not_and, ne_eq]

/-- Whether a filter holds on a row of the tables that paths lead through. -/
def ResolvedFilter.HoldsOn (operators : Operators) (entity : LoadedEntity)
    (database : Sql.Database) (tuple : Sql.Tuple) (filter : ResolvedFilter) : Prop :=
  ∃ condition, filter.condition operators (filter.target.columnIn entity) = .ok condition ∧
    condition.truth database tuple = .holds

namespace Sql

open Catalog (Definitions Passes)

def TablesKeyed (database : Database) (tables : Tables) (known : Definitions) : Prop :=
  ∀ ⦃name stored⦄, known name = .ok stored →
    KeyedBy database stored.primaryKey (tables stored.tableName)

/-- Whether related rows are chosen for a row along some paths: at each relationship one that
belongs to the row before, or missing values if there is none. -/
structure IsChoice (database : Database) (tables : Tables) (entity : LoadedEntity)
    (paths : List ResolvedPath) (row : TableRow) (tuple : Tuple) : Prop where
  isRow : tuple.rowAt (.root entity.tableName) = row
  relates : ∀ path ∈ paths, ∀ join ∈ path.joins entity, join.Relates database tables tuple
  elsewhere : ∀ occurrence, occurrence ≠ .root entity.tableName →
    (∀ path ∈ paths, ∀ join ∈ path.joins entity, occurrence ≠ join.occurrence) →
      tuple.rowAt occurrence = .missing

section Paths

variable {known : Definitions} {database : Database} {tables : Tables}
  (keyed : TablesKeyed database tables known)

include keyed

theorem Join.IsByKey.keyedBy {join : Join} (isByKey : join.IsByKey known) :
    KeyedBy database join.column (tables join.table) := by
  obtain ⟨name, stored, found, table, column⟩ := isByKey
  rw [table, column]
  exact keyed found

/-- Without junctions, what a path leads to is told by the row that it starts from. -/
theorem told_along {leaf : LoadedAttribute} (leafColumn : leaf.dataType ≠ .junction)
    {entity last : LoadedEntity} {steps : List LoadedAttribute}
    (passes : Passes known entity steps last)
    (noJunction : ∀ step ∈ steps, step.dataType ≠ .junction) (owner : Occurrence)
    (path : String) :
    (∀ join ∈ joinsAlong owner entity path leaf steps, join.IsByKey known) ∧
      ∀ one other : Tuple, one.rowAt owner = other.rowAt owner →
        (∀ join ∈ joinsAlong owner entity path leaf steps, join.Relates database tables one) →
        (∀ join ∈ joinsAlong owner entity path leaf steps, join.Relates database tables other) →
        one.value (columnAlong owner path leaf steps) =
          other.value (columnAlong owner path leaf steps) := by
  induction passes generalizing owner path with
  | here entity =>
      rw [joinsAlong_of_column leafColumn, columnAlong_of_column leafColumn]
      refine ⟨by simp, fun one other same _ _ => ?_⟩
      rw [Tuple.value_eq, Tuple.value_eq, same]
  | @through entity target last step steps located isCompound leadsTo onward hypothesis =>
      obtain ⟨byKey, told⟩ := hypothesis
        (fun other isOther => noJunction other (List.mem_cons_of_mem _ isOther))
        (.joined (joinPath path step.field)) (joinPath path step.field)
      have isLookup : step.relation = .lookup target := by
        rcases leadsTo.relation_cases isCompound with ⟨_, carries⟩ | ⟨isJunction, _⟩
        · exact carries
        · exact absurd isJunction (noJunction step List.mem_cons_self)
      have isByKey := isByKey_targetJoin leadsTo (joinPath path step.field) ⟨owner, step.field⟩
      rw [joinsAlong_of_lookup isLookup]
      refine ⟨List.forall_mem_cons.2 ⟨isByKey, byKey⟩, ?_⟩
      intro one other same oneRelates otherRelates
      obtain ⟨oneHere, oneBehind⟩ := List.forall_mem_cons.1 oneRelates
      obtain ⟨otherHere, otherBehind⟩ := List.forall_mem_cons.1 otherRelates
      refine told one other ?_ oneBehind otherBehind
      apply Join.rowAt_eq_of_keyed (isByKey.keyedBy keyed) _ oneHere otherHere
      change (one.rowAt owner).value step.field = (other.rowAt owner).value step.field
      rw [same]

section Plain

variable {entity : LoadedEntity} {resolved : ResolvedPath}
  (plannable : Plannable known entity resolved) (plain : ¬resolved.CrossesJunction)

include plannable plain

theorem isByKey_of_plain : ∀ join ∈ resolved.joins entity, join.IsByKey known := by
  obtain ⟨last, passes, _⟩ := plannable.reaches
  obtain ⟨plainSteps, plainLeaf⟩ := ResolvedPath.not_crossesJunction_iff.1 plain
  exact (told_along keyed plainLeaf passes plainSteps _ _).1

theorem value_eq_of_plain {one other : Tuple}
    (same : one.rowAt (.root entity.tableName) = other.rowAt (.root entity.tableName))
    (oneRelates : ∀ join ∈ resolved.joins entity, join.Relates database tables one)
    (otherRelates : ∀ join ∈ resolved.joins entity, join.Relates database tables other) :
    one.value (resolved.columnIn entity) = other.value (resolved.columnIn entity) := by
  obtain ⟨last, passes, _⟩ := plannable.reaches
  obtain ⟨plainSteps, plainLeaf⟩ := ResolvedPath.not_crossesJunction_iff.1 plain
  exact (told_along keyed plainLeaf passes plainSteps _ _).2 one other same oneRelates otherRelates

end Plain

end Paths

end Sql

namespace Listing

open Sql Success
open Catalog (answer resolvePath Definitions)

/-- Whether related rows can be chosen for a row such that all filters hold. -/
def IsWanted (operators : Operators) (database : Database) (tables : Tables)
    (entity : LoadedEntity) (filters : List ResolvedFilter) (sorts : List ResolvedSort)
    (row : TableRow) : Prop :=
  ∃ tuple, IsChoice database tables entity (paths filters sorts) row tuple ∧
    ∀ filter ∈ filters, filter.HoldsOn operators entity database tuple

/-- What a statement without a cursor joins, which conditions it has, and what it selects. -/
structure Follows (operators : Operators) (entity : LoadedEntity) (filters : List ResolvedFilter)
    (sorts : List ResolvedSort) (known : Definitions) (statement : Select) : Prop where
  root : statement.root = entity.tableName
  inScope : WellScoped statement.joins
  joins : ∀ join, join ∈ statement.joins ↔
    ∃ path ∈ paths filters sorts, join ∈ path.joins entity
  byKey : statement.distinct = false → ∀ join ∈ statement.joins, join.IsByKey known
  conditions : List.Forall₂ (fun filter condition =>
    filter.condition operators (filter.target.columnIn entity) = .ok condition)
    filters statement.conditions
  projections : statement.projections = projections entity
    (sorts.map fun sort => { sort, column := sort.target.columnIn entity })

theorem follows_of_build {known : Definitions} (suffixFree : known.SuffixFree)
    {entity : LoadedEntity} (defined : ∃ name, known name = .ok entity.declared)
    {operators : Operators} {filters : List ResolvedFilter} {sorts : List ResolvedSort}
    {cursor : ResolvedCursor} {pagination : Pagination} {size : Int} {listing : Listing}
    (filterPaths : ∀ filter ∈ filters, Plannable known entity filter.target)
    (sortPaths : ∀ sort ∈ sorts, Plannable known entity sort.target)
    (noEdge : cursor.isEmpty = true)
    (built : Listing.build operators entity filters sorts cursor pagination size = .ok listing) :
    Follows operators entity filters sorts known listing.statement := by
  cases made : (planned operators filters sorts).run { entity } with
  | error fault =>
      unfold Listing.build at built
      rw [made] at built
      simp [Except.mapError, bind, Except.bind] at built
  | ok result =>
      obtain ⟨⟨filtering, sorted⟩, plan⟩ := result
      obtain ⟨consistent, joins, placed, rfl⟩ :=
        planned_spec suffixFree defined filterPaths sortPaths made
      obtain ⟨conditions, passed, conditionsMade, _, rfl⟩ := build_eq_ok made built
      unfold Listing.conditions at conditionsMade
      rw [if_pos noEdge] at conditionsMade
      obtain rfl := Except.ok.inj conditionsMade
      exact ⟨rfl, consistent.inScope, joins, consistent.byKey, placed, rfl⟩

section Selected

variable {operators : Operators} {entity : LoadedEntity} {filters : List ResolvedFilter}
  {sorts : List ResolvedSort} {known : Definitions} {statement : Select} {database : Database}
  {tables : Tables} {tuple : Tuple}
  (follows : Follows operators entity filters sorts known statement)

include follows

/-- A statement selects from the choices of related rows for rows of its entity. -/
theorem Follows.mem_joinedRows_iff :
    tuple ∈ statement.joinedRows database tables ↔
      ∃ row ∈ tables entity.tableName, IsChoice database tables entity
        (paths filters sorts) row tuple := by
  rw [Select.mem_joinedRows_iff follows.inScope, follows.root]
  constructor
  · rintro ⟨isRow, relates, elsewhere⟩
    refine ⟨_, isRow, rfl, ?_, ?_⟩
    · intro path isPath join isJoin
      exact relates join ((follows.joins join).2 ⟨path, isPath, isJoin⟩)
    · intro occurrence notRoot nowhere
      apply elsewhere occurrence notRoot
      intro join isJoin
      obtain ⟨path, isPath, isJoin⟩ := (follows.joins join).1 isJoin
      exact nowhere path isPath join isJoin
  · rintro ⟨_, isRow, rfl, relates, elsewhere⟩
    refine ⟨isRow, ?_, ?_⟩
    · intro join isJoin
      obtain ⟨path, isPath, isJoin⟩ := (follows.joins join).1 isJoin
      exact relates path isPath join isJoin
    · intro occurrence notRoot nowhere
      apply elsewhere occurrence notRoot
      intro path isPath join isJoin
      exact nowhere join ((follows.joins join).2 ⟨path, isPath, isJoin⟩)

theorem Follows.condition_holds_iff :
    statement.condition.truth database tuple = .holds ↔
      ∀ filter ∈ filters, filter.HoldsOn operators entity database tuple := by
  rw [Select.truth_condition]
  have placed := follows.conditions
  generalize statement.conditions = conditions at placed
  clear follows
  induction placed with
  | nil => simp
  | @cons filter condition _ _ placed _ hypothesis =>
      rw [List.forall_mem_cons, List.forall_mem_cons]
      refine and_congr ?_ hypothesis
      constructor
      · intro holds
        exact ⟨_, placed, holds⟩
      · rintro ⟨condition, placedAgain, holds⟩
        obtain rfl := Except.ok.inj (placed.symm.trans placedAgain)
        exact holds

theorem Follows.mem_admitted_iff :
    tuple ∈ statement.admitted database (statement.joinedRows database tables) ↔
      tuple ∈ statement.joinedRows database tables ∧
        ∀ filter ∈ filters, filter.HoldsOn operators entity database tuple := by
  unfold Select.admitted
  rw [List.mem_filter, decide_eq_true_eq, follows.condition_holds_iff]

theorem Follows.rootRows_joinedRows (keyed : TablesKeyed database tables known)
    (byKey : ∀ join ∈ statement.joins, join.IsByKey known) :
    (statement.joinedRows database tables).map (·.rowAt (.root entity.tableName)) =
      tables entity.tableName := by
  rw [← follows.root]
  exact Select.rootRows_joinedRows fun join isJoin => (byKey join isJoin).keyedBy keyed

/-- Joined by keys, a row of the entity tells which other rows are there. -/
theorem Follows.eq_of_rootRow (keyed : TablesKeyed database tables known)
    (defined : ∃ name, known name = .ok entity.declared)
    (byKey : ∀ join ∈ statement.joins, join.IsByKey known) {one other : Tuple}
    (isOne : one ∈ statement.joinedRows database tables)
    (isOther : other ∈ statement.joinedRows database tables)
    (same : one.rowAt (.root entity.tableName) = other.rowAt (.root entity.tableName)) :
    one = other := by
  obtain ⟨name, found⟩ := defined
  have nodup : ((statement.joinedRows database tables).map
      (·.rowAt (.root entity.tableName))).Nodup := by
    rw [follows.rootRows_joinedRows keyed byKey]
    exact (keyed found).nodup
  exact List.inj_on_of_nodup_map nodup isOne isOther same

/-- Rows are selected alike just if they have the same row of the entity. -/
theorem Follows.selectsAlike_iff (keyed : TablesKeyed database tables known)
    (defined : ∃ name, known name = .ok entity.declared)
    (isColumn : entity.primaryKeyAttribute.dataType ≠ .junction)
    (sortPaths : ∀ sort ∈ sorts, Plannable known entity sort.target)
    (plainSorts : ∀ sort ∈ sorts, ¬sort.target.CrossesJunction) {one other : Tuple}
    (isOne : one ∈ statement.joinedRows database tables)
    (isOther : other ∈ statement.joinedRows database tables) :
    statement.selectsAlike database one other = true ↔
      one.rowAt (.root entity.tableName) = other.rowAt (.root entity.tableName) := by
  obtain ⟨_, oneRow, rfl, oneRelates, _⟩ := follows.mem_joinedRows_iff.1 isOne
  obtain ⟨_, otherRow, rfl, otherRelates, _⟩ := follows.mem_joinedRows_iff.1 isOther
  obtain ⟨name, found⟩ := defined
  have keyedHere : KeyedBy database entity.primaryKey (tables entity.tableName) := keyed found
  constructor
  · intro alike
    by_contra differ
    have keySelected : ({ column := keyColumn entity } : Projection) ∈ statement.projections := by
      rw [follows.projections]
      exact keyColumn_mem_projections _ isColumn
    have differently := selectsAlike_eq_false keySelected (keyedHere.present _ oneRow)
      (keyedHere.present _ otherRow)
      fun same => differ (keyedHere.eq_of_compare oneRow otherRow same)
    rw [alike] at differently
    exact absurd differently (by decide)
  · intro same
    rw [Select.selectsAlike_iff, follows.projections]
    intro projection selected
    have sameValue : one.value projection.column = other.value projection.column := by
      rcases column_of_mem_projections selected with own | ⟨column, isColumn, sameColumn⟩
      · rw [Tuple.value_eq, Tuple.value_eq, own, same]
      · obtain ⟨sort, isSort, rfl⟩ := List.mem_map.1 isColumn
        have isPath : sort.target ∈ paths filters sorts :=
          List.mem_append_right _ (List.mem_map_of_mem isSort)
        rw [sameColumn]
        exact value_eq_of_plain keyed (sortPaths sort isSort) (plainSorts sort isSort) same
          (oneRelates _ isPath) (otherRelates _ isPath)
    rw [sameValue]
    exact Std.ReflCmp.compare_self

/-- The rows of the entity that a statement lets through are the wanted ones. -/
theorem Follows.exists_admitted_iff {row : TableRow} :
    (∃ tuple ∈ statement.admitted database (statement.joinedRows database tables),
      tuple.rowAt (.root entity.tableName) = row) ↔
      row ∈ tables entity.tableName ∧
        IsWanted operators database tables entity filters sorts row := by
  constructor
  · rintro ⟨tuple, admitted, rfl⟩
    obtain ⟨isJoined, holds⟩ := follows.mem_admitted_iff.1 admitted
    obtain ⟨row, isRow, choice⟩ := follows.mem_joinedRows_iff.1 isJoined
    rw [choice.isRow]
    exact ⟨isRow, tuple, choice, holds⟩
  · rintro ⟨isRow, tuple, choice, holds⟩
    have isJoined := follows.mem_joinedRows_iff.2 ⟨row, isRow, choice⟩
    exact ⟨tuple, follows.mem_admitted_iff.2 ⟨isJoined, holds⟩, choice.isRow⟩

open scoped Classical in
/-- Joins by keys let each wanted row through once. -/
theorem Follows.rootRows_admitted (keyed : TablesKeyed database tables known)
    (defined : ∃ name, known name = .ok entity.declared)
    (byKey : ∀ join ∈ statement.joins, join.IsByKey known) :
    (statement.admitted database (statement.joinedRows database tables)).map
        (·.rowAt (.root entity.tableName)) =
      (tables entity.tableName).filter
        (IsWanted operators database tables entity filters sorts) := by
  rw [← follows.rootRows_joinedRows keyed byKey, List.filter_map]
  congr 1
  apply List.filter_congr
  intro tuple isJoined
  apply decide_eq_decide.2
  rw [follows.condition_holds_iff]
  constructor
  · intro holds
    have admitted := follows.mem_admitted_iff.2 ⟨isJoined, holds⟩
    exact (follows.exists_admitted_iff.1 ⟨tuple, admitted, rfl⟩).2
  · rintro ⟨other, choice, holds⟩
    obtain ⟨row, isRow, whole⟩ := follows.mem_joinedRows_iff.1 isJoined
    have otherJoined : other ∈ statement.joinedRows database tables := by
      apply follows.mem_joinedRows_iff.2
      rw [← whole.isRow] at isRow
      exact ⟨_, isRow, choice⟩
    rw [follows.eq_of_rootRow keyed defined byKey isJoined otherJoined choice.isRow.symm]
    exact holds

open scoped Classical in
/-- A statement selects a row of its entity once if it is wanted, and else not at all. -/
theorem Follows.rootRows_perm (keyed : TablesKeyed database tables known)
    (defined : ∃ name, known name = .ok entity.declared)
    (isColumn : entity.primaryKeyAttribute.dataType ≠ .junction)
    (sortPaths : ∀ sort ∈ sorts, Plannable known entity sort.target)
    (plainSorts : ∀ sort ∈ sorts, ¬sort.target.CrossesJunction) {selected : List Tuple}
    (selects : statement.Selects database (statement.joinedRows database tables) selected) :
    (selected.map (·.rowAt (.root entity.tableName))).Perm
      ((tables entity.tableName).filter
        (IsWanted operators database tables entity filters sorts)) := by
  unfold Select.Selects at selects
  cases distinct : statement.distinct with
  | false =>
      rw [distinct, if_neg Bool.false_ne_true] at selects
      rw [← follows.rootRows_admitted keyed defined (follows.byKey distinct)]
      exact selects.map _
  | true =>
      rw [distinct, if_pos rfl] at selects
      obtain ⟨subset, apart, covers⟩ := selects
      have alike_iff {one other : Tuple}
          (isOne : one ∈ statement.admitted database (statement.joinedRows database tables))
          (isOther : other ∈ statement.admitted database (statement.joinedRows database tables)) :=
        follows.selectsAlike_iff keyed defined isColumn sortPaths plainSorts
          (follows.mem_admitted_iff.1 isOne).1 (follows.mem_admitted_iff.1 isOther).1
      have rootRowsNodup : (selected.map (·.rowAt (.root entity.tableName))).Nodup := by
        apply List.pairwise_map.2
        apply apart.imp_of_mem
        intro one other isOne isOther differ same
        rw [(alike_iff (subset isOne) (subset isOther)).2 same] at differ
        exact Bool.noConfusion differ
      obtain ⟨name, found⟩ := defined
      have rowsNodup : (tables entity.tableName).Nodup := (keyed found).nodup
      rw [List.perm_ext_iff_of_nodup rootRowsNodup (rowsNodup.filter _)]
      intro row
      rw [List.mem_filter, decide_eq_true_eq, ← follows.exists_admitted_iff, List.mem_map]
      constructor
      · rintro ⟨tuple, isSelected, isRow⟩
        exact ⟨tuple, subset isSelected, isRow⟩
      · rintro ⟨tuple, admitted, rfl⟩
        obtain ⟨other, isSelected, alike⟩ := covers tuple admitted
        exact ⟨other, isSelected, ((alike_iff admitted (subset isSelected)).1 alike).symm⟩

/-- Joined by keys, there is one choice of related rows for each row. -/
theorem Follows.existsUnique_choice (keyed : TablesKeyed database tables known)
    (defined : ∃ name, known name = .ok entity.declared)
    (byKey : ∀ join ∈ statement.joins, join.IsByKey known) {row : TableRow}
    (isRow : row ∈ tables entity.tableName) :
    ∃! tuple, IsChoice database tables entity (paths filters sorts) row tuple := by
  have joined := isRow
  rw [← follows.rootRows_joinedRows keyed byKey] at joined
  obtain ⟨tuple, isJoined, rfl⟩ := List.mem_map.1 joined
  obtain ⟨_, _, choice⟩ := follows.mem_joinedRows_iff.1 isJoined
  refine ⟨tuple, choice.isRow ▸ choice, fun other otherChoice => ?_⟩
  exact follows.eq_of_rootRow keyed defined byKey
    (follows.mem_joinedRows_iff.2 ⟨_, isRow, otherChoice⟩) isJoined otherChoice.isRow

/-- Where no path goes through a junction, all joins are by keys. -/
theorem Follows.byKey_of_plain (keyed : TablesKeyed database tables known)
    (plannable : ∀ path ∈ paths filters sorts, Plannable known entity path)
    (plain : ∀ path ∈ paths filters sorts, ¬path.CrossesJunction) :
    ∀ join ∈ statement.joins, join.IsByKey known := by
  intro join isJoin
  obtain ⟨path, isPath, onPath⟩ := (follows.joins join).1 isJoin
  exact isByKey_of_plain keyed (plannable path isPath) (plain path isPath) join onPath

end Selected

open scoped Classical in
/-- A list without a cursor shows each wanted row of its entity once, and no other rows, unless a
sort goes through a junction. -/
theorem selects_each_wanted_row_once {catalog : Catalog} (keyed : catalog.store.KeyedByName)
    (suffixFree : catalog.definitions.SuffixFree) {name : String} {stored : StoredEntity}
    (found : catalog.definitions name = .ok stored) {entity : LoadedEntity}
    (form : Catalog.IsForm catalog name stored entity)
    (isColumn : entity.primaryKeyAttribute.dataType ≠ .junction) (operators : Operators)
    {filters : List ResolvedFilter} {sorts : List ResolvedSort}
    (filterPaths : ∀ filter ∈ filters, ∃ path,
      answer (resolvePath entity path) catalog = .ok filter.target)
    (sortPaths : ∀ sort ∈ sorts, sort.target = .toPrimaryKey entity ∨ ∃ path,
      answer (resolvePath entity path) catalog = .ok sort.target)
    (plainSorts : ∀ sort ∈ sorts, ¬sort.target.CrossesJunction)
    {cursor : ResolvedCursor} (noEdge : cursor.isEmpty = true) (pagination : Pagination)
    (size : Int) {database : Database} {tables : Tables}
    (tablesKeyed : TablesKeyed database tables catalog.definitions) :
    (0 ≤ pagination.offset →
      (∀ filter ∈ filters, ∃ condition,
        filter.condition operators (filter.target.columnIn entity) = .ok condition) →
      ∃ listing, Listing.build operators entity filters sorts cursor pagination size =
        .ok listing) ∧
    ∀ listing,
      Listing.build operators entity filters sorts cursor pagination size = .ok listing →
      (∀ selected,
        listing.statement.Selects database (listing.statement.joinedRows database tables)
          selected →
        (selected.map (·.rowAt (.root entity.tableName))).Perm
          ((tables entity.tableName).filter
            (IsWanted operators database tables entity filters sorts))) ∧
      ((∀ filter ∈ filters, ¬filter.target.CrossesJunction) →
        ∀ row ∈ tables entity.tableName,
          ∃! tuple, IsChoice database tables entity (paths filters sorts) row tuple) := by
  obtain ⟨faithful, rfl⟩ := form.faithful keyed found
  have defined : ∃ name, catalog.definitions name = .ok entity.declared := ⟨name, found⟩
  have plannableFilters : ∀ filter ∈ filters,
      Plannable catalog.definitions entity filter.target := by
    intro filter isFilter
    obtain ⟨path, made⟩ := filterPaths filter isFilter
    exact plannable_of_resolvePath faithful keyed made
  have plannableSorts : ∀ sort ∈ sorts, Plannable catalog.definitions entity sort.target := by
    intro sort isSort
    rcases sortPaths sort isSort with toKey | ⟨path, made⟩
    · rw [toKey]
      exact plannable_toPrimaryKey faithful keyed (fun isJunction => absurd isJunction isColumn)
        fun isJunction => absurd isJunction isColumn
    · exact plannable_of_resolvePath faithful keyed made
  constructor
  · intro notNegative expressible
    obtain ⟨⟨filtering, sorted⟩, plan, planned, _⟩ :=
      yields_planned suffixFree defined plannableFilters expressible plannableSorts
    exact exists_build_of_isEmpty planned noEdge notNegative
  · intro listing built
    have follows :=
      follows_of_build suffixFree defined plannableFilters plannableSorts noEdge built
    refine ⟨fun selected selects => follows.rootRows_perm tablesKeyed defined isColumn
      plannableSorts plainSorts selects, fun plainFilters row isRow => ?_⟩
    refine follows.existsUnique_choice tablesKeyed defined
      (follows.byKey_of_plain tablesKeyed ?_ ?_) isRow
    · exact forall_mem_paths.2 ⟨plannableFilters, plannableSorts⟩
    · exact forall_mem_paths.2 ⟨plainFilters, plainSorts⟩

def shelf : StoredEntity where
  name := "Shelf"
  tableName := "shelves"
  attributes := [.ofColumn "id" .int]

def topic : StoredEntity where
  name := "Topic"
  tableName := "topics"
  attributes := [.ofColumn "id" .int]

/-- Books stand on a shelf and are about topics. -/
def book : StoredEntity where
  name := "Book"
  tableName := "books"
  attributes :=
    [.ofColumn "id" .int,
     { field := "shelf", dataType := .lookup, options := "Shelf" },
     { field := "topics", dataType := .junction, options := "Topic" }]

def library : Catalog where
  store := .ofEntities [book, shelf, topic]

def toShelf : ResolvedPath where
  path := "shelf.id"
  relationship := "shelf"
  steps :=
    [{ field := "shelf", dataType := .lookup, options := "Shelf", tableName := "books",
       relation := .lookup shelf.load }]
  leaf := (Attribute.ofColumn "id" .int).load "shelves"

def toTopics : ResolvedPath where
  path := "topics.id"
  relationship := "topics"
  steps :=
    [{ field := "topics", dataType := .junction, options := "Topic", tableName := "books",
       relation := .junction
        { tableName := "book_topic_topics", sourceName := "Book", sourceColumn := "book_id",
          targetColumn := "topic_id", target := topic.load } }]
  leaf := (Attribute.ofColumn "id" .int).load "topics"

/-- A row with a number in some columns and nothing in the others. -/
def numbered (numbers : List (String × Fin 10)) : TableRow where
  value name := (numbers.lookup name).elim .null fun number => .int number.val
  storable name := by
    cases numbers.lookup name with
    | none => rfl
    | some number => revert number; decide

/-- The first book is twice about its topic; the third is on no shelf. -/
def catalogued : Tables
  | "books" =>
      [numbered [("id", 1), ("shelf", 5)], numbered [("id", 2)],
        numbered [("id", 3), ("shelf", 9)]]
  | "shelves" => [numbered [("id", 5)]]
  | "topics" => [numbered [("id", 1)], numbered [("id", 2)]]
  | "book_topic_topics" =>
      [numbered [("book_id", 1), ("topic_id", 1)], numbered [("book_id", 1), ("topic_id", 1)],
        numbered [("book_id", 2), ("topic_id", 2)], numbered [("book_id", 3), ("topic_id", 1)]]
  | _ => []

theorem keyedBy_ofIntegers {key : String} {rows : List TableRow}
    (present : ∀ row ∈ rows, (row.value key).isNull = false)
    (apart : (rows.map fun row => Database.integerOf (row.value key)).Nodup) :
    KeyedBy .ofIntegers key rows where
  present row isRow := (Value.isNull_eq_false_iff _).1 (present row isRow)
  apart occurrence := by
    apply (List.pairwise_map.1 apart).imp
    intro one other differ same
    exact differ (compare_eq_iff_eq.1 same)

theorem tablesKeyed_catalogued : TablesKeyed .ofIntegers catalogued library.definitions := by
  intro name stored found
  have isKnown : stored ∈ [book, shelf, topic, book, shelf, topic] := Catalog.mem_schema found
  simp only [List.mem_cons, List.not_mem_nil, or_false] at isKnown
  rcases isKnown with rfl | rfl | rfl | rfl | rfl | rfl <;>
    exact keyedBy_ofIntegers (by decide) (by decide)

def onFirstTopic : List ResolvedFilter :=
  [{ target := toTopics, combination := .all, constraints := [⟨"eq", [.int 1]⟩] }]

def byShelf : List ResolvedSort :=
  [⟨toShelf, .ascending⟩, ⟨.toPrimaryKey book.load, .ascending⟩]

open scoped Classical in
/-- The first book is joined twice and selected once. -/
theorem books_on_first_topic_selected_once :
    library.store.KeyedByName ∧ library.definitions.SuffixFree ∧
      (∀ filter ∈ onFirstTopic, ∃ path,
        answer (resolvePath book.load path) library = .ok filter.target) ∧
      (∀ sort ∈ byShelf, ¬sort.target.CrossesJunction) ∧
      TablesKeyed .ofIntegers catalogued library.definitions ∧
      ∃ listing,
        Listing.build .standard book.load onFirstTopic byShelf { cursor := {} } {} 20 =
          .ok listing ∧
        (listing.statement.joinedRows .ofIntegers catalogued).map
          (·.value ⟨.root "books", "id"⟩) = [.int 1, .int 1, .int 2, .int 3] ∧
        (((catalogued "books").filter
          (IsWanted .standard .ofIntegers catalogued book.load onFirstTopic byShelf)).map
            (·.value "id")).Perm [.int 1, .int 3] := by
  have keyed : library.store.KeyedByName := Store.keyedByName_ofEntities _
  have suffixFree : library.definitions.SuffixFree := Catalog.suffixFree_of_schema (by decide)
  have found : library.definitions "Book" = .ok book := rfl
  have filterPaths : ∀ filter ∈ onFirstTopic, ∃ path,
      answer (resolvePath book.load path) library = .ok filter.target := by
    intro filter isFilter
    rw [List.mem_singleton.1 isFilter]
    exact ⟨"topics.id", rfl⟩
  have sortPaths : ∀ sort ∈ byShelf, sort.target = .toPrimaryKey book.load ∨ ∃ path,
      answer (resolvePath book.load path) library = .ok sort.target := by
    intro sort isSort
    rcases List.mem_pair.1 isSort with rfl | rfl
    · exact Or.inr ⟨"shelf.id", rfl⟩
    · exact Or.inl rfl
  have plainSorts : ∀ sort ∈ byShelf, ¬sort.target.CrossesJunction := by
    intro sort isSort
    rcases List.mem_pair.1 isSort with rfl | rfl <;>
      exact ResolvedPath.not_crossesJunction_iff.2 ⟨by decide, by decide⟩
  have noEdge : ({ cursor := {} } : ResolvedCursor).isEmpty = true := rfl
  refine ⟨keyed, suffixFree, filterPaths, plainSorts, tablesKeyed_catalogued, ?_⟩
  obtain ⟨builds, selects⟩ := selects_each_wanted_row_once keyed suffixFree found .shallow
    (by decide) .standard filterPaths sortPaths plainSorts noEdge {} 20 tablesKeyed_catalogued
  obtain ⟨listing, built⟩ := builds (by decide) fun filter isFilter => by
    rw [List.mem_singleton.1 isFilter]
    exact ⟨_, rfl⟩
  have once := (selects listing built).1 _ (Select.selects_selection _ _ _)
  obtain rfl := Except.ok.inj built
  refine ⟨_, rfl, rfl, ?_⟩
  refine (once.map (·.value "id")).symm.trans ?_
  rw [List.map_map]
  exact List.Perm.refl _

end Listing
end SchemaQuery
