import Mathlib.Data.List.DropRight
import SchemaQuery.Proofs.PathReading
import SchemaQuery.Proofs.RowToken

/-!
# A page is a window of the list

A list request names a list of rows: those that meet its filters, in the order of its
sorts.  This file proves that the rows fetched for a page are the right window of that
list: the first ones behind the edge of a cursor that leads forward, the last ones before
the edge of a cursor that leads backward, and without a cursor the first ones that are
left when some have been passed over.

For this the primary key has to be a column, and a sort on its path has to be by that column.
A key that holds a separator may be the path of a column of another table as well.
-/

namespace SchemaQuery
namespace Sql

def candidates (database : Database) (cursor : ResolvedCursor) (offset : Int)
    (sorted : List SortColumn) (listed : List Tuple) : List Tuple :=
  if cursor.isEmpty then listed.drop offset.toNat
  else if cursor.cursor.isForward then
    listed.filter fun row => edgeOrder database cursor sorted row = .lt
  else listed.filter fun row => edgeOrder database cursor sorted row = .gt

/-- Those of the candidates that are next to where a page starts. -/
def nearest (cursor : Cursor) (size : Nat) (candidates : List Tuple) : List Tuple :=
  if cursor.isForward then candidates.take size else candidates.rtake size

/-- Whether a row lies beyond the edge of a cursor, if there is one. -/
def liesBeyond (database : Database) (cursor : ResolvedCursor) (sorted : List SortColumn)
    (row : Tuple) : Bool :=
  cursor.isEmpty ||
    edgeOrder database cursor sorted row == (if cursor.cursor.isForward then .lt else .gt)

theorem liesBeyond_iff (database : Database) (cursor : ResolvedCursor) (primaryKey : String)
    (sorted : List SortColumn) (row : Tuple) :
    liesBeyond database cursor sorted row = true ↔
      cursor.isEmpty = true ∨ edgeRank database cursor primaryKey sorted row = .lt := by
  unfold liesBeyond
  rw [edgeRank_eq_edgeOrder, Bool.or_eq_true, beq_iff_eq]
  cases cursor.cursor.isForward <;> simp

theorem candidates_eq_drop (database : Database) {cursor : ResolvedCursor}
    {pagination : Pagination} {passed : Int} (sorted : List SortColumn) (listed : List Tuple)
    (made : Listing.offset cursor pagination = .ok passed) :
    candidates database cursor pagination.offset sorted listed =
      (listed.filter (liesBeyond database cursor sorted)).drop passed.toNat := by
  unfold Listing.offset at made
  unfold candidates liesBeyond
  cases noEdge : cursor.isEmpty with
  | true =>
      rw [noEdge] at made
      split at made
      · contradiction
      split at made
      · simp at made
      · obtain rfl := Except.ok.inj made
        simp
  | false =>
      rw [noEdge] at made
      obtain rfl := Except.ok.inj made
      cases cursor.cursor.isForward <;> simp [beq_eq_decide]

/-- A page can start behind rows that are passed over, and at any edge. -/
def HasStart (cursor : ResolvedCursor) (offset : Int) (sorted : List SortColumn) : Prop :=
  if cursor.isEmpty then cursor.cursor.isEmpty = true ∧ 0 ≤ offset else GivesEdge cursor sorted

end Sql

namespace Listing

open Sql Success

variable {operators : Operators} {entity : LoadedEntity} {filters : List ResolvedFilter}
  {sorts : List ResolvedSort} {cursor : ResolvedCursor} {pagination : Pagination} {size : Int}
  {filtering : List Condition} {sorted : List SortColumn} {plan : JoinPlan}
  {listing : Listing}

theorem exists_planned
    (built : Listing.build operators entity filters sorts cursor pagination size =
      .ok listing) :
    ∃ filtering sorted plan, (planned operators filters sorts).run { entity } =
      .ok ((filtering, sorted), plan) := by
  unfold Listing.build at built
  obtain ⟨⟨⟨filtering, sorted⟩, plan⟩, made, _⟩ := (bind_eq_ok _ _ _).1 built
  exact ⟨filtering, sorted, plan, (mapError_eq_ok _ _ _).1 made⟩

theorem build_eq_ok
    (planned : (Listing.planned operators filters sorts).run { entity } =
      .ok ((filtering, sorted), plan))
    (built : Listing.build operators entity filters sorts cursor pagination size =
      .ok listing) :
    ∃ conditions passed, Listing.conditions entity cursor filtering sorted = .ok conditions ∧
      Listing.offset cursor pagination = .ok passed ∧
      listing =
        { entity
          statement :=
            { distinct := plan.usesJunction
              projections := projections entity sorted
              root := entity.tableName
              joins := plan.joins
              conditions
              order := orderTerms cursor.cursor entity.primaryKey sorted
              limit := size + 1
              offset := passed }
          limit := size, sorts, cursor } := by
  unfold Listing.build at built
  simp only [planned, bind_eq_ok, mapError_eq_ok, pure_eq_ok] at built
  obtain ⟨_, same, conditions, conditionsMade, passed, passedMade, rfl⟩ := built
  obtain rfl := Except.ok.inj same
  exact ⟨conditions, passed, conditionsMade, passedMade, rfl⟩

theorem exists_build (pagination : Pagination) (size : Int)
    (planned : (Listing.planned operators filters sorts).run { entity } =
      .ok ((filtering, sorted), plan))
    (someSorts : sorted ≠ [])
    (noFlag : ∀ column ∈ sorted, column.sort.target.leaf.dataType ≠ .bool)
    (starts : HasStart cursor pagination.offset sorted) :
    ∃ listing, Listing.build operators entity filters sorts cursor pagination size =
      .ok listing := by
  obtain ⟨conditions, passed, conditionsMade, passedMade⟩ :
      ∃ conditions passed, Listing.conditions entity cursor filtering sorted = .ok conditions ∧
        Listing.offset cursor pagination = .ok passed := by
    unfold HasStart at starts
    unfold Listing.conditions Listing.offset
    split at starts
    · rename_i noEdge
      have notNegative : ¬pagination.offset < 0 := by omega
      rw [noEdge, if_neg notNegative]
      exact ⟨_, _, rfl, rfl⟩
    · rename_i edge
      obtain ⟨beyond, made⟩ :=
        Keyset.exists_condition_of_givesEdge entity.primaryKey someSorts noFlag starts
      rw [if_neg edge, made, if_pos (by simpa using edge)]
      exact ⟨_, _, rfl, rfl⟩
  unfold Listing.build
  simp only [planned, bind_eq_ok, mapError_eq_ok]
  exact ⟨_, _, rfl, conditions, conditionsMade, passed, passedMade, rfl⟩

/-- The conditions of a listing hold on the rows that its filters let through beyond its edge. -/
theorem conditions_hold {database : Database} {row : Tuple} {conditions : List Condition}
    (made : Listing.conditions entity cursor filtering sorted = .ok conditions)
    (keyed : row.HasKey entity.primaryKey sorted) :
    (∀ condition ∈ conditions, condition.truth database row = .holds) ↔
      (∀ condition ∈ filtering, condition.truth database row = .holds) ∧
        (cursor.isEmpty = true ∨
          edgeRank database cursor entity.primaryKey sorted row = .lt) := by
  unfold Listing.conditions at made
  split at made
  · rename_i noEdge
    obtain rfl := Except.ok.inj made
    simp [noEdge]
  · rename_i edge
    obtain ⟨beyond, beyondMade, gathered⟩ := (bind_eq_ok _ _ _).1 made
    obtain rfl := (pure_eq_ok _ _).1 gathered
    have beyondHolds := Keyset.truth_condition database row beyondMade keyed
    rw [List.forall_mem_append, List.forall_mem_singleton, beyondHolds]
    simp [edge]

theorem primaryKey_mem_ownColumns (isColumn : entity.primaryKeyAttribute.dataType ≠ .junction) :
    entity.primaryKey ∈ ownColumns entity := by
  unfold ownColumns
  unfold Entity.primaryKeyAttribute at isColumn
  cases located : entity.find? entity.primaryKey with
  | none => simp
  | some found =>
      rw [located, Option.getD_some] at isColumn
      have inTable : found ∈ entity.localAttributes := by
        unfold Entity.localAttributes
        rw [List.mem_filter]
        exact ⟨Entity.mem_of_find? located, bne_iff_ne.2 isColumn⟩
      have named : found.field = entity.primaryKey := Entity.field_of_find? located
      rw [Option.isSome_some, if_pos rfl, ← named]
      exact List.mem_map_of_mem inTable

theorem keyColumn_mem_projections (sorted : List SortColumn)
    (isColumn : entity.primaryKeyAttribute.dataType ≠ .junction) :
    ({ column := keyColumn entity } : Projection) ∈ projections entity sorted := by
  unfold projections
  apply List.mem_append_left
  exact List.mem_map_of_mem (primaryKey_mem_ownColumns isColumn)

theorem selectsAlike_eq_false {database : Database} {statement : Select} {one other : Tuple}
    (selected : ({ column := keyColumn entity } : Projection) ∈ statement.projections)
    (onePresent : one.value (keyColumn entity) ≠ .null)
    (otherPresent : other.value (keyColumn entity) ≠ .null)
    (apart : database.compare (keyColumn entity) (one.value (keyColumn entity))
      (other.value (keyColumn entity)) ≠ .eq) :
    statement.selectsAlike database one other = false := by
  rw [← Bool.not_eq_true, Select.selectsAlike_iff]
  intro alike
  apply apart
  have same := alike _ selected
  unfold withMissing at same
  rw [(Value.isNull_eq_false_iff _).2 onePresent,
    (Value.isNull_eq_false_iff _).2 otherPresent] at same
  exact same

/-- One row more than a page holds has been fetched, which the page drops before
it is turned around. -/
theorem pageOf_take {α : Type} {size : Int} (cursor : Cursor) (ordered : List α)
    (nonneg : 0 ≤ size) :
    pageOf (ordered.take (size + 1).toNat) size cursor =
      (if cursor.isForward then ordered.take size.toNat
        else (ordered.take size.toNat).reverse,
        decide (size.toNat < ordered.length)) := by
  have more : size < ((ordered.take (size + 1).toNat).length : Int) ↔
      size.toNat < ordered.length := by
    rw [List.length_take]
    omega
  have kept : (if size.toNat < ordered.length then
      takeRows size (ordered.take (size + 1).toNat) else ordered.take (size + 1).toNat) =
        ordered.take size.toNat := by
    rw [takeRows_of_nonneg _ nonneg]
    split
    · rw [List.take_take, Nat.min_eq_left (by omega)]
    · rename_i fewer
      rw [Nat.not_lt] at fewer
      rw [List.take_of_length_le (by omega), List.take_of_length_le fewer]
  unfold pageOf
  simp only [decide_eq_true_eq, more, kept]

section Fetched

variable {database : Database} {rows : List Tuple}
  (planned : (Listing.planned operators filters sorts).run { entity } =
    .ok ((filtering, sorted), plan))
  (built : Listing.build operators entity filters sorts cursor pagination size = .ok listing)

include planned built

theorem admitted_perm (includes : IncludesKey entity sorted)
    (keyed : Keyed database entity rows) :
    (listing.statement.admitted database rows).Perm
      ((ranked database filtering sorted rows).filter (liesBeyond database cursor sorted)) := by
  obtain ⟨conditions, passed, conditionsMade, _, rfl⟩ := build_eq_ok planned built
  apply List.Perm.trans _ ((perm_ranked database filtering).symm.filter _)
  rw [List.filter_filter]
  apply List.Perm.of_eq
  apply List.filter_congr
  intro row member
  rw [Bool.eq_iff_iff, decide_eq_true_eq, Select.truth_condition,
    conditions_hold conditionsMade (keyed.hasKey database includes member),
    Bool.and_eq_true, liesBeyond_iff database cursor entity.primaryKey, List.all_eq_true]
  simp only [decide_eq_true_eq]
  exact and_comm

/-- A statement selects all listed rows beyond the edge, of which no two look alike. -/
theorem selected_perm (isColumn : entity.primaryKeyAttribute.dataType ≠ .junction)
    (includes : IncludesKey entity sorted) (keyed : Keyed database entity rows)
    {selected : List Tuple} (selects : listing.statement.Selects database rows selected) :
    selected.Perm
      ((ranked database filtering sorted rows).filter (liesBeyond database cursor sorted)) := by
  have keySelected : ({ column := keyColumn entity } : Projection) ∈
      listing.statement.projections := by
    obtain ⟨conditions, passed, _, _, rfl⟩ := build_eq_ok planned built
    exact keyColumn_mem_projections sorted isColumn
  have present {row : Tuple} (member : row ∈ listing.statement.admitted database rows) :
      row.value (keyColumn entity) ≠ .null :=
    keyed.present row (List.mem_filter.1 member).1
  have apart : (listing.statement.admitted database rows).Pairwise fun one other =>
      listing.statement.selectsAlike database one other = false := by
    apply (keyed.apart.filter _).imp_of_mem
    intro one other oneMember otherMember differ
    exact selectsAlike_eq_false keySelected (present oneMember) (present otherMember) differ
  have selectedPerm := listing.statement.perm_of_selects database selects apart
  exact selectedPerm.trans (admitted_perm planned built includes keyed)

theorem compareRows_order {one other : Tuple} (oneKeyed : one.HasKey entity.primaryKey sorted)
    (otherKeyed : other.HasKey entity.primaryKey sorted) :
    compareRows database listing.statement.order one other =
      if cursor.cursor.isForward then requestedOrder database sorted one other
      else requestedOrder database sorted other one := by
  obtain ⟨conditions, passed, _, _, rfl⟩ := build_eq_ok planned built
  rw [@Std.OrientedCmp.eq_swap _ (requestedOrder database sorted) _ other one,
    ← @rankRows_orderTerms database entity.primaryKey]
  exact Keyset.compareRows_orderTerms database cursor.cursor oneKeyed otherKeyed

/-- A statement selects the listed rows beyond the edge in order, or in the reverse. -/
theorem ordered_eq (isColumn : entity.primaryKeyAttribute.dataType ≠ .junction)
    (includes : IncludesKey entity sorted) (keyed : Keyed database entity rows)
    {ordered : List Tuple} (selects : listing.statement.Selects database rows ordered)
    (increasing : ordered.Pairwise fun one other =>
      (compareRows database listing.statement.order one other).isLE) :
    (if cursor.cursor.isForward then ordered else ordered.reverse) =
      (ranked database filtering sorted rows).filter (liesBeyond database cursor sorted) := by
  have perm := selected_perm planned built isColumn includes keyed selects
  have listedOrdered : ((ranked database filtering sorted rows).filter
      (liesBeyond database cursor sorted)).Pairwise fun one other =>
        requestedOrder database sorted one other = .lt :=
    (keyed.pairwise_ranked database includes filtering).filter _
  have hasKey {row : Tuple} (member : row ∈ ordered) :
      row.HasKey entity.primaryKey sorted := by
    apply keyed.hasKey database includes
    exact mem_of_mem_ranked database (List.mem_filter.1 (perm.mem_iff.1 member)).1
  have oriented : ordered.Pairwise fun one other =>
      (if cursor.cursor.isForward then requestedOrder database sorted one other
        else requestedOrder database sorted other one).isLE := by
    apply increasing.imp_of_mem
    intro one other oneMember otherMember below
    rw [compareRows_order planned built (hasKey oneMember) (hasKey otherMember)] at below
    exact below
  have tellsApart : ordered.Pairwise fun one other =>
      requestedOrder database sorted one other ≠ .eq := by
    apply List.Pairwise.perm _ perm.symm
    · intro one other differ equal
      exact differ (Std.OrientedCmp.eq_symm equal)
    · apply listedOrdered.imp
      intro one other before
      rw [before]
      decide
  -- A permutation that is ordered strictly and in the same way is the list itself.
  cases forward : cursor.cursor.isForward with
  | true =>
      simp only [forward, if_true] at oriented
      rw [if_pos rfl]
      exact eq_of_perm_of_pairwise_lt perm (pairwise_lt_of_isLE oriented tellsApart)
        listedOrdered
  | false =>
      simp only [forward, Bool.false_eq_true, if_false] at oriented
      rw [if_neg Bool.false_ne_true]
      refine eq_of_perm_of_pairwise_lt ((List.reverse_perm _).trans perm)
        (pairwise_lt_of_isLE (List.pairwise_reverse.2 oriented) ?_) listedOrdered
      rw [List.pairwise_reverse]
      apply tellsApart.imp
      intro one other differ equal
      exact differ (Std.OrientedCmp.eq_symm equal)

/-- Fetched rows make up the window of the listed rows that a page shows. -/
theorem pageOf_fetched (nonneg : 0 ≤ size)
    (emptyCursor : cursor.isEmpty = true → cursor.cursor.isEmpty = true)
    (isColumn : entity.primaryKeyAttribute.dataType ≠ .junction)
    (includes : IncludesKey entity sorted) (keyed : Keyed database entity rows)
    {fetched : List Row} (answers : listing.statement.Answers database rows fetched) :
    let found := candidates database cursor pagination.offset sorted
      (ranked database filtering sorted rows)
    pageOf fetched size cursor.cursor =
      ((nearest cursor.cursor size.toNat found).map listing.statement.rowOf,
        decide (size.toNat < found.length)) := by
  intro found
  obtain ⟨ordered, selects, increasing, rfl⟩ := answers
  have oriented := ordered_eq planned built isColumn includes keyed selects increasing
  obtain ⟨conditions, passed, _, passedMade, built⟩ := build_eq_ok planned built
  have foundEq : found = _ := candidates_eq_drop database sorted
    (ranked database filtering sorted rows) passedMade
  rw [← oriented] at foundEq
  have window : (listing.statement.window ordered).map listing.statement.rowOf =
      ((ordered.drop passed.toNat).map listing.statement.rowOf).take (size + 1).toNat := by
    rw [built, Select.window, List.map_take]
  rw [window, pageOf_take cursor.cursor _ nonneg]
  unfold nearest
  cases forward : cursor.cursor.isForward with
  | true =>
      rw [forward, if_pos rfl] at foundEq
      rw [if_pos rfl, if_pos rfl, foundEq, List.map_take, List.length_map]
  | false =>
      -- Rows are only passed over without a cursor, and then nothing is turned around.
      have notPassed : passed = 0 := by
        have edge : cursor.isEmpty = false := by
          rw [← Bool.not_eq_true]
          intro noEdge
          rw [Cursor.isForward_of_isEmpty (emptyCursor noEdge)] at forward
          exact absurd forward (by decide)
        unfold Listing.offset at passedMade
        rw [edge] at passedMade
        exact (Except.ok.inj passedMade).symm
      rw [forward, if_neg (by decide), notPassed] at foundEq
      rw [if_neg (by decide), if_neg (by decide), foundEq, notPassed,
        List.rtake_eq_reverse_take_reverse]
      simp

end Fetched

/-- The path of each sort is the name of a selected column. -/
theorem exists_mem_sortProjections (selected : List String) (sorted : List SortColumn) :
    ∀ column ∈ sorted, (column.sort.target.steps = [] ∧ column.sort.path ∈ selected) ∨
      ∃ other ∈ sorted, other.sort.path = column.sort.path ∧
        { column := other.column, label := some column.sort.path } ∈
          sortProjections selected sorted := by
  induction sorted generalizing selected with
  | nil => simp
  | cons first rest hypothesis =>
      intro column isColumn
      unfold sortProjections
      dsimp only
      split
      · rename_i already
        rw [Bool.and_eq_true, List.contains_iff_mem] at already
        rcases List.mem_cons.1 isColumn with rfl | later
        · exact Or.inl ⟨List.isEmpty_iff.1 already.1, already.2⟩
        · refine (hypothesis selected column later).imp_right ?_
          rintro ⟨other, isOther, same, placed⟩
          exact ⟨other, List.mem_cons_of_mem _ isOther, same, placed⟩
      · rcases List.mem_cons.1 isColumn with rfl | later
        · exact Or.inr ⟨column, List.mem_cons_self, rfl, List.mem_cons_self⟩
        · rcases hypothesis (first.sort.path :: selected) column later with
            ⟨isLocal, known⟩ | ⟨other, isOther, same, placed⟩
          · rcases List.mem_cons.1 known with same | known
            · refine Or.inr ⟨first, List.mem_cons_self, same.symm, ?_⟩
              rw [same]
              exact List.mem_cons_self
            · exact Or.inl ⟨isLocal, known⟩
          · exact Or.inr ⟨other, List.mem_cons_of_mem _ isOther, same,
              List.mem_cons_of_mem _ placed⟩

/-- Every sort has a selected column with its path as name. -/
theorem path_mem_projections (sorted : List SortColumn)
    (isColumn : entity.primaryKeyAttribute.dataType ≠ .junction) :
    ∀ column ∈ sorted,
      column.sort.path ∈ (projections entity sorted).map Projection.name := by
  intro column member
  have ownNames : ((ownColumns entity).map fun name =>
      ({ column := ⟨.root entity.tableName, name⟩ } : Projection)).map Projection.name =
        ownColumns entity := by
    rw [List.map_map]
    exact List.map_id _
  unfold projections
  rw [List.map_append, List.mem_append, ownNames]
  rcases exists_mem_sortProjections (entity.primaryKey :: ownColumns entity) sorted column member
    with ⟨_, selected⟩ | ⟨_, _, _, projected⟩
  · rcases List.mem_cons.1 selected with isKey | own
    · rw [isKey]
      exact Or.inl (primaryKey_mem_ownColumns isColumn)
    · exact Or.inl own
  · exact Or.inr (List.mem_map_of_mem projected)

/-- A row has a value that may stand in a column under each selected name. -/
theorem exists_valueAt_project {selected : List Projection} {name : String} (row : Tuple)
    (named : name ∈ selected.map Projection.name) :
    ∃ value, (project selected row).valueAt? name = some value ∧ value.isStorable = true := by
  have isKey : name ∈ (selected.map fun projection =>
      (projection.name, row.value projection.column)).map Prod.fst := by
    rw [List.map_map]
    exact named
  obtain ⟨value, member, found⟩ := Dictionary.exists_get?_ofEntries isKey
  obtain ⟨projection, _, same⟩ := List.mem_map.1 member
  refine ⟨value, ?_, ?_⟩
  · unfold Row.valueAt? project
    rw [found]
  · rw [← (Prod.mk.inj same).2]
    exact row.storable _

theorem exists_ofRow_project
    (planned : (Listing.planned operators filters sorts).run { entity } =
      .ok ((filtering, sorted), plan))
    (isColumn : entity.primaryKeyAttribute.dataType ≠ .junction) (row : Tuple) :
    ∃ token, Token.ofRow (project (projections entity sorted) row) sorts = .ok token := by
  obtain ⟨sameSorts, _⟩ := planned_eq_ok planned
  apply Token.exists_ofRow
  intro sort member
  rw [← sameSorts] at member
  obtain ⟨column, columnMember, rfl⟩ := List.mem_map.1 member
  exact exists_valueAt_project row (path_mem_projections sorted isColumn column columnMember)

theorem page_eq_ok {fetched items : List Row} {hasMore : Bool} {page : Page}
    (paged : pageOf fetched listing.limit listing.cursor.cursor = (items, hasMore)) :
    listing.page fetched = .ok page ↔
      (items = [] ∧
          page = { items := [], cursor := {}, hasPrevious := false, hasNext := false }) ∨
        (items ≠ [] ∧ ∃ next,
          listing.cursor.cursor.next items listing.sorts hasMore = .ok next ∧
            page = { items, cursor := next, hasPrevious := next.first.any (· != "")
                     hasNext := next.last.any (· != "") }) := by
  unfold Listing.page
  dsimp only
  rw [paged]
  cases items with
  | nil =>
      rw [List.isEmpty_nil, if_pos rfl, pure_eq_ok, eq_comm]
      simp
  | cons item rest =>
      rw [List.isEmpty_cons, if_neg (by decide), bind_eq_ok]
      simp only [pure_eq_ok, @eq_comm _ _ page]
      simp

/-- A page with rows has the flags of its cursor, and tokens just on the sides that these say. -/
theorem exists_page
    (planned : (Listing.planned operators filters sorts).run { entity } =
      .ok ((filtering, sorted), plan))
    (built : Listing.build operators entity filters sorts cursor pagination size =
      .ok listing)
    (isColumn : entity.primaryKeyAttribute.dataType ≠ .junction)
    (includes : IncludesKey entity sorted) {fetched : List Row} {shown : List Tuple}
    {hasMore : Bool}
    (paged : pageOf fetched listing.limit listing.cursor.cursor =
      (shown.map listing.statement.rowOf, hasMore)) :
    ∃ page, listing.page fetched = .ok page ∧
      page.items = shown.map listing.statement.rowOf ∧
      (shown ≠ [] →
        (page.hasPrevious, page.hasNext) = listing.cursor.cursor.pageFlags hasMore ∧
          Cursor.isGiven page.cursor.first = page.hasPrevious ∧
          Cursor.isGiven page.cursor.last = page.hasNext) := by
  by_cases empty : shown = []
  · refine ⟨_, (page_eq_ok paged).2 (Or.inl ⟨by rw [empty, List.map_nil], rfl⟩), ?_, ?_⟩
    · rw [empty, List.map_nil]
    · exact fun someRows => absurd empty someRows
  · have someItems : shown.map listing.statement.rowOf ≠ [] := by simpa using empty
    have someSorts : listing.sorts ≠ [] := by
      obtain ⟨column, member, _⟩ := includes.exists_key
      obtain ⟨sameSorts, _⟩ := planned_eq_ok planned
      obtain ⟨conditions, passed, _, _, rfl⟩ := build_eq_ok planned built
      rw [← sameSorts]
      exact List.ne_nil_of_mem (List.mem_map_of_mem member)
    have tokens : ∀ item ∈ shown.map listing.statement.rowOf,
        ∃ token, Token.ofRow item listing.sorts = .ok token := by
      intro item member
      obtain ⟨row, _, rfl⟩ := List.mem_map.1 member
      obtain ⟨conditions, passed, _, _, rfl⟩ := build_eq_ok planned built
      exact exists_ofRow_project planned isColumn row
    have isToken {item : Row} (member : item ∈ shown.map listing.statement.rowOf) :
        Cursor.isGiven (some (Token.orBlank listing.sorts item)) = true :=
      Token.isGiven_ofRow (Token.ofRow_eq_orBlank (tokens item member))
    have nextMade := listing.cursor.cursor.next_eq_ok hasMore someItems someSorts tokens
    rw [List.head?_eq_some_head someItems, List.getLast?_eq_some_getLast someItems] at nextMade
    obtain ⟨firstGiven, hasFirst⟩ := Cursor.isGiven_side (isToken (List.head_mem someItems))
      (listing.cursor.cursor.pageFlags hasMore).1
    obtain ⟨lastGiven, hasLast⟩ := Cursor.isGiven_side (isToken (List.getLast_mem someItems))
      (listing.cursor.cursor.pageFlags hasMore).2
    refine ⟨_, (page_eq_ok paged).2 (Or.inr ⟨someItems, _, nextMade, rfl⟩), rfl, fun _ => ?_⟩
    exact ⟨Prod.ext hasFirst hasLast, firstGiven.trans hasFirst.symm, lastGiven.trans hasLast.symm⟩

/-- A page shows the listed rows next to where it starts, in the requested order: the first ones
behind the edge, or the last ones before it. It knows whether there are more. -/
theorem page_shows_nearest_candidates (database : Database) (catalog : Catalog)
    (terms : List SortTerm) (cursor : ResolvedCursor) (pagination : Pagination) (size : Int)
    (resolved : Catalog.answer (SortTerm.resolveAll entity terms) catalog = .ok sorts)
    (isColumn : entity.primaryKeyAttribute.dataType ≠ .junction)
    (isOwn : pathSeparator ∉ entity.primaryKey.toList ∨
      ∀ sort ∈ sorts, sort.path ≠ entity.primaryKey)
    (planned : (Listing.planned operators filters
      (ResolvedSort.withPrimaryKey entity sorts)).run { entity } =
        .ok ((filtering, sorted), plan))
    (positive : 1 ≤ size)
    (noFlag : ∀ column ∈ sorted, column.sort.target.leaf.dataType ≠ .bool)
    (starts : HasStart cursor pagination.offset sorted) :
    ∃ listing, Listing.build operators entity filters
        (ResolvedSort.withPrimaryKey entity sorts) cursor pagination size = .ok listing ∧
      ∀ (rows : List Tuple) (fetched : List Row), Keyed database entity rows →
        listing.statement.Answers database rows fetched →
        let found := candidates database cursor pagination.offset sorted
          (ranked database filtering sorted rows)
        let items := (nearest cursor.cursor size.toNat found).map listing.statement.rowOf
        pageOf fetched listing.limit listing.cursor.cursor =
            (items, decide (size.toNat < found.length)) ∧
          ∃ page, listing.page fetched = .ok page ∧ page.items = items := by
  have byKey := (sortsByKey_iff resolved).2 ⟨isColumn, isOwn⟩
  have includes := includesKey_of_planned byKey planned
  obtain ⟨column, member, _⟩ := includes.exists_key
  obtain ⟨listing, built⟩ := exists_build pagination size planned (List.ne_nil_of_mem member)
    noFlag starts
  refine ⟨listing, built, ?_⟩
  have sameParts : listing.limit = size ∧ listing.cursor = cursor := by
    obtain ⟨conditions, passed, _, _, rfl⟩ := build_eq_ok planned built
    exact ⟨rfl, rfl⟩
  obtain ⟨rfl, rfl⟩ := sameParts
  have emptyCursor : listing.cursor.isEmpty = true → listing.cursor.cursor.isEmpty = true := by
    intro noEdge
    unfold HasStart at starts
    rw [if_pos noEdge] at starts
    exact starts.1
  intro rows fetched keyed answers found items
  have paged := pageOf_fetched planned built (by omega) emptyCursor isColumn includes keyed
    answers
  obtain ⟨page, made, sameItems, _⟩ := exists_page planned built isColumn includes paged
  exact ⟨paged, page, made, sameItems⟩

def players : LoadedEntity where
  name := "Player"
  tableName := "player"
  attributes := [Keyset.byNumber.target.leaf, Keyset.byScore.target.leaf]

/-- Five players, of whom two have the same score and the others none. -/
def team : List Tuple :=
  [Keyset.player (.int 1) .null, Keyset.player (.int 2) (.int 9),
    Keyset.player (.int 3) .null, Keyset.player (.int 4) (.int 9),
    Keyset.player (.int 5) .null]

def beforeThird : ResolvedCursor where
  cursor := { first := some "e30" }
  edge := Keyset.behindThird.edge

theorem keyed_team : Keyed .ofIntegers players team where
  present := by simp [team, Keyset.player, keyColumn, players]
  apart := by decide

def byScoreTerms : List SortTerm :=
  [{ path := "score", order := .text "desc" }]

theorem resolved_byScore : Catalog.answer (SortTerm.resolveAll players byScoreTerms)
    (Catalog.settle {}) = .ok [Keyset.byScore] := rfl

/-- Books whose own key is called like the path of their author's number. -/
def volumes : LoadedEntity where
  name := "Book"
  tableName := "books"
  primaryKey := "author.id"
  attributes :=
    [{ field := "author", dataType := .lookup, options := "Author", tableName := "books"
       relation := .lookup
        { name := "Author"
          tableName := "authors"
          attributes := [{ field := "id", dataType := .int, tableName := "authors" }] } }]

def byAuthor : ResolvedSort where
  target :=
    { path := "author.id"
      relationship := "author"
      steps := volumes.attributes
      leaf := { field := "id", dataType := .int, tableName := "authors" } }
  direction := .ascending

def authorColumn : SortColumn where
  sort := byAuthor
  column := ⟨.joined "author", "id"⟩

def volume (key author : Value)
    (storable : (key.isStorable && author.isStorable) = true := by decide) : Tuple where
  value column := if column.table = .root "books" then key else author
  storable column := by
    rw [Bool.and_eq_true] at storable
    split
    · exact storable.1
    · exact storable.2

/-- The cursor of a page before or behind the books of an author. -/
def aroundAuthor (number : Int) (cursor : Cursor) : ResolvedCursor where
  cursor := cursor
  edge := some [("author.id", .int number)]

/-- Before the third player come two with a score and one without. A book without an author is not
found before the others where the key is called like the path that is sorted by. -/
theorem page_before_third :
    (players.primaryKeyAttribute.dataType ≠ .junction ∧
      pathSeparator ∉ players.primaryKey.toList ∧ HasStart beforeThird 0 Keyset.ranking ∧
      Keyed .ofIntegers players team ∧
      ∃ listing, Listing.build .standard players []
          (ResolvedSort.withPrimaryKey players [Keyset.byScore]) beforeThird {} 2 = .ok listing ∧
        ∃ page, listing.page (listing.statement.answer .ofIntegers team) = .ok page ∧
          page.items =
            [[("id", .int 4), ("score", .int 9)], [("id", .int 1), ("score", .null)]]) ∧
      let beforeFifth := aroundAuthor 5 { first := some "e30" }
      let unsigned := [volume (.int 1) .null]
      Catalog.answer (SortTerm.resolveAll volumes [{ path := "author.id" }])
          (Catalog.settle {}) = .ok [byAuthor] ∧
        candidates .ofIntegers beforeFifth 0 [authorColumn]
          (ranked .ofIntegers [] [authorColumn] unsigned) = unsigned ∧
        ∃ listing, Listing.build .standard volumes []
            (ResolvedSort.withPrimaryKey volumes [byAuthor]) beforeFifth {} 2 = .ok listing ∧
          listing.statement.answer .ofIntegers unsigned = [] := by
  have starts : HasStart beforeThird 0 Keyset.ranking := Keyset.givesEdge_behindThird
  have planned : (Listing.planned .standard []
      (ResolvedSort.withPrimaryKey players [Keyset.byScore])).run { entity := players } =
        .ok (([], Keyset.ranking), { entity := players }) := rfl
  have isColumn : players.primaryKeyAttribute.dataType ≠ .junction := by decide
  have noSeparator : pathSeparator ∉ players.primaryKey.toList := by decide
  obtain ⟨listing, built, shows⟩ := page_shows_nearest_candidates .ofIntegers (Catalog.settle {})
    byScoreTerms beforeThird {} 2 resolved_byScore isColumn (Or.inl noSeparator) planned
    (by decide) (by decide) starts
  refine ⟨⟨isColumn, noSeparator, starts, keyed_team, listing, built, ?_⟩, rfl, rfl, _, rfl, rfl⟩
  obtain ⟨_, page, paged, items⟩ := shows team _ keyed_team (Select.answers_answer _ _ _)
  refine ⟨page, paged, ?_⟩
  rw [items]
  obtain rfl := Except.ok.inj built
  rfl

end Listing
end SchemaQuery
