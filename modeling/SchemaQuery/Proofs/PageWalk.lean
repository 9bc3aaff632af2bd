import SchemaQuery.Proofs.CursorReading
import SchemaQuery.Proofs.PageWindow

/-!
# Walking through the pages of a list

The first page of a list is fetched without a cursor, and each next one with the last
token of the page before it.  This file proves that the walk ends, that its pages together
show every row of the list once and in order, and that the first token of a page leads back
to the page before it.

The rows of the list stand one after another in a strict order.  Behind a page that shows
rows up to some place, the walk goes on at that place: this is what each step keeps.
-/

namespace SchemaQuery

open Sql Success

namespace Sql

/-- In a strictly ordered list the rows beyond one of its rows are those behind it,
or else before it. -/
theorem filter_around {order : Tuple → Tuple → Ordering} [Std.TransCmp order]
    {before behind : List Tuple} {edge : Tuple}
    (ordered : (before ++ edge :: behind).Pairwise fun one other => order one other = .lt) :
    (before ++ edge :: behind).filter (fun row => order edge row = .lt) = behind ∧
      (before ++ edge :: behind).filter (fun row => order edge row = .gt) = before := by
  obtain ⟨_, edgeOrdered, across⟩ := List.pairwise_append.1 ordered
  obtain ⟨edgeBefore, _⟩ := List.pairwise_cons.1 edgeOrdered
  have self : order edge edge = .eq := Std.ReflCmp.compare_self
  have earlier : ∀ row ∈ before, order edge row = .gt := by
    intro row member
    rw [Std.OrientedCmp.gt_iff_lt]
    exact across row member edge List.mem_cons_self
  rw [List.filter_append, List.filter_append, List.filter_cons, List.filter_cons, self]
  constructor
  · have none : before.filter (fun row => order edge row = .lt) = [] := by
      rw [List.filter_eq_nil_iff]
      intro row member
      rw [earlier row member]
      decide
    have all : behind.filter (fun row => order edge row = .lt) = behind := by
      rw [List.filter_eq_self]
      intro row member
      rw [edgeBefore row member]
      decide
    rw [none, all]
    rfl
  · have none : behind.filter (fun row => order edge row = .gt) = [] := by
      rw [List.filter_eq_nil_iff]
      intro row member
      rw [edgeBefore row member]
      decide
    have all : before.filter (fun row => order edge row = .gt) = before := by
      rw [List.filter_eq_self]
      intro row member
      rw [earlier row member]
      decide
    rw [none, all]
    simp

theorem filter_getElem {order : Tuple → Tuple → Ordering} [Std.TransCmp order]
    {listed : List Tuple} {place : Nat} (inside : place < listed.length)
    (ordered : listed.Pairwise fun one other => order one other = .lt) :
    listed.filter (fun row => order listed[place] row = .lt) = listed.drop (place + 1) ∧
      listed.filter (fun row => order listed[place] row = .gt) = listed.take place := by
  have split : listed.take place ++ listed[place] :: listed.drop (place + 1) = listed := by
    rw [List.getElem_cons_drop, List.take_append_drop]
  have around := @filter_around order _ _ _ _ (split.symm ▸ ordered)
  rw [split] at around
  exact around

end Sql

/-- What pages of one list are fetched with. -/
structure Pager where
  operators : Operators
  casters : Casters
  catalog : Catalog
  entity : LoadedEntity
  filters : List ResolvedFilter
  sorts : List ResolvedSort
  size : Int
  fetch : Listing → List Row

namespace Pager

variable (pager : Pager)

def totalSorts : List ResolvedSort :=
  ResolvedSort.withPrimaryKey pager.entity pager.sorts

def resolve (cursor : Cursor) : Except Refusal ResolvedCursor :=
  Catalog.answer (cursor.resolve pager.casters pager.entity) pager.catalog

/-- The listing for a cursor, in which no rows are passed over. -/
def listing (cursor : Cursor) : Except Failure Listing := do
  let resolved ← (pager.resolve cursor).mapError .refused
  Listing.build pager.operators pager.entity pager.filters pager.totalSorts resolved {}
    pager.size

def page (cursor : Cursor) : Except Failure Page := do
  let listing ← pager.listing cursor
  (listing.page (pager.fetch listing)).mapError .refused

/-- A walk from the page for a cursor on, as long as there is a next one. -/
inductive Walk : Cursor → List Page → Prop where
  | last {cursor : Cursor} {page : Page} (fetched : pager.page cursor = .ok page)
      (noNext : page.hasNext = false) : Walk cursor [page]
  | next {cursor : Cursor} {page : Page} {rest : List Page}
      (fetched : pager.page cursor = .ok page) (hasNext : page.hasNext = true)
      (others : Walk { last := page.cursor.last } rest) : Walk cursor (page :: rest)

def shownRow (sorted : List SortColumn) (row : Tuple) : Row :=
  project (Listing.projections pager.entity sorted) row

/-- A pager serves the rows of tables: its list can be planned, each row has a key of its own,
statements are answered over the same rows, and tokens give back the values of their rows. -/
structure Serves (database : Database) (rows : List Tuple) (filtering : List Condition)
    (sorted : List SortColumn) : Prop where
  positive : 1 ≤ pager.size
  resolved : ∃ terms, Catalog.answer (SortTerm.resolveAll pager.entity terms) pager.catalog =
    .ok pager.sorts
  isColumn : pager.entity.primaryKeyAttribute.dataType ≠ .junction
  isOwn : pathSeparator ∉ pager.entity.primaryKey.toList ∨
    ∀ sort ∈ pager.sorts, sort.path ≠ pager.entity.primaryKey
  planned : ∃ plan, (Listing.planned pager.operators pager.filters pager.totalSorts).run
    { entity := pager.entity } = .ok ((filtering, sorted), plan)
  keyed : Keyed database pager.entity rows
  noFlag : ∀ column ∈ sorted, column.sort.target.leaf.dataType ≠ .bool
  onlyFlags : ∀ row ∈ rows, ∀ column ∈ sorted, (row.value column.column).isBool = true →
    column.sort.target.leaf.dataType = .bool
  answers : ∀ cursor listing, pager.listing cursor = .ok listing →
    listing.statement.Answers database rows (pager.fetch listing)
  givesBack : ∀ row ∈ rows, ∀ cursor : Cursor, cursor.isEmpty = false →
    Token.ofRow (pager.shownRow sorted row) pager.totalSorts = .ok cursor.token →
    ∃ edge, pager.resolve cursor = .ok { cursor, edge := some edge } ∧
      ∀ column ∈ sorted, edge.get? column.sort.path = some (row.value column.column)

def tokenOf (sorted : List SortColumn) (row : Tuple) : String :=
  Token.orBlank pager.totalSorts (pager.shownRow sorted row)

def pageShowing (sorted : List SortColumn) (shown : List Tuple) (hasPrevious hasNext : Bool) :
    Page where
  items := shown.map (pager.shownRow sorted)
  cursor :=
    { first := some (if hasPrevious then (shown.head?.map (pager.tokenOf sorted)).getD "" else "")
      last := some (if hasNext then (shown.getLast?.map (pager.tokenOf sorted)).getD "" else "") }
  hasPrevious := hasPrevious
  hasNext := hasNext

def pageFrom (sorted : List SortColumn) (listed : List Tuple) (place : Nat) : Page :=
  pager.pageShowing sorted ((listed.drop place).take pager.size.toNat) (decide (0 < place))
    (decide (place + pager.size.toNat < listed.length))

theorem totalSorts_ne_nil : pager.totalSorts ≠ [] := by
  obtain ⟨sort, member, _⟩ :=
    ResolvedSort.exists_path_eq_primaryKey pager.entity pager.sorts
  exact List.ne_nil_of_mem member

namespace Serves

variable {pager} {database : Database} {rows : List Tuple} {filtering : List Condition}
  {sorted : List SortColumn} (serves : pager.Serves database rows filtering sorted)

include serves

theorem includes : IncludesKey pager.entity sorted := by
  obtain ⟨plan, planned⟩ := serves.planned
  obtain ⟨terms, resolved⟩ := serves.resolved
  exact includesKey_of_planned
    ((sortsByKey_iff resolved).2 ⟨serves.isColumn, serves.isOwn⟩) planned

theorem ofRow_eq_tokenOf (row : Tuple) :
    Token.ofRow (pager.shownRow sorted row) pager.totalSorts =
      .ok (pager.tokenOf sorted row) := by
  obtain ⟨plan, planned⟩ := serves.planned
  exact Token.ofRow_eq_orBlank
    (Listing.exists_ofRow_project planned serves.isColumn row)

theorem isGiven_tokenOf (row : Tuple) :
    Cursor.isGiven (some (pager.tokenOf sorted row)) = true :=
  Token.isGiven_ofRow (serves.ofRow_eq_tokenOf row)

theorem any_token_ne_blank (side : Bool) (row : Option Tuple) (given : row ≠ none) :
    (some (if side then (row.map (pager.tokenOf sorted)).getD "" else "")).any
      (fun token => token != "") = side := by
  obtain ⟨row, rfl⟩ := Option.ne_none_iff_exists'.1 given
  exact (Cursor.isGiven_side (serves.isGiven_tokenOf row) side).2

/-- A page that shows rows has the tokens and flags of its cursor. -/
theorem pageShowing_eq {shown : List Tuple} (someRows : shown ≠ [])
    (hasPrevious hasNext : Bool) :
    let items := shown.map (pager.shownRow sorted)
    let next : Cursor :=
      { first := some (if hasPrevious then
          (items.head?.map (Token.orBlank pager.totalSorts)).getD "" else "")
        last := some (if hasNext then
          (items.getLast?.map (Token.orBlank pager.totalSorts)).getD "" else "") }
    pager.pageShowing sorted shown hasPrevious hasNext =
      { items, cursor := next, hasPrevious := next.first.any (· != "")
        hasNext := next.last.any (· != "") } := by
  intro items next
  have sameNext : next = (pager.pageShowing sorted shown hasPrevious hasNext).cursor := by
    unfold next items pageShowing
    rw [List.head?_map, List.getLast?_map, Option.map_map, Option.map_map]
    rfl
  have first := serves.any_token_ne_blank hasPrevious shown.head? (by simpa using someRows)
  have last := serves.any_token_ne_blank hasNext shown.getLast? (by simpa using someRows)
  rw [sameNext]
  unfold pageShowing
  rw [first, last]

/-- Wherever a page starts, it shows the listed rows next to that place. -/
theorem page_eq_pageShowing {cursor : Cursor} {resolved : ResolvedCursor}
    {shown found : List Tuple} {hasMore : Bool}
    (resolves : pager.resolve cursor = .ok resolved) (same : resolved.cursor = cursor)
    (starts : HasStart resolved 0 sorted)
    (foundAre : candidates database resolved 0 sorted (ranked database filtering sorted rows) =
      found)
    (shownAre : nearest cursor pager.size.toNat found = shown)
    (more : decide (pager.size.toNat < found.length) = hasMore) :
    pager.page cursor =
      .ok (if shown = [] then pager.pageShowing sorted [] false false
        else pager.pageShowing sorted shown (cursor.pageFlags hasMore).1
          (cursor.pageFlags hasMore).2) := by
  obtain ⟨plan, planned⟩ := serves.planned
  have positive := serves.positive
  obtain ⟨column, columnMember, _⟩ := serves.includes.exists_key
  obtain ⟨listing, built⟩ := Listing.exists_build {} pager.size planned
    (List.ne_nil_of_mem columnMember) serves.noFlag starts
  have listed : pager.listing cursor = .ok listing := by
    unfold Pager.listing
    rw [resolves]
    exact built
  have emptyCursor : resolved.isEmpty = true → resolved.cursor.isEmpty = true := by
    intro noEdge
    unfold HasStart at starts
    rw [if_pos noEdge] at starts
    exact starts.1
  have paged := Listing.pageOf_fetched planned built (by omega) emptyCursor
    serves.isColumn serves.includes serves.keyed (serves.answers cursor listing listed)
  obtain ⟨sameLimit, sameCursor, sameSorts, sameRows⟩ :
      listing.limit = pager.size ∧ listing.cursor = resolved ∧
        listing.sorts = pager.totalSorts ∧ listing.statement.rowOf = pager.shownRow sorted := by
    obtain ⟨conditions, passed, _, _, rfl⟩ := Listing.build_eq_ok planned built
    exact ⟨rfl, rfl, rfl, rfl⟩
  dsimp only at paged
  rw [foundAre, same, shownAre, more, sameRows, ← sameLimit, ← same, ← sameCursor] at paged
  have made : listing.page (pager.fetch listing) =
      .ok (if shown = [] then pager.pageShowing sorted [] false false
        else pager.pageShowing sorted shown (cursor.pageFlags hasMore).1
          (cursor.pageFlags hasMore).2) := by
    rw [Listing.page_eq_ok paged]
    by_cases empty : shown = []
    · rw [if_pos empty, empty]
      exact Or.inl ⟨rfl, rfl⟩
    · have someItems : shown.map (pager.shownRow sorted) ≠ [] := by simpa using empty
      have tokens : ∀ item ∈ shown.map (pager.shownRow sorted),
          ∃ token, Token.ofRow item pager.totalSorts = .ok token := by
        intro item member
        obtain ⟨row, _, rfl⟩ := List.mem_map.1 member
        exact ⟨_, serves.ofRow_eq_tokenOf row⟩
      have nextMade :=
        cursor.next_eq_ok hasMore someItems pager.totalSorts_ne_nil tokens
      rw [if_neg empty, sameCursor, same, sameSorts]
      exact Or.inr ⟨someItems, _, nextMade, serves.pageShowing_eq empty _ _⟩
  unfold Pager.page
  rw [listed]
  change (listing.page (pager.fetch listing)).mapError Failure.refused = _
  rw [made]
  rfl

/-- The token of a row leads to an edge at the place of the row. -/
theorem resolve_token {row : Tuple} (member : row ∈ rows) {cursor : Cursor}
    (notEmpty : cursor.isEmpty = false) (isToken : cursor.token = pager.tokenOf sorted row) :
    ∃ resolved, pager.resolve cursor = .ok resolved ∧ resolved.cursor = cursor ∧
      resolved.isEmpty = false ∧ HasStart resolved 0 sorted ∧
      ∀ other, edgeOrder database resolved sorted other =
        requestedOrder database sorted row other := by
  have made := serves.ofRow_eq_tokenOf row
  rw [← isToken] at made
  obtain ⟨edge, resolves, values⟩ := serves.givesBack row member cursor notEmpty made
  refine ⟨_, resolves, rfl, rfl, ?_, ?_⟩
  · intro column columnMember
    refine ⟨row.value column.column, ?_, serves.onlyFlags row member column columnMember⟩
    unfold ResolvedCursor.edgeValue
    rw [Option.bind_some, values column columnMember]
  · intro other
    apply edgeOrder_eq_requestedOrder
    intro column columnMember
    unfold edgeAt
    rw [Option.bind_some, values column columnMember, Option.getD_some]

variable {listed : List Tuple} (isListed : ranked database filtering sorted rows = listed)

include isListed

theorem pairwise_listed :
    listed.Pairwise fun one other => requestedOrder database sorted one other = .lt := by
  rw [← isListed]
  exact serves.keyed.pairwise_ranked database serves.includes filtering

omit serves in
theorem getElem_listed_mem {place : Nat} (inside : place < listed.length) :
    listed[place] ∈ rows := by
  subst isListed
  exact mem_of_mem_ranked database (List.getElem_mem inside)

theorem page_home : pager.page {} = .ok (pager.pageFrom sorted listed 0) := by
  have positive := serves.positive
  have starts : HasStart {} 0 sorted := ⟨rfl, Int.le_refl 0⟩
  have found : candidates database {} 0 sorted (ranked database filtering sorted rows) =
      listed := isListed
  have shown : nearest {} pager.size.toNat listed = listed.take pager.size.toNat := rfl
  rw [serves.page_eq_pageShowing rfl rfl starts found shown rfl]
  unfold pageFrom
  rw [List.drop_zero, Nat.zero_add]
  by_cases empty : listed = []
  · subst empty
    simp
  · have someRows : listed.take pager.size.toNat ≠ [] := by
      rw [Ne, List.take_eq_nil_iff, not_or]
      exact ⟨by omega, empty⟩
    rw [if_neg someRows]
    rfl

/-- The token of a listed row leads forward to the page behind it. -/
theorem page_behind {place : Nat} (inside : place + 1 < listed.length) :
    pager.page { last := some (pager.tokenOf sorted listed[place]) } =
      .ok (pager.pageFrom sorted listed (place + 1)) := by
  have positive := serves.positive
  have given := serves.isGiven_tokenOf listed[place]
  have forward := Cursor.isForward_last given
  obtain ⟨resolved, resolves, same, edge, starts, standing⟩ :=
    serves.resolve_token (getElem_listed_mem isListed (by omega)) (Cursor.isEmpty_last given)
      (Cursor.token_last given)
  have found : candidates database resolved 0 sorted (ranked database filtering sorted rows) =
      listed.drop (place + 1) := by
    unfold candidates
    rw [edge, if_neg Bool.false_ne_true, same, forward, if_pos rfl, isListed]
    simp only [standing]
    exact (filter_getElem (by omega) (serves.pairwise_listed isListed)).1
  have shown : nearest { last := some (pager.tokenOf sorted listed[place]) }
      pager.size.toNat (listed.drop (place + 1)) =
        (listed.drop (place + 1)).take pager.size.toNat := by
    unfold nearest
    rw [forward, if_pos rfl]
  have someRows : (listed.drop (place + 1)).take pager.size.toNat ≠ [] := by
    rw [Ne, List.take_eq_nil_iff, List.drop_eq_nil_iff, not_or]
    exact ⟨by omega, by omega⟩
  have more : (pager.size.toNat < (listed.drop (place + 1)).length) ↔
      place + 1 + pager.size.toNat < listed.length := by
    rw [List.length_drop]
    omega
  rw [serves.page_eq_pageShowing resolves same starts found shown rfl, if_neg someRows,
    Cursor.pageFlags_last given]
  unfold pageFrom
  simp only [more, Nat.zero_lt_succ, decide_true]

/-- The token of a listed row leads backward to the page before it. -/
theorem page_before {place : Nat} (inside : place < listed.length)
    (room : pager.size.toNat ≤ place) :
    pager.page { first := some (pager.tokenOf sorted listed[place]) } =
      .ok (pager.pageFrom sorted listed (place - pager.size.toNat)) := by
  have positive := serves.positive
  have given := serves.isGiven_tokenOf listed[place]
  have backward := Cursor.isForward_first given
  obtain ⟨resolved, resolves, same, edge, starts, standing⟩ :=
    serves.resolve_token (getElem_listed_mem isListed inside) (Cursor.isEmpty_first given)
      (Cursor.token_first given)
  have found : candidates database resolved 0 sorted (ranked database filtering sorted rows) =
      listed.take place := by
    unfold candidates
    rw [edge, if_neg Bool.false_ne_true, same, backward, if_neg Bool.false_ne_true, isListed]
    simp only [standing]
    exact (filter_getElem inside (serves.pairwise_listed isListed)).2
  -- The last rows before the place are a full page, since there is room for one.
  have shown : nearest { first := some (pager.tokenOf sorted listed[place]) }
      pager.size.toNat (listed.take place) =
        (listed.drop (place - pager.size.toNat)).take pager.size.toNat := by
    unfold nearest List.rtake
    rw [backward, if_neg Bool.false_ne_true, List.length_take, Nat.min_eq_left (by omega),
      List.drop_take, Nat.sub_sub_self room]
  have someRows :
      (listed.drop (place - pager.size.toNat)).take pager.size.toNat ≠ [] := by
    rw [Ne, List.take_eq_nil_iff, List.drop_eq_nil_iff, not_or]
    exact ⟨by omega, by omega⟩
  have more : (pager.size.toNat < (listed.take place).length) ↔
      0 < place - pager.size.toNat := by
    rw [List.length_take]
    omega
  have next : place - pager.size.toNat + pager.size.toNat < listed.length := by omega
  rw [serves.page_eq_pageShowing resolves same starts found shown rfl, if_neg someRows,
    Cursor.pageFlags_first given]
  unfold pageFrom
  simp only [more, next, decide_true]

omit serves isListed in
theorem items_pageFrom (place : Nat) :
    (pager.pageFrom sorted listed place).items =
      ((listed.drop place).take pager.size.toNat).map (pager.shownRow sorted) := rfl

omit serves isListed in
theorem first_pageFrom {place : Nat} (positive : 1 ≤ pager.size) (behind : 0 < place)
    (inside : place < listed.length) :
    (pager.pageFrom sorted listed place).cursor.first =
      some (pager.tokenOf sorted listed[place]) := by
  have first : ((listed.drop place).take pager.size.toNat).head? = some listed[place] := by
    rw [List.head?_take, if_neg (by omega), List.head?_drop, List.getElem?_eq_getElem inside]
  unfold pageFrom pageShowing
  rw [first, decide_eq_true behind]
  rfl

omit serves isListed in
theorem last_pageFrom {place : Nat} (positive : 1 ≤ pager.size)
    (more : place + pager.size.toNat < listed.length)
    (inside : place + pager.size.toNat - 1 < listed.length) :
    (pager.pageFrom sorted listed place).cursor.last =
      some (pager.tokenOf sorted listed[place + pager.size.toNat - 1]) := by
  have full : ((listed.drop place).take pager.size.toNat).length = pager.size.toNat := by
    rw [List.length_take, List.length_drop]
    omega
  have last : ((listed.drop place).take pager.size.toNat).getLast? =
      some listed[place + pager.size.toNat - 1] := by
    have position : place + (pager.size.toNat - 1) = place + pager.size.toNat - 1 := by omega
    rw [List.getLast?_eq_getElem?, full, List.getElem?_take, if_pos (by omega),
      List.getElem?_drop, position, List.getElem?_eq_getElem inside]
  unfold pageFrom pageShowing
  rw [last, decide_eq_true more]
  rfl

/-- By induction on the number of rows that are left, which each page makes smaller. -/
theorem exists_walk_from {place : Nat} (starts : place = 0 ∨ place < listed.length)
    {cursor : Cursor} (fetched : pager.page cursor = .ok (pager.pageFrom sorted listed place)) :
    ∃ rest, pager.Walk cursor (pager.pageFrom sorted listed place :: rest) ∧
      (pager.pageFrom sorted listed place :: rest).flatMap Page.items =
        (listed.drop place).map (pager.shownRow sorted) ∧
      (∀ page ∈ (pager.pageFrom sorted listed place :: rest).dropLast,
        page.items.length = pager.size.toNat) ∧
      (pager.pageFrom sorted listed place :: rest).IsChain fun page following =>
        pager.page { first := following.cursor.first } = .ok page := by
  have positive := serves.positive
  induction left : listed.length - place using Nat.strong_induction_on
    generalizing place cursor with
  | _ left hypothesis =>
      by_cases more : place + pager.size.toNat < listed.length
      · have hasNext : (pager.pageFrom sorted listed place).hasNext = true :=
          decide_eq_true more
        have followingFetched : pager.page
            { last := (pager.pageFrom sorted listed place).cursor.last } =
              .ok (pager.pageFrom sorted listed (place + pager.size.toNat)) := by
          rw [last_pageFrom positive more (by omega), serves.page_behind isListed (by omega),
            Nat.sub_add_cancel (by omega)]
        have goesBack : pager.page
            { first := (pager.pageFrom sorted listed
                (place + pager.size.toNat)).cursor.first } =
              .ok (pager.pageFrom sorted listed place) := by
          rw [first_pageFrom positive (by omega) more,
            serves.page_before isListed more (by omega), Nat.add_sub_cancel]
        obtain ⟨rest, walk, items, full, back⟩ :=
          hypothesis (listed.length - (place + pager.size.toNat)) (by omega) (Or.inr more)
            followingFetched rfl
        refine ⟨pager.pageFrom sorted listed (place + pager.size.toNat) :: rest, ?_, ?_, ?_, ?_⟩
        · exact Walk.next fetched hasNext walk
        · rw [List.flatMap_cons, items, items_pageFrom, ← List.map_append, ← List.drop_drop,
            List.take_append_drop]
        · intro page member
          rw [List.dropLast_cons_of_ne_nil (List.cons_ne_nil _ _)] at member
          rcases List.mem_cons.1 member with rfl | later
          · rw [items_pageFrom, List.length_map, List.length_take, List.length_drop]
            omega
          · exact full page later
        · exact List.IsChain.cons_cons goesBack back
      · have noNext : (pager.pageFrom sorted listed place).hasNext = false :=
          decide_eq_false more
        refine ⟨[], Walk.last fetched noNext, ?_, ?_, ?_⟩
        · rw [List.flatMap_singleton, items_pageFrom, List.take_of_length_le]
          rw [List.length_drop]
          omega
        · intro page member
          simp at member
        · exact List.IsChain.singleton _

end Serves

/-- The walk through the pages of a list ends, shows every row once and in order on pages that are
full but for the last, and can be walked back. -/
theorem walk_shows_every_row_once (pager : Pager) (database : Database) (rows : List Tuple)
    (filtering : List Condition) (sorted : List SortColumn)
    (serves : pager.Serves database rows filtering sorted) :
    ∃ (listed : List Tuple) (pages : List Page),
      listed.Perm (rows.filter fun row => filtering.all fun condition =>
        condition.truth database row = .holds) ∧
      listed.Pairwise (fun one other => requestedOrder database sorted one other = .lt) ∧
      pager.Walk {} pages ∧
      pages.flatMap Page.items = listed.map (pager.shownRow sorted) ∧
      (∀ page ∈ pages.dropLast, page.items.length = pager.size.toNat) ∧
      pages.IsChain fun page following =>
        pager.page { first := following.cursor.first } = .ok page := by
  obtain ⟨rest, walk, items, full, back⟩ :=
    serves.exists_walk_from rfl (Or.inl rfl) (serves.page_home rfl)
  refine ⟨_, _, perm_ranked database filtering, serves.pairwise_listed rfl, walk, ?_, full, back⟩
  rw [items, List.drop_zero]

def scoreboard : Pager where
  operators := .standard
  casters := .standard
  catalog := Catalog.settle {}
  entity := Listing.players
  filters := []
  sorts := [Keyset.byScore]
  size := 2
  fetch listing := listing.statement.answer .ofIntegers (Listing.team.take 3)

theorem totalSorts_scoreboard :
    scoreboard.totalSorts = [Keyset.byScore, Keyset.byNumber] := rfl

theorem givesBack_player {number score : Value}
    (storable : (number.isStorable && score.isStorable) = true)
    (numberFits : number.fits .int = true) (scoreFits : score.fits .int = true)
    {cursor : Cursor} (notEmpty : cursor.isEmpty = false)
    (made : Token.ofRow (scoreboard.shownRow Keyset.ranking
      (Keyset.player number score storable)) scoreboard.totalSorts = .ok cursor.token) :
    ∃ edge, scoreboard.resolve cursor = .ok { cursor, edge := some edge } ∧
      ∀ column ∈ Keyset.ranking, edge.get? column.sort.path =
        some ((Keyset.player number score storable).value column.column) := by
  have exactly {value : Value} (fits : value.fits .int = true) : value.isExact = true := by
    cases value <;> simp_all [Value.fits, Value.isNull, Value.isOfType, Value.isExact]
  have found : ∀ sort ∈ [Keyset.byScore, Keyset.byNumber], ∃ target,
      Catalog.answer (Catalog.resolvePath Listing.players sort.path) (Catalog.settle {}) =
        .ok target ∧ target.leaf.dataType = sort.target.leaf.dataType := by
    intro sort member
    simp only [List.mem_cons, List.not_mem_nil, or_false] at member
    rcases member with rfl | rfl <;> exact ⟨_, rfl, rfl⟩
  have held : ∀ sort ∈ [Keyset.byScore, Keyset.byNumber], ∀ value,
      (scoreboard.shownRow Keyset.ranking
        (Keyset.player number score storable)).valueAt? sort.path = some value →
      sort.target.leaf.dataType = .int ∧ value.fits .int = true := by
    intro sort member value located
    simp only [List.mem_cons, List.not_mem_nil, or_false] at member
    rcases member with rfl | rfl
    · obtain rfl := Option.some.inj located
      exact ⟨rfl, scoreFits⟩
    · obtain rfl := Option.some.inj located
      exact ⟨rfl, numberFits⟩
  have fits : (scoreboard.shownRow Keyset.ranking
      (Keyset.player number score storable)).Fits [Keyset.byScore, Keyset.byNumber] := by
    intro sort member value located
    obtain ⟨isInteger, valueFits⟩ := held sort member value located
    rw [isInteger]
    exact valueFits
  rw [totalSorts_scoreboard] at made
  obtain ⟨edge, resolves, _, values⟩ := Cursor.exists_resolve_of_cast
    (List.cons_ne_nil _ _) found fits
    (fun sort member value _ located ofType => Cast.cast_image_of_isExact ofType
      (exactly (held sort member value located).2))
    notEmpty made
  refine ⟨edge, resolves, ?_⟩
  intro column member
  simp only [Keyset.ranking, List.mem_cons, List.not_mem_nil, or_false] at member
  rcases member with rfl | rfl
  · exact values Keyset.byScore (by simp)
  · exact values Keyset.byNumber (by simp)

theorem serves_scoreboard :
    scoreboard.Serves .ofIntegers (Listing.team.take 3) [] Keyset.ranking where
  positive := by decide
  resolved := ⟨_, Listing.resolved_byScore⟩
  isColumn := by decide
  isOwn := Or.inl (by decide)
  planned := ⟨{ entity := Listing.players }, rfl⟩
  keyed :=
    { present := fun row member =>
        Listing.keyed_team.present row (List.mem_of_mem_take member)
      apart := Listing.keyed_team.apart.sublist (List.take_sublist 3 _) }
  noFlag := by decide
  onlyFlags := by
    simp [Listing.team, Keyset.ranking, Keyset.player, Keyset.byScore, Keyset.byNumber,
      Value.isBool]
  answers := by
    intro cursor listing _
    exact Select.answers_answer _ _ _
  givesBack := by
    intro row member cursor notEmpty made
    simp only [Listing.team, List.take_succ_cons, List.take_zero, List.mem_cons,
      List.not_mem_nil, or_false] at member
    rcases member with rfl | rfl | rfl
    · exact givesBack_player _ rfl rfl notEmpty made
    · exact givesBack_player _ rfl rfl notEmpty made
    · exact givesBack_player _ rfl rfl notEmpty made

/-- Three players are all shown. Where the key is called like the path that is sorted by, books of
one author are not told apart, and behind one the others are not found. -/
theorem walk_scoreboard :
    (scoreboard.Serves .ofIntegers (Listing.team.take 3) [] Keyset.ranking ∧
      ∃ pages, scoreboard.Walk {} pages ∧ (pages.flatMap Page.items).length = 3 ∧
        pages.IsChain fun page following =>
          scoreboard.page { first := following.cursor.first } = .ok page) ∧
      let shelf := [Listing.volume (.int 1) (.int 7), Listing.volume (.int 2) (.int 7)]
      let behindFirst := Listing.aroundAuthor 7 { last := some "e30" }
      Catalog.answer (SortTerm.resolveAll Listing.volumes [{ path := "author.id" }])
          (Catalog.settle {}) = .ok [Listing.byAuthor] ∧
        Keyed .ofIntegers Listing.volumes shelf ∧
        ∃ listing, Listing.build .standard Listing.volumes []
            (ResolvedSort.withPrimaryKey Listing.volumes [Listing.byAuthor]) behindFirst {} 1 =
              .ok listing ∧
          listing.statement.answer .ofIntegers shelf = [] := by
  obtain ⟨listed, pages, perm, _, walk, items, _, back⟩ :=
    scoreboard.walk_shows_every_row_once .ofIntegers (Listing.team.take 3) [] Keyset.ranking
      serves_scoreboard
  have keyed : Keyed .ofIntegers Listing.volumes
      [Listing.volume (.int 1) (.int 7), Listing.volume (.int 2) (.int 7)] :=
    { present := by simp [Listing.volume, keyColumn, Listing.volumes]
      apart := by decide }
  refine ⟨⟨serves_scoreboard, pages, walk, ?_, back⟩, rfl, keyed, _, rfl, rfl⟩
  rw [items, List.length_map, perm.length_eq]
  rfl

end Pager
end SchemaQuery
