import SchemaQuery.Proofs.PageWalk

/-!
# What the flags of a page say

A page does not look at the rows around it.  Its flags are told by the sides of the cursor that it
was fetched with and by whether one row more than its size was found.  This file compares them with
the rows: where the edge of the cursor is one of the listed rows, the page is a window of the list
next to it, and it is known by place which rows there are before and behind.

Flags are right for a cursor with one side.  With both sides a page is fetched forward, so that the
edge stands before it, but unless more rows follow the page says that there are none before it
either.
-/

namespace SchemaQuery

open Sql

namespace Sql

section Window

variable {order : Tuple → Tuple → Ordering} [Std.TransCmp order] {listed : List Tuple}
  (ordered : listed.Pairwise fun one other => order one other = .lt)

include ordered

/-- In a strictly ordered list rows come one before another by their places. -/
theorem order_getElem_eq_lt_iff {one other : Nat} (oneInside : one < listed.length)
    (otherInside : other < listed.length) :
    order listed[one] listed[other] = .lt ↔ one < other := by
  have byPlace := List.pairwise_iff_getElem.1 ordered
  constructor
  · intro before
    rcases lt_trichotomy one other with earlier | rfl | later
    · exact earlier
    · have same : order listed[one] listed[one] = .eq := Std.ReflCmp.compare_self
      rw [same] at before
      exact absurd before (by decide)
    · have behind := byPlace other one otherInside oneInside later
      rw [← Std.OrientedCmp.gt_iff_lt, before] at behind
      exact absurd behind (by decide)
  · exact byPlace one other oneInside otherInside

/-- There are rows before a window unless it starts with the list. -/
theorem exists_before_window_iff {start count : Nat} {first : Tuple}
    (isFirst : ((listed.drop start).take count).head? = some first) :
    (∃ row ∈ listed, order row first = .lt) ↔ 0 < start := by
  have located : listed[start]? = some first := by
    rw [List.head?_take, List.head?_drop] at isFirst
    split at isFirst
    · simp at isFirst
    · exact isFirst
  obtain ⟨inside, rfl⟩ := List.getElem?_eq_some_iff.1 located
  constructor
  · rintro ⟨row, isRow, before⟩
    obtain ⟨place, placeInside, rfl⟩ := List.mem_iff_getElem.1 isRow
    have earlier := (order_getElem_eq_lt_iff ordered placeInside inside).1 before
    omega
  · intro notFirst
    exact ⟨listed[0], List.getElem_mem _,
      (order_getElem_eq_lt_iff ordered (by omega) inside).2 notFirst⟩

/-- There are rows behind a window unless it reaches to the end. -/
theorem exists_behind_window_iff {start count : Nat} {last : Tuple}
    (isLast : ((listed.drop start).take count).getLast? = some last) :
    (∃ row ∈ listed, order last row = .lt) ↔ start + count < listed.length := by
  have someRows : ((listed.drop start).take count).length ≠ 0 := by
    intro none
    rw [List.length_eq_zero_iff.1 none] at isLast
    simp at isLast
  rw [List.length_take, List.length_drop] at someRows
  rw [List.getLast?_eq_getElem?, List.length_take, List.length_drop,
    List.getElem?_take_of_lt (by omega), List.getElem?_drop] at isLast
  obtain ⟨inside, rfl⟩ := List.getElem?_eq_some_iff.1 isLast
  constructor
  · rintro ⟨row, isRow, behind⟩
    obtain ⟨place, placeInside, rfl⟩ := List.mem_iff_getElem.1 isRow
    have later := (order_getElem_eq_lt_iff ordered inside placeInside).1 behind
    omega
  · intro more
    exact ⟨listed[listed.length - 1], List.getElem_mem _,
      (order_getElem_eq_lt_iff ordered inside (by omega)).2 (by omega)⟩

end Window

/-- From where on a page shows the listed rows, and how many at most, for an edge at some place. -/
def windowAt (cursor : Cursor) (size place : Nat) : Nat × Nat :=
  if cursor.isForward then (place + 1, size) else (place - size, min size place)

/-- A page is a window of the list at the place of its edge, and one row more is found unless the
window reaches to the end. -/
theorem nearest_eq_window {database : Database} {resolved : ResolvedCursor} (offset : Int)
    {sorted : List SortColumn} {listed : List Tuple} {place : Nat} (inside : place < listed.length)
    (ordered : listed.Pairwise fun one other => requestedOrder database sorted one other = .lt)
    (edge : resolved.isEmpty = false)
    (standing : ∀ row, edgeOrder database resolved sorted row =
      requestedOrder database sorted listed[place] row) (size : Nat) :
    let found := candidates database resolved offset sorted listed
    let window := windowAt resolved.cursor size place
    nearest resolved.cursor size found = (listed.drop window.1).take window.2 ∧
      (size < found.length ↔
        if resolved.cursor.isForward then window.1 + window.2 < listed.length
        else 0 < window.1) := by
  obtain ⟨behind, before⟩ := filter_getElem inside ordered
  unfold candidates nearest windowAt
  simp only [edge, Bool.false_eq_true, if_false, standing, behind, before]
  cases resolved.cursor.isForward with
  | true =>
      simp only [if_true, List.length_drop, true_and]
      omega
  | false =>
      simp only [Bool.false_eq_true, if_false, List.length_take, List.rtake]
      constructor
      · rw [Nat.min_eq_left (by omega), List.drop_take]
        congr 1
        omega
      · omega

/-- What the flags for a cursor with a side say of the window at its edge. -/
theorem pageFlags_tell {cursor : Cursor} (notEmpty : cursor.isEmpty = false)
    {size place length : Nat} (inside : place < length) {hasMore : Bool}
    (more : hasMore = true ↔
      if cursor.isForward then
        (windowAt cursor size place).1 + (windowAt cursor size place).2 < length
      else 0 < (windowAt cursor size place).1) :
    let window := windowAt cursor size place
    ((cursor.pageFlags hasMore).2 = true ↔ window.1 + window.2 < length) ∧
      ((cursor.pageFlags hasMore).1 = true ↔
        0 < window.1 ∧ (Cursor.isGiven cursor.first = true → Cursor.isGiven cursor.last = true →
          (cursor.pageFlags hasMore).2 = true)) := by
  unfold Cursor.isEmpty at notEmpty
  unfold windowAt Cursor.isForward at more ⊢
  unfold Cursor.pageFlags
  cases first : Cursor.isGiven cursor.first with
  | false =>
      cases last : Cursor.isGiven cursor.last with
      | false => simp [first, last] at notEmpty
      | true => simpa [first, last] using more
  | true =>
      cases last : Cursor.isGiven cursor.last with
      | true => simpa [first, last] using more
      | false =>
          -- Behind the window stands the edge, which no page fetched backward shows.
          have edgeBehind : place - size + min size place < length := by omega
          simpa [first, last, edgeBehind] using more

end Sql

namespace Listing

variable {operators : Operators} {entity : LoadedEntity} {filters : List ResolvedFilter}
  {sorts : List ResolvedSort} {filtering : List Condition} {sorted : List SortColumn}
  {plan : JoinPlan}

/-- The flags of a page, fetched from a listed row on, say whether there are rows behind and before
it, but with both sides of the cursor the latter only if there are rows behind it too. -/
theorem flags_tell_rows_around_page (database : Database) (casters : Casters) (catalog : Catalog)
    (terms : List SortTerm) (cursor : Cursor) (resolved : ResolvedCursor)
    (pagination : Pagination) (size : Int)
    (sortsResolved : Catalog.answer (SortTerm.resolveAll entity terms) catalog = .ok sorts)
    (isColumn : entity.primaryKeyAttribute.dataType ≠ .junction)
    (isOwn : pathSeparator ∉ entity.primaryKey.toList ∨
      ∀ sort ∈ sorts, sort.path ≠ entity.primaryKey)
    (planned : (Listing.planned operators filters
      (ResolvedSort.withPrimaryKey entity sorts)).run { entity } =
        .ok ((filtering, sorted), plan))
    (positive : 1 ≤ size)
    (noFlag : ∀ column ∈ sorted, column.sort.target.leaf.dataType ≠ .bool)
    (notEmpty : cursor.isEmpty = false)
    (resolves : Catalog.answer (cursor.resolve casters entity) catalog = .ok resolved)
    (given : GivesEdge resolved sorted) :
    ∃ listing, Listing.build operators entity filters
        (ResolvedSort.withPrimaryKey entity sorts) resolved pagination size = .ok listing ∧
      ∀ (rows : List Tuple) (fetched : List Row), Keyed database entity rows →
        listing.statement.Answers database rows fetched →
        let listed := ranked database filtering sorted rows
        let shown := nearest cursor size.toNat
          (candidates database resolved pagination.offset sorted listed)
        ∀ edge ∈ listed,
          (∀ column ∈ sorted, edgeAt resolved column.sort.path = edge.value column.column) →
          ∃ page, listing.page fetched = .ok page ∧
            page.items = shown.map listing.statement.rowOf ∧
            ∀ first last, shown.head? = some first → shown.getLast? = some last →
              (page.hasNext = true ↔
                ∃ row ∈ listed, requestedOrder database sorted last row = .lt) ∧
              (page.hasPrevious = true ↔
                (∃ row ∈ listed, requestedOrder database sorted row first = .lt) ∧
                  (Cursor.isGiven cursor.first = true → Cursor.isGiven cursor.last = true →
                    page.hasNext = true)) ∧
              Cursor.isGiven page.cursor.first = page.hasPrevious ∧
              Cursor.isGiven page.cursor.last = page.hasNext := by
  obtain ⟨values, rfl⟩ := Cursor.exists_edge_of_resolve notEmpty resolves
  have byKey := (sortsByKey_iff sortsResolved).2 ⟨isColumn, isOwn⟩
  have includes := includesKey_of_planned byKey planned
  obtain ⟨column, columnMember, _⟩ := includes.exists_key
  have starts : HasStart { cursor, edge := some values } pagination.offset sorted := given
  obtain ⟨listing, built⟩ := exists_build pagination size planned
    (List.ne_nil_of_mem columnMember) noFlag starts
  refine ⟨listing, built, ?_⟩
  obtain ⟨sameLimit, sameCursor⟩ : listing.limit = size ∧ listing.cursor.cursor = cursor := by
    obtain ⟨conditions, passed, _, _, rfl⟩ := build_eq_ok planned built
    exact ⟨rfl, rfl⟩
  intro rows fetched keyed answers listed shown edge isListed stands
  have paged := pageOf_fetched planned built (by omega) nofun isColumn includes keyed answers
  dsimp only at paged
  rw [← sameLimit, ← sameCursor] at paged
  obtain ⟨page, made, items, around⟩ := exists_page planned built isColumn includes paged
  rw [sameLimit, sameCursor] at items around
  refine ⟨page, made, items, fun first last isFirst isLast => ?_⟩
  have someRows : shown ≠ [] := by
    intro none
    rw [none] at isFirst
    simp at isFirst
  obtain ⟨flags, firstGiven, lastGiven⟩ := around someRows
  obtain ⟨place, inside, rfl⟩ := List.mem_iff_getElem.1 isListed
  have ordered := keyed.pairwise_ranked database includes filtering
  obtain ⟨window, more⟩ := nearest_eq_window pagination.offset inside ordered rfl
    (edgeOrder_eq_requestedOrder database stands) size.toNat
  have flagged := pageFlags_tell notEmpty inside (decide_eq_true_iff.trans more)
  rw [← flags] at flagged
  rw [show shown = _ from window] at isFirst isLast
  rw [exists_before_window_iff ordered isFirst, exists_behind_window_iff ordered isLast]
  exact ⟨flagged.1, flagged.2, firstGiven, lastGiven⟩

theorem isStorable_third : ((Value.int 3).isStorable && Value.null.isStorable) = true := rfl

def thirdToken : String :=
  Pager.scoreboard.tokenOf Keyset.ranking (Keyset.player (.int 3) .null isStorable_third)

def aroundThird : Cursor where
  first := some thirdToken
  last := some thirdToken

theorem ofRow_third : Token.ofRow (Pager.scoreboard.shownRow Keyset.ranking
    (Keyset.player (.int 3) .null)) Pager.scoreboard.totalSorts = .ok thirdToken :=
  Pager.serves_scoreboard.ofRow_eq_tokenOf _

theorem isGiven_thirdToken : Cursor.isGiven (some thirdToken) = true :=
  Token.isGiven_ofRow ofRow_third

theorem exists_edge_aroundThird :
    aroundThird.isEmpty = false ∧ ∃ edge,
      Catalog.answer (aroundThird.resolve .standard players) (Catalog.settle {}) =
          .ok { cursor := aroundThird, edge := some edge } ∧
        GivesEdge { cursor := aroundThird, edge := some edge } Keyset.ranking ∧
        ∀ column ∈ Keyset.ranking, edgeAt { cursor := aroundThird, edge := some edge }
          column.sort.path = (Keyset.player (.int 3) .null).value column.column := by
  have notEmpty : aroundThird.isEmpty = false := by
    simp [Cursor.isEmpty, aroundThird, isGiven_thirdToken]
  have token : aroundThird.token = thirdToken := by
    unfold Cursor.token aroundThird
    split <;> rfl
  obtain ⟨edge, resolves, values⟩ :=
    Pager.givesBack_player _ rfl rfl notEmpty (token ▸ ofRow_third)
  refine ⟨notEmpty, edge, resolves, fun column member => ?_, fun column member => ?_⟩
  · refine ⟨(Keyset.player (.int 3) .null).value column.column, ?_, ?_⟩
    · unfold ResolvedCursor.edgeValue
      rw [Option.bind_some, values column member]
    · exact Pager.serves_scoreboard.onlyFlags _ (by simp [team]) column member
  · unfold edgeAt
    rw [Option.bind_some, values column member, Option.getD_some]

/-- Behind the third player comes the fifth, on a last page that denies that there is one before. -/
theorem last_page_forgets_players_before :
    ∃ edge listing, Listing.build .standard players []
        (ResolvedSort.withPrimaryKey players [Keyset.byScore])
        { cursor := aroundThird, edge := some edge } {} 2 = .ok listing ∧
      ∃ page, listing.page (listing.statement.answer .ofIntegers team) = .ok page ∧
        page.items = [[("id", .int 5), ("score", .null)]] ∧
        page.hasNext = false ∧ page.hasPrevious = false := by
  have planned : (Listing.planned .standard []
      (ResolvedSort.withPrimaryKey players [Keyset.byScore])).run { entity := players } =
        .ok (([], Keyset.ranking), { entity := players }) := rfl
  obtain ⟨notEmpty, edge, resolves, given, stands⟩ := exists_edge_aroundThird
  obtain ⟨listing, built, tells⟩ := flags_tell_rows_around_page .ofIntegers .standard
    (Catalog.settle {}) byScoreTerms aroundThird _ {} 2 resolved_byScore (by decide)
    (Or.inl (by decide)) planned (by decide) (by decide) notEmpty resolves given
  refine ⟨edge, listing, built, ?_⟩
  have third : Keyset.player (.int 3) .null ∈ ranked .ofIntegers [] Keyset.ranking team := by
    apply (perm_ranked .ofIntegers []).mem_iff.2
    simp [team]
  obtain ⟨page, made, items, around⟩ := tells team _ keyed_team (Select.answers_answer _ _ _)
    _ third stands
  have forward : aroundThird.isForward = true := by
    simp [Cursor.isForward, aroundThird, isGiven_thirdToken]
  have shown : nearest aroundThird 2 (candidates .ofIntegers
      { cursor := aroundThird, edge := some edge } 0 Keyset.ranking
        (ranked .ofIntegers [] Keyset.ranking team)) = [Keyset.player (.int 5) .null] := by
    unfold nearest candidates
    simp only [forward, edgeOrder_eq_requestedOrder .ofIntegers stands]
    rfl
  change page.items = List.map _ (nearest aroundThird 2 _) at items
  obtain ⟨next, previous, _⟩ :=
    around _ _ (congrArg List.head? shown) (congrArg List.getLast? shown)
  have noNext : page.hasNext = false := by
    rw [← Bool.not_eq_true, next]
    decide
  have noPrevious : page.hasPrevious = false := by
    rw [← Bool.not_eq_true, previous]
    rintro ⟨_, onlyWithNext⟩
    rw [noNext] at onlyWithNext
    exact absurd (onlyWithNext isGiven_thirdToken isGiven_thirdToken) Bool.false_ne_true
  refine ⟨page, made, ?_, noNext, noPrevious⟩
  obtain ⟨conditions, passed, _, _, rfl⟩ := build_eq_ok planned built
  rw [items, shown]
  rfl

end Listing
end SchemaQuery
