import SchemaQuery.Proofs.CursorReading
import SchemaQuery.Proofs.PageWindow

/-!
# Which cursors are accepted

A page hands out cursors that lead on from its boundary rows.  Asked for the same list with
such a cursor, the service should answer.  It does unless one of two things is in the way.
A primary key that is not declared is sorted by, but a token does not find it again.  And a
statement does not compare a column with a truth value, so no row with a truth value for a
sort can be the edge of a page.
-/

namespace SchemaQuery

namespace Sql.Keyset

open Success

variable {cursor : ResolvedCursor} {primaryKey : String}

theorem noTruth_of_pastEdge {upward mayBeMissing : Bool} {column : Column} {edge : Value}
    {past : Option Condition} (made : pastEdge upward mayBeMissing column edge = .ok past) :
    edge.isBool = false := by
  cases edge with
  | bool truth =>
      unfold pastEdge at made
      obtain ⟨condition, compared, _⟩ := (bind_eq_ok _ _ _).1 made
      cases upward <;> simp [Condition.compared, Comparison.isEquality] at compared
  | _ => rfl

theorem given_of_branches {sorted : List SortColumn} {equal branching : List Condition}
    (made : branches cursor primaryKey equal sorted = .ok branching) :
    ∀ column ∈ sorted, ∃ value,
      cursor.edgeValue column.sort.path = .ok value ∧ value.isBool = false := by
  induction sorted generalizing equal branching with
  | nil => simp
  | cons sorted rest hypothesis =>
      obtain ⟨edge, past, atIt, others, given, pastMade, _, othersMade, _⟩ :=
        branches_cons_eq_ok made
      intro column member
      rcases List.mem_cons.1 member with rfl | later
      · exact ⟨edge, given, noTruth_of_pastEdge pastMade⟩
      · exact hypothesis othersMade column later

/-- To be beyond an edge can be written if the edge has a value, and no truth
value, for each sort. -/
theorem exists_condition_iff {sorted : List SortColumn} (nonempty : sorted ≠ []) :
    (∃ beyond, condition cursor primaryKey sorted = .ok beyond) ↔
      ∀ column ∈ sorted, ∃ value,
        cursor.edgeValue column.sort.path = .ok value ∧ value.isBool = false := by
  constructor
  · rintro ⟨beyond, made⟩
    unfold condition at made
    split at made
    · exact absurd made (by simp)
    · obtain ⟨branching, branchesMade, _⟩ := (bind_eq_ok _ _ _).1 made
      exact given_of_branches branchesMade
  · exact exists_condition primaryKey nonempty

end Sql.Keyset

namespace Listing

open Sql Success

variable {operators : Operators} {entity : LoadedEntity} {filters : List ResolvedFilter}
  {sorts : List ResolvedSort} {cursor : ResolvedCursor} {pagination : Pagination} {size : Int}
  {listing : Listing}

/-- A list can be built for an edge with a value, and no truth value, for each sort. -/
theorem exists_build_iff {filtering : List Condition} {sorted : List SortColumn}
    {plan : JoinPlan}
    (planned : (Listing.planned operators filters sorts).run { entity } =
      .ok ((filtering, sorted), plan))
    (someSorts : sorts ≠ []) (edge : cursor.isEmpty = false) :
    (∃ listing, Listing.build operators entity filters sorts cursor pagination size =
        .ok listing) ↔
      ∀ sort ∈ sorts, ∃ value,
        cursor.edgeValue sort.path = .ok value ∧ value.isBool = false := by
  obtain ⟨sameSorts, _⟩ := planned_eq_ok planned
  have someColumns : sorted ≠ [] := by
    rintro rfl
    exact someSorts sameSorts.symm
  have byColumn : (∀ sort ∈ sorts, ∃ value,
      cursor.edgeValue sort.path = .ok value ∧ value.isBool = false) ↔
        ∃ beyond, Keyset.condition cursor entity.primaryKey sorted = .ok beyond := by
    rw [Keyset.exists_condition_iff someColumns, ← sameSorts, List.forall_mem_map]
  rw [byColumn]
  constructor
  · rintro ⟨listing, built⟩
    obtain ⟨conditions, _, conditionsMade, _, _⟩ := build_eq_ok planned built
    unfold Listing.conditions at conditionsMade
    rw [edge, if_neg Bool.false_ne_true] at conditionsMade
    obtain ⟨beyond, made, _⟩ := (bind_eq_ok _ _ _).1 conditionsMade
    exact ⟨beyond, made⟩
  · rintro ⟨beyond, made⟩
    have conditionsMade : Listing.conditions entity cursor filtering sorted =
        .ok (filtering ++ [beyond]) := by
      unfold Listing.conditions
      rw [edge, if_neg Bool.false_ne_true, made]
      rfl
    have offsetMade : Listing.offset cursor pagination = .ok 0 := by
      unfold Listing.offset
      rw [edge]
      rfl
    unfold Listing.build
    simp only [planned, bind_eq_ok, mapError_eq_ok]
    exact ⟨_, _, rfl, _, conditionsMade, _, offsetMade, rfl⟩

end Listing

/-- Whether a cursor is a token that a page gives for a side. -/
def Page.HandsOut (page : Page) (cursor : Cursor) : Prop :=
  ∃ token, token ≠ "" ∧
    (page.cursor.last = some token ∧ cursor = { last := some token } ∨
      page.cursor.first = some token ∧ cursor = { first := some token })

def Page.boundary? (page : Page) (cursor : Cursor) : Option Row :=
  if cursor.isForward then page.items.getLast? else page.items.head?

theorem mem_of_mem_pageOf {α : Type} {rows : List α} {limit : Int} {cursor : Cursor} {row : α}
    (member : row ∈ (pageOf rows limit cursor).1) : row ∈ rows := by
  have taken {limit : Int} (kept : row ∈ takeRows limit rows) : row ∈ rows := by
    unfold takeRows at kept
    split at kept <;> exact List.mem_of_mem_take kept
  have fetched : row ∈ if limit < rows.length then takeRows limit rows else rows := by
    cases forward : cursor.isForward <;> simpa [pageOf, forward] using member
  split at fetched
  · exact taken fetched
  · exact fetched

/-- The token of the boundary row, if a page leads on at this side. -/
def Token.forSide (sorts : List ResolvedSort) (leadsOn : Bool) (row : Row) :
    Except Refusal String :=
  if leadsOn then Token.ofRow row sorts else .ok ""

theorem Token.ofRow_of_forSide {sorts : List ResolvedSort} {leadsOn : Bool} {row : Row}
    {token : String} (made : forSide sorts leadsOn row = .ok token) (given : token ≠ "") :
    ofRow row sorts = .ok token := by
  cases leadsOn with
  | true => exact made
  | false => exact absurd (Except.ok.inj made).symm given

theorem Cursor.next_eq_forSide {cursor : Cursor} {items : List Row} {sorts : List ResolvedSort}
    {hasMore : Bool} {firstRow lastRow : Row} (someSorts : sorts.isEmpty = false)
    (headed : items.head? = some firstRow) (ended : items.getLast? = some lastRow) :
    cursor.next items sorts hasMore = (do
      let first ← Token.forSide sorts (cursor.pageFlags hasMore).1 firstRow
      let last ← Token.forSide sorts (cursor.pageFlags hasMore).2 lastRow
      return { first := some first, last := some last }) := by
  unfold Cursor.next
  rw [someSorts, headed, ended]
  obtain ⟨hasPrevious, hasNext⟩ := cursor.pageFlags hasMore
  cases hasPrevious <;> cases hasNext <;> rfl

/-- A side that leads on from a page has the token of its boundary row. -/
theorem Cursor.next_tokens {cursor next : Cursor} {items : List Row}
    {sorts : List ResolvedSort} {hasMore : Bool}
    (made : cursor.next items sorts hasMore = .ok next) :
    sorts ≠ [] ∧ ∀ token ≠ "",
      (next.last = some token → ∃ row, items.getLast? = some row ∧
        Token.ofRow row sorts = .ok token) ∧
      (next.first = some token → ∃ row, items.head? = some row ∧
        Token.ofRow row sorts = .ok token) := by
  cases empty : sorts.isEmpty with
  | true => simp [Cursor.next, empty] at made
  | false =>
      refine ⟨by simpa using empty, ?_⟩
      cases headed : items.head? with
      | none => simp [Cursor.next, empty, headed] at made
      | some firstRow =>
          cases ended : items.getLast? with
          | none => simp [Cursor.next, empty, headed, ended] at made
          | some lastRow =>
              rw [Cursor.next_eq_forSide empty headed ended] at made
              obtain ⟨first, firstMade, made⟩ := (Success.bind_eq_ok _ _ _).1 made
              obtain ⟨last, lastMade, made⟩ := (Success.bind_eq_ok _ _ _).1 made
              obtain rfl := (Success.pure_eq_ok _ _).1 made
              intro token given
              constructor
              · intro same
                obtain rfl := Option.some.inj same
                exact ⟨lastRow, rfl, Token.ofRow_of_forSide lastMade given⟩
              · intro same
                obtain rfl := Option.some.inj same
                exact ⟨firstRow, rfl, Token.ofRow_of_forSide firstMade given⟩

/-- The cursors that a page hands out have the tokens of its boundary rows. -/
theorem Listing.token_of_handsOut {listing : Listing} {rows : List Row} {page : Page}
    {cursor : Cursor} (paged : listing.page rows = .ok page) (handed : page.HandsOut cursor) :
    listing.sorts ≠ [] ∧ cursor.isEmpty = false ∧ ∃ row ∈ rows, page.boundary? cursor = some row ∧
      Token.ofRow row listing.sorts = .ok cursor.token := by
  unfold Listing.page at paged
  obtain ⟨token, given, handed⟩ := handed
  dsimp only at paged
  split at paged
  · obtain rfl := (Success.pure_eq_ok _ _).1 paged
    rcases handed with ⟨same, _⟩ | ⟨same, _⟩ <;> exact absurd (Option.some.inj same).symm given
  · obtain ⟨next, nextMade, paged⟩ := (Success.bind_eq_ok _ _ _).1 paged
    obtain rfl := (Success.pure_eq_ok _ _).1 paged
    obtain ⟨someSorts, tokens⟩ := Cursor.next_tokens nextMade
    refine ⟨someSorts, ?_⟩
    rcases handed with ⟨same, rfl⟩ | ⟨same, rfl⟩
    · obtain ⟨row, ended, made⟩ := (tokens token given).1 same
      have isGiven := Token.isGiven_ofRow made
      refine ⟨Cursor.isEmpty_last isGiven, row,
        mem_of_mem_pageOf (List.mem_of_getLast? ended), ?_, ?_⟩
      · unfold Page.boundary?
        rw [Cursor.isForward_last isGiven, if_pos rfl]
        exact ended
      · rw [Cursor.token_last isGiven]
        exact made
    · obtain ⟨row, headed, made⟩ := (tokens token given).2 same
      have isGiven := Token.isGiven_ofRow made
      refine ⟨Cursor.isEmpty_first isGiven, row,
        mem_of_mem_pageOf (List.mem_of_head? headed), ?_, ?_⟩
      · unfold Page.boundary?
        rw [Cursor.isForward_first isGiven, if_neg Bool.false_ne_true]
        exact headed
      · rw [Cursor.token_first isGiven]
        exact made

open Catalog (answer after)

/-- Whether what a row holds for a sort comes back from its token, typed and comparable. -/
def ResolvedSort.ComesBack (casters : Casters) (catalog : Catalog) (entity : LoadedEntity)
    (row : Row) (sort : ResolvedSort) : Prop :=
  ∃ value again typed, row.valueAt? sort.path = some value ∧
    Codec.Json.ReadsBack value again ∧
    answer (Cursor.resolveEntry casters entity (sort.path, again)) catalog =
      .ok (sort.path, typed) ∧
    typed.isBool = false

namespace Cursor

variable {casters : Casters} {entity : LoadedEntity} {catalog : Catalog} {row : Row}
  {sorts : List ResolvedSort} {entries : Dictionary Value}

/-- What a row holds makes an edge with comparable values if all of these come back. -/
theorem exists_edge_iff (tells : Token.Tells row sorts entries) :
    (∃ edge : Edge, (entries.mapM fun entry =>
        answer (resolveEntry casters entity entry) catalog) = .ok edge ∧
      ∀ sort ∈ sorts, ∃ typed, edge.get? sort.path = some typed ∧ typed.isBool = false) ↔
      ∀ sort ∈ sorts, sort.ComesBack casters catalog entity row := by
  constructor
  · rintro ⟨edge, made, comparable⟩ sort member
    obtain ⟨typed, found, noTruth⟩ := comparable sort member
    obtain ⟨again, told, resolved⟩ := (get?_resolved made sort.path typed).1 found
    obtain ⟨value, located, readsBack⟩ := (tells.get?_eq_some member again).1 told
    exact ⟨value, again, typed, located, readsBack, resolved, noTruth⟩
  · intro comesBack
    obtain ⟨edge, made⟩ : ∃ edge, (entries.mapM fun entry =>
        answer (resolveEntry casters entity entry) catalog) = .ok edge := by
      apply Success.exists_mapM
      rintro ⟨path, again⟩ member
      obtain ⟨sort, sortMember, rfl⟩ := (tells.paths path).1 (List.mem_map_of_mem member)
      obtain ⟨value, located, _, readsBack⟩ := tells.values _ _ member
      obtain ⟨same, other, typed, sameLocated, sameReadsBack, resolved, _⟩ :=
        comesBack sort sortMember
      obtain rfl := Option.some.inj (located.symm.trans sameLocated)
      obtain rfl := readsBack.unique sameReadsBack
      exact ⟨_, resolved⟩
    refine ⟨edge, made, ?_⟩
    intro sort member
    obtain ⟨value, again, typed, located, readsBack, resolved, noTruth⟩ := comesBack sort member
    have told := (tells.get?_eq_some member again).2 ⟨value, located, readsBack⟩
    exact ⟨typed, (get?_resolved made _ _).2 ⟨again, told, resolved⟩, noTruth⟩

end Cursor

theorem ResolvedCursor.edgeValue_eq_ok (cursor : Cursor) (edge : Edge) {path : String}
    {value : Value} :
    edgeValue { cursor, edge := some edge } path = .ok value ↔ edge.get? path = some value := by
  unfold edgeValue
  rw [Option.bind_some]
  cases edge.get? path <;> simp

namespace QueryService

def Accepts (service : QueryService) (request : ListRequest) (catalog : Catalog) : Prop :=
  ∃ listing, answer (service.build request) catalog = .ok listing

variable {service : QueryService} {request : ListRequest} {catalog : Catalog}
  {listing : Listing} {cursor : Cursor} {row : Row}

/-- A request is answered from the token of a row if all that the row holds comes back. -/
theorem accepts_iff_comesBack
    (built : answer (service.build request) catalog = .ok listing)
    (someSorts : listing.sorts ≠ []) (notEmpty : cursor.isEmpty = false)
    (made : Token.ofRow row listing.sorts = .ok cursor.token) (fits : row.Fits listing.sorts) :
    service.Accepts { request with cursor } catalog ↔
      ∀ sort ∈ listing.sorts,
        sort.ComesBack service.registry.casters catalog listing.entity row := by
  obtain ⟨first, rest, read, tells⟩ := Token.exists_read made someSorts fits
  obtain ⟨entity, loaded, onEntity⟩ := (service.build_eq_ok request).1 built
  obtain ⟨filters, sorts, resolved, filtersMade, sortsMade, _, placed⟩ :=
    (service.buildOn_eq_ok request entity).1 onEntity
  obtain ⟨filtering, sorted, plan, planned⟩ := Listing.exists_planned placed
  obtain ⟨conditions, passed, _, _, rfl⟩ := Listing.build_eq_ok planned placed
  dsimp only at someSorts made fits tells ⊢
  -- Entity, filters, sorts and plan are those of the first request: the edge decides alone.
  rw [← Cursor.exists_edge_iff tells]
  constructor
  · rintro ⟨next, again⟩
    obtain ⟨same, sameLoaded, onSame⟩ :=
      (service.build_eq_ok { request with cursor }).1 again
    obtain rfl := Except.ok.inj (loaded.symm.trans sameLoaded)
    obtain ⟨_, _, _, sameFilters, sameSorts, cursorMade, placedAgain⟩ :=
      (service.buildOn_eq_ok { request with cursor } entity).1 onSame
    obtain rfl := Except.ok.inj (filtersMade.symm.trans sameFilters)
    obtain rfl := Except.ok.inj (sortsMade.symm.trans sameSorts)
    obtain ⟨edge, edgeMade, rfl⟩ := (Cursor.resolve_eq_ok notEmpty read _).1 cursorMade
    refine ⟨edge, edgeMade, ?_⟩
    intro sort member
    obtain ⟨value, given, noTruth⟩ :=
      (Listing.exists_build_iff planned someSorts rfl).1 ⟨next, placedAgain⟩ sort member
    exact ⟨value, (ResolvedCursor.edgeValue_eq_ok cursor edge).1 given, noTruth⟩
  · rintro ⟨edge, edgeMade, comparable⟩
    have cursorMade := (Cursor.resolve_eq_ok notEmpty read _).2 ⟨edge, edgeMade, rfl⟩
    obtain ⟨next, placedAgain⟩ :=
      (@Listing.exists_build_iff _ _ _ _ { cursor, edge := some edge } request.pagination
        (service.pageSize entity request.pagination) _ _ _ planned someSorts rfl).2 (by
          intro sort member
          obtain ⟨value, found, noTruth⟩ := comparable sort member
          exact ⟨value, (ResolvedCursor.edgeValue_eq_ok cursor edge).2 found, noTruth⟩)
    refine ⟨next, (service.build_eq_ok { request with cursor }).2 ⟨entity, loaded, ?_⟩⟩
    rw [service.buildOn_eq_ok { request with cursor } entity]
    exact ⟨filters, sorts, _, filtersMade, sortsMade, cursorMade, placedAgain⟩

end QueryService

section Standard

variable {entity : LoadedEntity} {catalog : Catalog} {row : Row} {sort : ResolvedSort}

open Codec.Json (Image ReadsBack)

section OneValue

variable {target : ResolvedPath} {value again : Value}
  (resolved : answer (Catalog.resolvePath entity sort.path) catalog = .ok target)
  (sameType : target.leaf.dataType = sort.target.leaf.dataType)
  (located : row.valueAt? sort.path = some value)
  (fits : value.fits sort.target.leaf.dataType = true)
  (image : Image value again) (readsBack : ReadsBack value again)

include resolved sameType located fits image readsBack

/-- Truth values, which do not come back, stand in columns of flags alone. -/
theorem ResolvedSort.isBool_of_comesBack
    (comesBack : sort.ComesBack .standard catalog entity row) : value.isBool = false := by
  obtain ⟨_, _, typed, sameLocated, sameReadsBack, entryMade, noTruth⟩ := comesBack
  obtain rfl := Option.some.inj (located.symm.trans sameLocated)
  obtain rfl := readsBack.unique sameReadsBack
  obtain ⟨_, sameResolved, _, casted⟩ := (Cursor.resolveEntry_eq_ok _ _ _).1 entryMade
  obtain rfl := Except.ok.inj (resolved.symm.trans sameResolved)
  cases image with
  | bool truth =>
      have isFlag : target.leaf.dataType = .bool := by
        rw [sameType]
        by_contra noFlag
        exact Bool.false_ne_true (Value.isBool_eq_false_of_fits fits noFlag).symm
      rcases casted with ⟨missing, _⟩ | ⟨_, casted⟩
      · exact absurd missing Bool.false_ne_true
      · rw [Casters.castFor_standard_eq_ok, isFlag] at casted
        obtain rfl := Except.ok.inj casted
        exact noTruth
  | _ => rfl

/-- What a row holds for a sort comes back if it is no truth value. -/
theorem ResolvedSort.comesBack_of_isBool (noTruth : value.isBool = false) :
    sort.ComesBack .standard catalog entity row := by
  cases missing : value.isNull with
  | true =>
      obtain rfl := (Value.isNull_iff _).1 missing
      cases image
      exact ⟨.null, .null, .null, located, readsBack,
        (Cursor.resolveEntry_eq_ok _ _ _).2 ⟨target, resolved, rfl, Or.inl ⟨rfl, rfl⟩⟩, rfl⟩
  | false =>
      have ofType : value.isOfType target.leaf.dataType = true := by
        rw [sameType]
        simpa [Value.fits, missing] using fits
      have noFlag : target.leaf.dataType ≠ .bool := by
        intro isFlag
        rw [isFlag] at ofType
        rw [Value.isBool_of_isOfType ofType] at noTruth
        exact Bool.false_ne_true noTruth.symm
      have present : again.isNull = false := by
        rw [image.isNull_eq, missing]
      obtain ⟨typed, casted, typedOfType⟩ := Cast.exists_cast_image ofType image
      have typedFits : typed.fits target.leaf.dataType = true := by
        rw [Value.fits, typedOfType, Bool.or_true]
      refine ⟨value, again, typed, located, readsBack, ?_,
        Value.isBool_eq_false_of_fits typedFits noFlag⟩
      rw [Cursor.resolveEntry_eq_ok]
      refine ⟨target, resolved, rfl, Or.inr ⟨present, ?_⟩⟩
      exact (Casters.castFor_standard_eq_ok _ _ _).2 casted

end OneValue

theorem ResolvedSort.path_eq_primaryKey (isKey : sort.target = .toPrimaryKey entity) :
    sort.path = entity.primaryKey := by
  unfold path
  rw [isKey]
  exact Entity.field_primaryKeyAttribute entity

theorem ResolvedSort.leaf_eq_of_find? (isKey : sort.target = .toPrimaryKey entity)
    {found : LoadedAttribute} (located : entity.find? entity.primaryKey = some found) :
    sort.target.leaf = found := by
  rw [isKey]
  change entity.primaryKeyAttribute = found
  unfold Entity.primaryKeyAttribute
  rw [located, Option.getD_some]

/-- Requested sorts lead where they led before, and the added one to the primary key. -/
structure Listing.LeadsBack (listing : Listing) (catalog : Catalog) : Prop where
  targets : ∀ sort ∈ listing.sorts,
    answer (Catalog.resolvePath listing.entity sort.path) catalog = .ok sort.target ∨
      sort.target = .toPrimaryKey listing.entity
  junctions : ∀ sort ∈ listing.sorts, sort.target.leaf.dataType = .junction →
    sort.target.leaf.isLoaded = true
  exists_key : ∃ sort ∈ listing.sorts, sort.path = listing.entity.primaryKey

theorem QueryService.leadsBack_of_build {service : QueryService} {request : ListRequest}
    {listing : Listing} (built : answer (service.build request) catalog = .ok listing) :
    listing.LeadsBack catalog := by
  obtain ⟨entity, _, onEntity⟩ := (service.build_eq_ok request).1 built
  obtain ⟨filters, sorts, resolved, _, sortsMade, _, placed⟩ :=
    (service.buildOn_eq_ok request entity).1 onEntity
  obtain ⟨filtering, sorted, plan, planned⟩ := Listing.exists_planned placed
  obtain ⟨conditions, passed, _, _, rfl⟩ := Listing.build_eq_ok planned placed
  constructor
  · intro sort member
    dsimp only at member ⊢
    rcases ResolvedSort.mem_withPrimaryKey member with requested | rfl
    · exact Or.inl (SortTerm.resolvePath_of_mem sortsMade requested)
    · exact Or.inr rfl
  · intro sort member
    exact Listing.isLoaded_of_planned planned member
  · exact ResolvedSort.exists_path_eq_primaryKey entity sorts

namespace Listing.LeadsBack

variable {listing : Listing} (leads : listing.LeadsBack catalog)
  (isField : Catalog.IsFieldPath listing.entity.primaryKey)

include leads isField

theorem dataType_eq (member : sort ∈ listing.sorts) {target : ResolvedPath}
    (resolved : answer (Catalog.resolvePath listing.entity sort.path) catalog = .ok target) :
    target.leaf.dataType = sort.target.leaf.dataType := by
  rcases leads.targets sort member with same | isKey
  · obtain rfl := Except.ok.inj (resolved.symm.trans same)
    rfl
  · rw [ResolvedSort.path_eq_primaryKey isKey] at resolved
    obtain ⟨found, located, declared⟩ := Catalog.exists_find?_of_resolvePath isField resolved
    rw [declared, ResolvedSort.leaf_eq_of_find? isKey located]

theorem exists_target (declared : listing.entity.primaryKey ∈ listing.entity.fields)
    (member : sort ∈ listing.sorts) :
    ∃ target, answer (Catalog.resolvePath listing.entity sort.path) catalog = .ok target := by
  rcases leads.targets sort member with same | isKey
  · exact ⟨_, same⟩
  · rw [← Entity.isSome_find?_iff, Option.isSome_iff_exists] at declared
    obtain ⟨found, located⟩ := declared
    have ready := leads.junctions sort member
    rw [ResolvedSort.leaf_eq_of_find? isKey located] at ready
    rw [ResolvedSort.path_eq_primaryKey isKey]
    exact ⟨_, Catalog.resolvePath_of_find? isField located ready⟩

/-- What a row holds comes back if the primary key is declared and none is a truth value. -/
theorem all_comeBack_iff {token : String} (made : Token.ofRow row listing.sorts = .ok token)
    (fits : row.Fits listing.sorts) :
    (∀ sort ∈ listing.sorts, sort.ComesBack .standard catalog listing.entity row) ↔
      listing.entity.primaryKey ∈ listing.entity.fields ∧
        ∀ sort ∈ listing.sorts, ∀ value, row.valueAt? sort.path = some value →
          value.isBool = false := by
  obtain ⟨key, keyMember, isKey⟩ := leads.exists_key
  obtain ⟨first, rest, _, tells⟩ := Token.exists_read made (List.ne_nil_of_mem keyMember) fits
  have told {sort : ResolvedSort} (member : sort ∈ listing.sorts) : ∃ value again,
      row.valueAt? sort.path = some value ∧ Image value again ∧ ReadsBack value again := by
    obtain ⟨again, found⟩ := Dictionary.exists_get? ((tells.paths _).2 ⟨sort, member, rfl⟩)
    obtain ⟨value, located⟩ := tells.values _ _ (Dictionary.mem_of_get? found)
    exact ⟨value, again, located⟩
  constructor
  · intro comesBack
    constructor
    · obtain ⟨_, _, _, _, _, entryMade, _⟩ := comesBack key keyMember
      obtain ⟨target, resolved, _⟩ := (Cursor.resolveEntry_eq_ok _ _ _).1 entryMade
      rw [isKey] at resolved
      obtain ⟨found, located, _⟩ := Catalog.exists_find?_of_resolvePath isField resolved
      rw [← Entity.isSome_find?_iff, located]
      rfl
    · intro sort member value located
      obtain ⟨same, again, sameLocated, image, readsBack⟩ := told member
      obtain rfl := Option.some.inj (located.symm.trans sameLocated)
      obtain ⟨_, _, _, _, _, entryMade, _⟩ := comesBack sort member
      obtain ⟨target, resolved, _⟩ := (Cursor.resolveEntry_eq_ok _ _ _).1 entryMade
      exact ResolvedSort.isBool_of_comesBack resolved
        (leads.dataType_eq isField member resolved) located (fits sort member value located)
        image readsBack (comesBack sort member)
  · rintro ⟨declared, noTruth⟩ sort member
    obtain ⟨value, again, located, image, readsBack⟩ := told member
    obtain ⟨target, resolved⟩ := leads.exists_target isField declared member
    exact ResolvedSort.comesBack_of_isBool resolved
      (leads.dataType_eq isField member resolved) located (fits sort member value located)
      image readsBack (noTruth sort member value located)

end Listing.LeadsBack

end Standard

namespace QueryService

/-- A handed out cursor is accepted if all that the boundary row holds for the sorts comes back: if
the primary key is declared and none of that is a truth value. -/
theorem accepts_handed_cursor_iff {service : QueryService}
    {request : ListRequest} {catalog : Catalog} {listing : Listing} {rows : List Row}
    {page : Page} {cursor : Cursor}
    (built : answer (service.build request) catalog = .ok listing)
    (typed : ∀ row ∈ rows, row.Fits listing.sorts)
    (paged : listing.page rows = .ok page) (handed : page.HandsOut cursor) :
    ∃ row, page.boundary? cursor = some row ∧
      (service.Accepts { request with cursor } (after (service.build request) catalog) ↔
        ∀ sort ∈ listing.sorts, sort.ComesBack service.registry.casters
          (after (service.build request) catalog) listing.entity row) ∧
      (service.registry.casters = .standard →
        Catalog.IsFieldPath listing.entity.primaryKey →
        (service.Accepts { request with cursor } (after (service.build request) catalog) ↔
          listing.entity.primaryKey ∈ listing.entity.fields ∧
            ∀ sort ∈ listing.sorts, ∀ value, row.valueAt? sort.path = some value →
              value.isBool = false)) := by
  have again := service.build_again request built
  obtain ⟨someSorts, notEmpty, row, member, boundary, made⟩ :=
    Listing.token_of_handsOut paged handed
  have accepts := accepts_iff_comesBack again someSorts notEmpty made (typed row member)
  refine ⟨row, boundary, accepts, ?_⟩
  intro standard isField
  have leads := leadsBack_of_build again
  rw [accepts, standard]
  exact leads.all_comeBack_iff isField made (typed row member)

def titledNotes : StoredEntity where
  name := "Note"
  tableName := "notes"
  attributes := [{ field := "title" }]

def keyedNotes : StoredEntity :=
  { titledNotes with attributes := [{ field := "id", dataType := .int }, { field := "title" }] }

def catalogOf (notes : StoredEntity) : Catalog where
  store := .ofEntities [notes]

def firstNote : ListRequest where
  entity := "Note"
  pagination := { limit := some 1 }

def firstNoteListing (notes : StoredEntity) : Listing where
  entity := notes.load
  statement :=
    { distinct := false
      projections := Listing.projections notes.load
        [⟨⟨.toPrimaryKey notes.load, .ascending⟩, ⟨.root "notes", "id"⟩⟩]
      root := "notes"
      joins := []
      conditions := []
      order := [⟨⟨.root "notes", "id"⟩, .ascending, false⟩]
      limit := 2
      offset := 0 }
  limit := 1
  sorts := [⟨.toPrimaryKey notes.load, .ascending⟩]
  cursor := {}

def twoNotes : List Row :=
  [[("id", .int 1), ("title", .text "a")], [("id", .int 2), ("title", .text "b")]]

def behindFirstNote : Cursor where
  last := some "eyJpZCI6MX0"

def firstNotePage : Page where
  items := twoNotes.take 1
  cursor := behindFirstNote
  hasPrevious := false
  hasNext := true

theorem handsOut_firstNotePage : firstNotePage.HandsOut behindFirstNote :=
  ⟨"eyJpZCI6MX0", by decide, Or.inl ⟨rfl, rfl⟩⟩

theorem fits_twoNotes {sort : ResolvedSort} (isKey : sort.path = "id")
    (isInteger : sort.target.leaf.dataType = .int) : ∀ row ∈ twoNotes, row.Fits [sort] := by
  intro row member other same value located
  obtain rfl := List.mem_singleton.1 same
  rw [isKey] at located
  rw [isInteger]
  simp only [twoNotes, List.mem_cons, List.not_mem_nil, or_false] at member
  rcases member with rfl | rfl <;> obtain rfl := Option.some.inj located <;> rfl

/-- The cursor behind the first note is accepted just where the key is declared. -/
theorem behind_first_note :
    Accepts {} { firstNote with cursor := behindFirstNote }
        (after (build {} firstNote) (catalogOf keyedNotes)) ∧
      ¬Accepts {} { firstNote with cursor := behindFirstNote }
        (after (build {} firstNote) (catalogOf titledNotes)) := by
  have isField : Catalog.IsFieldPath "id" := ⟨rfl, by decide⟩
  constructor
  · have built : answer (build {} firstNote) (catalogOf keyedNotes) =
        .ok (firstNoteListing keyedNotes) := rfl
    have paged : (firstNoteListing keyedNotes).page twoNotes = .ok firstNotePage := rfl
    obtain ⟨row, boundary, _, accepts⟩ :=
      accepts_handed_cursor_iff built (fits_twoNotes rfl rfl) paged handsOut_firstNotePage
    obtain rfl := Option.some.inj boundary
    rw [accepts rfl isField]
    refine ⟨by decide, ?_⟩
    intro sort member value located
    obtain rfl := List.mem_singleton.1 member
    obtain rfl := Option.some.inj located
    rfl
  · have built : answer (build {} firstNote) (catalogOf titledNotes) =
        .ok (firstNoteListing titledNotes) := rfl
    have paged : (firstNoteListing titledNotes).page twoNotes = .ok firstNotePage := rfl
    obtain ⟨row, boundary, _, accepts⟩ :=
      accepts_handed_cursor_iff built (fits_twoNotes rfl rfl) paged handsOut_firstNotePage
    rw [accepts rfl isField]
    rintro ⟨declared, _⟩
    exact absurd declared (by decide)

end QueryService
end SchemaQuery
