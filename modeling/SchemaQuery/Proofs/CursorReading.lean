import SchemaQuery.Proofs.PathReading
import SchemaQuery.Proofs.TokenReading
import SchemaQuery.Proofs.TypedReading

/-!
# Resolving what a token says

Pages hand out cursors with one side, and such a cursor leads on by the token on that side.
It is resolved by resolving the path of each entry of its token and casting the entry's value.
This file says what the edge of a cursor holds when its token has been read.  Values that JSON
holds without loss come back as they were.
-/

namespace SchemaQuery

open Catalog (answer)

namespace Cursor

section OneSide

variable {side : String} (given : isGiven (some side) = true)

include given

theorem isEmpty_last : isEmpty { last := some side } = false := by
  unfold isEmpty
  rw [given, Bool.not_true, Bool.and_false]

theorem isEmpty_first : isEmpty { first := some side } = false := by
  unfold isEmpty
  rw [given, Bool.not_true, Bool.false_and]

theorem isForward_last : isForward { last := some side } = true := by
  unfold isForward
  rw [given, Bool.true_or]

theorem isForward_first : isForward { first := some side } = false := by
  unfold isForward
  rw [given]
  rfl

theorem token_last : token { last := some side } = side := by
  unfold token
  rw [isForward_last given, if_pos rfl, Option.getD_some]

theorem token_first : token { first := some side } = side := by
  unfold token
  rw [isForward_first given, if_neg Bool.false_ne_true, Option.getD_some]

theorem pageFlags_last (hasMore : Bool) :
    pageFlags { last := some side } hasMore = (true, hasMore) := by
  unfold pageFlags
  rw [given]
  rfl

theorem pageFlags_first (hasMore : Bool) :
    pageFlags { first := some side } hasMore = (hasMore, true) := by
  unfold pageFlags
  rw [given]
  rfl

end OneSide

variable {casters : Casters} {entity : LoadedEntity} {catalog : Catalog}

theorem resolveEntry_eq_ok (path : String) (again : Value) (result : String × Value) :
    answer (resolveEntry casters entity (path, again)) catalog = .ok result ↔
      ∃ target, answer (Catalog.resolvePath entity path) catalog = .ok target ∧
        result.1 = path ∧
        (again.isNull = true ∧ result.2 = .null ∨
          again.isNull = false ∧
            casters.castFor target.leaf.toAttribute again = .ok result.2) := by
  unfold resolveEntry
  rw [Catalog.answer_bind_eq_ok]
  apply exists_congr
  intro target
  rw [Catalog.answer_adapt, Success.mapError_eq_ok]
  apply and_congr_right
  intro _
  obtain ⟨named, typed⟩ := result
  dsimp only
  cases again.isNull with
  | true => simp [eq_comm]
  | false => cases casters.castFor target.leaf.toAttribute again <;> simp [eq_comm]

/-- The edge of a cursor whose token is read as a record. -/
theorem resolve_eq_ok {cursor : Cursor}
    (notEmpty : cursor.isEmpty = false) {first : String × Value} {rest : List (String × Value)}
    (read : Token.read cursor.token = .ok (.record (first :: rest)))
    (resolved : ResolvedCursor) :
    answer (cursor.resolve casters entity) catalog = .ok resolved ↔
      ∃ edge, ((first :: rest).mapM fun entry =>
          answer (resolveEntry casters entity entry) catalog) = .ok edge ∧
        resolved = { cursor, edge := some edge } := by
  unfold resolve
  rw [notEmpty, if_neg (by decide), read]
  dsimp only [Value.entries?]
  rw [Catalog.answer_bind_eq_ok,
    Catalog.Consults.answer_mapM (consults_resolveEntry casters entity)]
  simp [eq_comm]

theorem exists_edge_of_resolve {cursor : Cursor} (notEmpty : cursor.isEmpty = false)
    {resolved : ResolvedCursor}
    (resolves : answer (cursor.resolve casters entity) catalog = .ok resolved) :
    ∃ edge, resolved = { cursor, edge := some edge } := by
  unfold resolve at resolves
  rw [notEmpty, if_neg Bool.false_ne_true] at resolves
  split at resolves
  · simp at resolves
  · split at resolves
    · obtain ⟨edge, _, same⟩ := (Catalog.answer_bind_eq_ok _ _ _ _).1 resolves
      exact ⟨edge, (Except.ok.inj same).symm⟩
    · simp at resolves

/-- A resolved edge has for each path what the token's entry comes to. -/
theorem get?_resolved {entries : Dictionary Value} {edge : Edge}
    (made : (entries.mapM fun entry => answer (resolveEntry casters entity entry) catalog) =
      .ok edge) (path : String) (typed : Value) :
    edge.get? path = some typed ↔
      ∃ again, entries.get? path = some again ∧
        answer (resolveEntry casters entity (path, again)) catalog = .ok (path, typed) := by
  apply Dictionary.get?_mapM _ made
  rintro ⟨named, again⟩ result resolved
  obtain ⟨_, _, same, _⟩ := (resolveEntry_eq_ok named again result).1 resolved
  exact same

theorem keys_resolved {entries : Dictionary Value} {edge : Edge}
    (made : (entries.mapM fun entry => answer (resolveEntry casters entity entry) catalog) =
      .ok edge) : edge.map Prod.fst = entries.map Prod.fst := by
  induction entries generalizing edge with
  | nil =>
      obtain rfl := Except.ok.inj made
      rfl
  | cons entry rest hypothesis =>
      obtain ⟨result, others, resultMade, othersMade, rfl⟩ :=
        (Success.mapM_cons_eq_ok _ _ _ _).1 made
      obtain ⟨_, _, same, _⟩ := (resolveEntry_eq_ok entry.1 entry.2 result).1 resultMade
      rw [List.map_cons, List.map_cons, same, hypothesis othersMade]

/-- The token of a row leads to an edge with the row's own values, if these
are cast to themselves. -/
theorem exists_resolve_of_cast {row : Row} {sorts : List ResolvedSort} {cursor : Cursor}
    (someSorts : sorts ≠ [])
    (found : ∀ sort ∈ sorts, ∃ target,
      answer (Catalog.resolvePath entity sort.path) catalog = .ok target ∧
        target.leaf.dataType = sort.target.leaf.dataType)
    (fits : row.Fits sorts)
    (casts : ∀ sort ∈ sorts, ∀ value again, row.valueAt? sort.path = some value →
      value.isOfType sort.target.leaf.dataType = true → Codec.Json.Image value again →
        Cast.standard sort.target.leaf.dataType again = .ok value)
    (notEmpty : cursor.isEmpty = false) (made : Token.ofRow row sorts = .ok cursor.token) :
    ∃ edge, answer (cursor.resolve .standard entity) catalog =
        .ok { cursor, edge := some edge } ∧
      (∀ path, path ∈ edge.map Prod.fst ↔ ∃ sort ∈ sorts, sort.path = path) ∧
      ∀ sort ∈ sorts, edge.get? sort.path = row.valueAt? sort.path := by
  obtain ⟨first, rest, read, tells⟩ := Token.exists_read made someSorts fits
  have entryMade {path : String} {again : Value} (member : (path, again) ∈ first :: rest) :
      ∃ value, row.valueAt? path = some value ∧
        answer (resolveEntry .standard entity (path, again)) catalog = .ok (path, value) := by
    obtain ⟨sort, sortMember, rfl⟩ := (tells.paths path).1 (List.mem_map_of_mem member)
    obtain ⟨value, located, image, _⟩ := tells.values _ _ member
    obtain ⟨target, resolved, sameType⟩ := found sort sortMember
    refine ⟨value, located, ?_⟩
    rw [resolveEntry_eq_ok, image.isNull_eq]
    refine ⟨target, resolved, rfl, ?_⟩
    cases missing : value.isNull with
    | true => exact Or.inl ⟨rfl, (Value.isNull_iff _).1 missing⟩
    | false =>
        have ofType := fits sort sortMember value located
        rw [Value.fits, missing, Bool.false_or] at ofType
        refine Or.inr ⟨rfl, (Casters.castFor_standard_eq_ok _ _ _).2 ?_⟩
        rw [sameType]
        exact casts sort sortMember value again located ofType image
  obtain ⟨edge, edgeMade⟩ : ∃ edge, ((first :: rest).mapM fun entry =>
      answer (resolveEntry .standard entity entry) catalog) = .ok edge := by
    apply Success.exists_mapM
    rintro ⟨path, again⟩ member
    obtain ⟨value, _, resolved⟩ := entryMade member
    exact ⟨_, resolved⟩
  refine ⟨edge, (resolve_eq_ok notEmpty read _).2 ⟨edge, edgeMade, rfl⟩, ?_, ?_⟩
  · intro path
    rw [keys_resolved edgeMade]
    exact tells.paths path
  · intro sort member
    obtain ⟨again, told⟩ := Dictionary.exists_get? ((tells.paths _).2 ⟨sort, member, rfl⟩)
    obtain ⟨value, located, resolved⟩ := entryMade (Dictionary.mem_of_get? told)
    rw [located, get?_resolved edgeMade]
    exact ⟨again, told, resolved⟩

end Cursor
end SchemaQuery
