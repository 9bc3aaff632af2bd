import SchemaQuery.Proofs.CursorReading

/-!
# The token of a row leads back to the row's values

A token is written through four codecs: values become scalars of JSON, their text is escaped, it
becomes bytes, and these become characters of base64.  On the way back the paths are resolved once
more, and a caster for the data type at the end of each path makes a typed value again.  This file
puts the way there and the way back together.
-/

namespace SchemaQuery

open Calendar (Timestamp)
open Catalog (answer)

theorem Token.mem_alphabet_of_ofRow {row : Row} {sorts : List ResolvedSort} {token : String}
    (made : Token.ofRow row sorts = .ok token) :
    ∀ character ∈ token.toList, character ∈ Codec.Base64.alphabet := by
  obtain ⟨edge, pieces, _, _, rfl⟩ := Token.ofRow_eq_ok made
  intro character member
  rw [Token.encode, String.toList_ofList] at member
  exact Codec.Base64.mem_alphabet_of_mem_encode member

/-- The token of a row is made of letters, digits, hyphens and underscores, and leads to an edge
with the row's own values, as either side of a cursor. -/
theorem Cursor.resolve_token_of_row {catalog : Catalog} {entity : LoadedEntity} {row : Row}
    {sorts : List ResolvedSort} (someSorts : sorts ≠ [])
    (resolved : ∀ sort ∈ sorts,
      answer (Catalog.resolvePath entity sort.path) catalog = .ok sort.target)
    (noFloat : ∀ sort ∈ sorts, sort.target.leaf.dataType ≠ .float)
    (fits : row.Fits sorts)
    (noHalf : ∀ sort ∈ sorts, ∀ codes, row.valueAt? sort.path ≠ some (.unpaired codes))
    (readsBack : ∀ sort ∈ sorts, ∀ moment, row.valueAt? sort.path = some (.timestamp moment) →
      Timestamp.ofIso moment.iso = .ok moment)
    {token : String} (made : Token.ofRow row sorts = .ok token) :
    (∀ character ∈ token.toList, character ∈ Codec.Base64.alphabet) ∧
      ∀ cursor : Cursor, cursor = { last := some token } ∨ cursor = { first := some token } →
        ∃ edge, answer (cursor.resolve .standard entity) catalog =
            .ok { cursor, edge := some edge } ∧
          (∀ path, path ∈ edge.map Prod.fst ↔ ∃ sort ∈ sorts, sort.path = path) ∧
          ∀ sort ∈ sorts, edge.get? sort.path = row.valueAt? sort.path := by
  refine ⟨Token.mem_alphabet_of_ofRow made, ?_⟩
  intro cursor oneSide
  have given := Token.isGiven_ofRow made
  obtain ⟨notEmpty, isToken⟩ : cursor.isEmpty = false ∧ cursor.token = token := by
    rcases oneSide with rfl | rfl
    · exact ⟨isEmpty_last given, token_last given⟩
    · exact ⟨isEmpty_first given, token_first given⟩
  rw [← isToken] at made
  apply exists_resolve_of_cast someSorts (fun sort member => ⟨_, resolved sort member, rfl⟩) fits
    _ notEmpty made
  intro sort member value again located ofType image
  apply Cast.cast_image ofType (noFloat sort member) _ _ image
  · rintro codes rfl
    exact noHalf sort member codes located
  · rintro moment rfl
    exact readsBack sort member moment located

namespace Message

def message : StoredEntity where
  name := "Message"
  attributes :=
    [{ field := "subject" },
     { field := "rank", dataType := .int },
     { field := "urgent", dataType := .bool },
     { field := "day", dataType := .date },
     { field := "sent", dataType := .datetime },
     { field := "answers", dataType := .lookup, options := "Message" }]

def mailbox : Catalog where
  store := .ofEntities [message]

def sortBy (declared : Attribute) : ResolvedSort where
  target :=
    { path := declared.field, relationship := "", steps := [], leaf := declared.load "" }
  direction := .ascending

def sent : Timestamp where
  date := ⟨2024, 2, 29, by decide⟩
  time := ⟨10, 30, 0, 125, by decide⟩
  offset := some ⟨19800 * 1000000, by decide⟩

def row : Row :=
  [("subject", .text "a \"quoted\" \\ word,\na tab\tand 𝄞"),
    ("rank", .int 1000000000000000000000000000000000000000), ("urgent", .bool true),
    ("day", .date ⟨12, 3, 4, by decide⟩), ("sent", .timestamp sent), ("answers", .null)]

def sorts : List ResolvedSort :=
  message.attributes.map sortBy

theorem spec_sorts {sort : ResolvedSort} (member : sort ∈ sorts) :
    answer (Catalog.resolvePath message.load sort.path) mailbox = .ok sort.target ∧
      sort.target.leaf.dataType ≠ .float ∧
      ∃ value, row.valueAt? sort.path = some value ∧
        value.fits sort.target.leaf.dataType = true ∧ value.isStorable = true ∧
        (∀ codes, value ≠ .unpaired codes) ∧
        ∀ moment, value = .timestamp moment → moment = sent := by
  simp only [sorts, message, List.map_cons, List.map_nil, List.mem_cons, List.not_mem_nil,
    or_false] at member
  rcases member with rfl | rfl | rfl | rfl | rfl | rfl
  · exact ⟨rfl, nofun, _, rfl, rfl, rfl, nofun, nofun⟩
  · exact ⟨rfl, nofun, _, rfl, rfl, by decide +kernel, nofun, nofun⟩
  · exact ⟨rfl, nofun, _, rfl, rfl, rfl, nofun, nofun⟩
  · exact ⟨rfl, nofun, _, rfl, rfl, rfl, nofun, nofun⟩
  · exact ⟨rfl, nofun, _, rfl, rfl, rfl, nofun, fun _ same => (Value.timestamp.inj same).symm⟩
  · exact ⟨rfl, nofun, _, rfl, rfl, rfl, nofun, nofun⟩

/-- Quotes, control characters, an integer of forty digits, microseconds and an
offset all come back. -/
theorem row_comes_back :
    ∃ token, Token.ofRow row sorts = .ok token ∧
      (∀ character ∈ token.toList, character ∈ Codec.Base64.alphabet) ∧
      ∀ cursor : Cursor, cursor = { last := some token } ∨ cursor = { first := some token } →
        ∃ edge, answer (cursor.resolve .standard message.load) mailbox =
            .ok { cursor, edge := some edge } ∧
          (∀ path, path ∈ edge.map Prod.fst ↔ ∃ sort ∈ sorts, sort.path = path) ∧
          ∀ sort ∈ sorts, edge.get? sort.path = row.valueAt? sort.path := by
  obtain ⟨token, made⟩ : ∃ token, Token.ofRow row sorts = .ok token := by
    apply Token.exists_ofRow
    intro sort member
    obtain ⟨_, _, value, located, _, storable, _⟩ := spec_sorts member
    exact ⟨value, located, storable⟩
  refine ⟨token, made, Cursor.resolve_token_of_row (List.cons_ne_nil _ _) ?_ ?_ ?_ ?_ ?_ made⟩
  · exact fun sort member => (spec_sorts member).1
  · exact fun sort member => (spec_sorts member).2.1
  · intro sort member value located
    obtain ⟨_, _, _, same, fits, _⟩ := spec_sorts member
    obtain rfl := Option.some.inj (located.symm.trans same)
    exact fits
  · intro sort member codes located
    obtain ⟨_, _, _, same, _, _, noHalf, _⟩ := spec_sorts member
    exact noHalf codes (Option.some.inj (same.symm.trans located))
  · intro sort member moment located
    obtain ⟨_, _, _, same, _, _, _, isSent⟩ := spec_sorts member
    rw [isSent moment (Option.some.inj (same.symm.trans located)),
      Timestamp.ofIso_iso_eq_self_iff]
    intro offset given
    obtain rfl := Option.some.inj given
    exact Or.inr (by decide)

end Message
end SchemaQuery
