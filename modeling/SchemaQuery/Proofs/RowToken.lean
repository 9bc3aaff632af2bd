import SchemaQuery.Cursor.Token
import SchemaQuery.Proofs.Database
import SchemaQuery.Proofs.DictionaryEntries
import SchemaQuery.Proofs.TokenText

/-!
# The token of a row

A row that has a value for the path of every sort has an edge: those values by their
paths, each path once.  Whatever may stand in a column can be written, so the row of a
table has a token.  A token is never blank.
-/

namespace SchemaQuery

namespace Row

open Success

variable {row : Row} {sorts : List ResolvedSort} {edge : Edge}

/-- The edge of a row has its values by the paths of the sorts, each once. By induction on the
sorts, behind what those before them have put into the edge. -/
theorem edge_eq_ok (made : row.edge sorts = .ok edge) :
    (∀ entry ∈ edge, row.valueAt? entry.1 = some entry.2) ∧
      (∀ path, path ∈ edge.map Prod.fst ↔ ∃ sort ∈ sorts, sort.path = path) ∧
      (edge.map Prod.fst).Nodup := by
  suffices general : ∀ before : Edge, sorts.foldlM row.withValue before = .ok edge →
      (∀ entry ∈ before, row.valueAt? entry.1 = some entry.2) →
      (before.map Prod.fst).Nodup →
      (∀ entry ∈ edge, row.valueAt? entry.1 = some entry.2) ∧
        (∀ path, path ∈ edge.map Prod.fst ↔
          path ∈ before.map Prod.fst ∨ ∃ sort ∈ sorts, sort.path = path) ∧
        (edge.map Prod.fst).Nodup by
    obtain ⟨values, keys, nodup⟩ := general [] made (by simp) (by simp)
    exact ⟨values, by simpa using keys, nodup⟩
  clear made
  induction sorts with
  | nil =>
      intro before made values nodup
      obtain rfl := (pure_eq_ok _ _).1 made
      exact ⟨values, by simp, nodup⟩
  | cons sort rest hypothesis =>
      intro before made values nodup
      rw [List.foldlM_cons, bind_eq_ok] at made
      obtain ⟨next, nextMade, made⟩ := made
      unfold withValue at nextMade
      cases found : row.valueAt? sort.path with
      | none => simp [found] at nextMade
      | some value =>
          rw [found] at nextMade
          obtain rfl := Except.ok.inj nextMade
          have nextValues : ∀ entry ∈ before.insert sort.path value,
              row.valueAt? entry.1 = some entry.2 := by
            intro entry member
            rcases Dictionary.mem_insert member with there | rfl
            · exact values entry there
            · exact found
          obtain ⟨edgeValues, edgeKeys, edgeNodup⟩ := hypothesis _ made nextValues
            (Dictionary.nodup_keys_insert nodup sort.path value)
          refine ⟨edgeValues, ?_, edgeNodup⟩
          intro path
          rw [edgeKeys, Dictionary.mem_keys_insert, or_assoc, @eq_comm _ path]
          simp only [List.mem_cons, exists_eq_or_imp]

theorem exists_edge (given : ∀ sort ∈ sorts, ∃ value, row.valueAt? sort.path = some value) :
    ∃ edge, row.edge sorts = .ok edge := by
  unfold Row.edge
  suffices general : ∀ before : Edge, ∃ edge, sorts.foldlM row.withValue before = .ok edge by
    exact general []
  induction sorts with
  | nil =>
      intro before
      exact ⟨before, rfl⟩
  | cons sort rest hypothesis =>
      intro before
      obtain ⟨value, found⟩ := given sort List.mem_cons_self
      obtain ⟨edge, made⟩ := hypothesis (fun sort member =>
        given sort (List.mem_cons_of_mem _ member)) (before.insert sort.path value)
      refine ⟨edge, ?_⟩
      rw [List.foldlM_cons, withValue, found]
      exact made

end Row

namespace Codec.Json

theorem exists_write {value : Value} (storable : value.isStorable = true) :
    ∃ characters, write value = .ok characters := by
  cases value with
  | int number =>
      have short : ¬Number.integerDigitLimit < (Number.digitsOf number.natAbs).length := by
        simpa [Value.isStorable] using storable
      rw [write, writeInteger, if_neg short]
      exact ⟨_, rfl⟩
  | _ =>
      first
        | exact ⟨_, rfl⟩
        | simp [Value.isStorable] at storable

theorem exists_writeEntries {entries : List (String × Value)}
    (storable : ∀ entry ∈ entries, entry.2.isStorable = true) :
    ∃ pieces, writeEntries entries = .ok pieces := by
  induction entries with
  | nil => exact ⟨[], rfl⟩
  | cons entry rest hypothesis =>
      obtain ⟨written, valueMade⟩ := exists_write (storable entry List.mem_cons_self)
      obtain ⟨others, othersMade⟩ := hypothesis fun entry member =>
        storable entry (List.mem_cons_of_mem _ member)
      refine ⟨(writeText entry.1 ++ ':' :: written) :: others, ?_⟩
      rw [writeEntries, valueMade, othersMade]
      rfl

end Codec.Json

namespace Token

open Success

/-- The text of a token is a JSON object. -/
theorem ofRow_eq_ok {row : Row} {sorts : List ResolvedSort} {token : String}
    (made : ofRow row sorts = .ok token) :
    ∃ edge pieces, row.edge sorts = .ok edge ∧ Codec.Json.writeEntries edge = .ok pieces ∧
      token = encode ('\x7b' :: Codec.Json.separated pieces ++ ['\x7d']) := by
  unfold ofRow at made
  obtain ⟨edge, edgeMade, made⟩ := (bind_eq_ok _ _ _).1 made
  split at made
  · rename_i characters written
    rw [Codec.Json.write] at written
    obtain ⟨pieces, piecesMade, shaped⟩ := (bind_eq_ok _ _ _).1 written
    obtain rfl := (pure_eq_ok _ _).1 shaped
    exact ⟨edge, pieces, edgeMade, piecesMade, ((pure_eq_ok _ _).1 made).symm⟩
  · simp at made

theorem exists_ofRow {row : Row} {sorts : List ResolvedSort}
    (given : ∀ sort ∈ sorts, ∃ value, row.valueAt? sort.path = some value ∧
      value.isStorable = true) :
    ∃ token, ofRow row sorts = .ok token := by
  obtain ⟨edge, edgeMade⟩ := Row.exists_edge fun sort member =>
    (given sort member).imp fun _ found => found.1
  obtain ⟨values, keys, _⟩ := Row.edge_eq_ok edgeMade
  have storable : ∀ entry ∈ edge, entry.2.isStorable = true := by
    intro entry member
    obtain ⟨sort, sortMember, named⟩ := (keys entry.1).1 (List.mem_map_of_mem member)
    obtain ⟨value, found, fits⟩ := given sort sortMember
    rw [named, values entry member] at found
    rw [Option.some.inj found]
    exact fits
  obtain ⟨pieces, piecesMade⟩ := Codec.Json.exists_writeEntries storable
  refine ⟨encode ('\x7b' :: Codec.Json.separated pieces ++ ['\x7d']), ?_⟩
  unfold ofRow
  rw [bind_eq_ok]
  refine ⟨edge, edgeMade, ?_⟩
  rw [Codec.Json.write, piecesMade]
  rfl

def orBlank (sorts : List ResolvedSort) (row : Row) : String :=
  match ofRow row sorts with
  | .ok token => token
  | .error _ => ""

theorem ofRow_eq_orBlank {row : Row} {sorts : List ResolvedSort}
    (made : ∃ token, ofRow row sorts = .ok token) :
    ofRow row sorts = .ok (orBlank sorts row) := by
  obtain ⟨token, made⟩ := made
  unfold orBlank
  rw [made]

theorem isGiven_ofRow {row : Row} {sorts : List ResolvedSort} {token : String}
    (made : ofRow row sorts = .ok token) : Cursor.isGiven (some token) = true := by
  obtain ⟨edge, pieces, _, _, rfl⟩ := ofRow_eq_ok made
  have nonempty : Codec.Utf8.encode
      ('\x7b' :: Codec.Json.separated pieces ++ ['\x7d']) ≠ [] := by
    simp [Codec.Utf8.encode, Codec.Utf8.encodeCharacter]
  obtain ⟨first, rest, shape⟩ := List.exists_cons_of_ne_nil (Codec.Base64.encode_ne_nil nonempty)
  have visible : Text.isBlank first = false := by
    apply Codec.Base64.not_blank_of_mem_encode
    rw [shape]
    exact List.mem_cons_self
  unfold Cursor.isGiven encode
  rw [shape, Option.any_some, Text.isBlankText, String.toList_ofList, List.all_cons, visible]
  rfl

end Token

namespace Cursor

open Success

/-- Rows lead on to other pages by the tokens of the first and the last. -/
theorem next_eq_ok (cursor : Cursor) {items : List Row} {sorts : List ResolvedSort}
    (hasMore : Bool) (nonempty : items ≠ []) (sorted : sorts ≠ [])
    (tokens : ∀ item ∈ items, ∃ token, Token.ofRow item sorts = .ok token) :
    cursor.next items sorts hasMore =
      .ok
        { first := some (if (cursor.pageFlags hasMore).1 then
            (items.head?.map (Token.orBlank sorts)).getD "" else "")
          last := some (if (cursor.pageFlags hasMore).2 then
            (items.getLast?.map (Token.orBlank sorts)).getD "" else "") } := by
  have first : items.head? = some (items.head nonempty) := List.head?_eq_some_head nonempty
  have last : items.getLast? = some (items.getLast nonempty) :=
    List.getLast?_eq_some_getLast nonempty
  have firstMade := Token.ofRow_eq_orBlank (tokens _ (List.head_mem nonempty))
  have lastMade := Token.ofRow_eq_orBlank (tokens _ (List.getLast_mem nonempty))
  have someSorts : sorts.isEmpty = false := by simpa using sorted
  unfold Cursor.next
  rw [someSorts, first, last]
  obtain ⟨hasPrevious, hasNext⟩ := cursor.pageFlags hasMore
  simp only [firstMade, lastMade]
  cases hasPrevious <;> cases hasNext <;> rfl

theorem isGiven_side {token : String} (given : isGiven (some token) = true) (wanted : Bool) :
    isGiven (some (if wanted then token else "")) = wanted ∧
      (some (if wanted then token else "")).any (· != "") = wanted := by
  cases wanted with
  | false => exact ⟨rfl, rfl⟩
  | true =>
      refine ⟨given, bne_iff_ne.2 ?_⟩
      rintro rfl
      exact absurd given (by decide)

end Cursor
end SchemaQuery
