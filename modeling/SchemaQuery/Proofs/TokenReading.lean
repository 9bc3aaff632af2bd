import SchemaQuery.Proofs.JsonReading
import SchemaQuery.Proofs.RowToken
import SchemaQuery.Proofs.TokenText

/-!
# The token of a row is read back

The token of a row holds its values by the paths of the sorts.  Where these values are of
column types, the token can be read, and it gives for each path what JSON holds of the
row's value there.
-/

namespace SchemaQuery

/-- Whether the values of a row for sorts are of the sorts' types, or missing. -/
def Row.Fits (row : Row) (sorts : List ResolvedSort) : Prop :=
  ∀ sort ∈ sorts, ∀ value, row.valueAt? sort.path = some value →
    value.fits sort.target.leaf.dataType = true

namespace Token

open Codec.Json (Image ReadsBack)

/-- Whether entries say what a row holds for sorts, as far as JSON can. -/
structure Tells (row : Row) (sorts : List ResolvedSort) (entries : Dictionary Value) : Prop where
  paths : ∀ path, path ∈ entries.map Prod.fst ↔ ∃ sort ∈ sorts, sort.path = path
  values : ∀ path again, (path, again) ∈ entries →
    ∃ value, row.valueAt? path = some value ∧ Image value again ∧ ReadsBack value again

variable {row : Row} {sorts : List ResolvedSort} {entries : Dictionary Value}

/-- For a sort, entries tell what is read again of the row's value. -/
theorem Tells.get?_eq_some (tells : Tells row sorts entries) {sort : ResolvedSort}
    (member : sort ∈ sorts) (again : Value) :
    entries.get? sort.path = some again ↔
      ∃ value, row.valueAt? sort.path = some value ∧ ReadsBack value again := by
  constructor
  · intro found
    obtain ⟨value, located, _, readsBack⟩ := tells.values _ _ (Dictionary.mem_of_get? found)
    exact ⟨value, located, readsBack⟩
  · rintro ⟨value, located, readsBack⟩
    obtain ⟨other, found⟩ := Dictionary.exists_get? ((tells.paths _).2 ⟨sort, member, rfl⟩)
    obtain ⟨same, sameLocated, _, sameReadsBack⟩ :=
      tells.values _ _ (Dictionary.mem_of_get? found)
    obtain rfl := Option.some.inj (located.symm.trans sameLocated)
    rw [found, sameReadsBack.unique readsBack]

/-- The token of a written record is read as what JSON holds of it. -/
theorem read_encode {written others : List (String × Value)} {pieces : List (List Char)}
    (spells : Codec.Json.SpellsEach written pieces others) (nonempty : written ≠ [])
    (nodup : (written.map Prod.fst).Nodup) :
    read (encode ('\x7b' :: Codec.Json.separated pieces ++ ['\x7d'])) = .ok (.record others) := by
  have ascii : ∀ character ∈ '\x7b' :: Codec.Json.separated pieces ++ ['\x7d'],
      character.toNat < 128 := by
    intro character member
    rcases List.mem_append.1 member with inside | closing
    · rcases List.mem_cons.1 inside with rfl | within
      · decide
      · exact spells.ascii character within
    · rw [List.mem_singleton.1 closing]
      decide
  unfold read
  rw [decode_encode ascii]
  dsimp only
  rw [Codec.Json.read_written spells nonempty nodup]

/-- The token of a row is read as a record of what the row holds. -/
theorem exists_read {token : String} (made : ofRow row sorts = .ok token)
    (someSorts : sorts ≠ []) (fits : row.Fits sorts) :
    ∃ first rest, read token = .ok (.record (first :: rest)) ∧
      Tells row sorts (first :: rest) := by
  obtain ⟨edge, pieces, edgeMade, piecesMade, rfl⟩ := ofRow_eq_ok made
  obtain ⟨values, paths, nodup⟩ := Row.edge_eq_ok edgeMade
  have edgeFits : ∀ entry ∈ edge, ∃ dataType, entry.2.fits dataType = true := by
    intro entry member
    obtain ⟨sort, sortMember, named⟩ := (paths entry.1).1 (List.mem_map_of_mem member)
    have located := values entry member
    rw [← named] at located
    exact ⟨_, fits sort sortMember entry.2 located⟩
  obtain ⟨others, spells⟩ := Codec.Json.exists_spellsEach edgeFits piecesMade
  have someEdge : edge ≠ [] := by
    rintro rfl
    obtain ⟨sort, member⟩ := List.exists_mem_of_ne_nil sorts someSorts
    exact absurd ((paths sort.path).2 ⟨sort, member, rfl⟩) List.not_mem_nil
  have tells : Tells row sorts others := by
    constructor
    · rw [spells.keys]
      exact paths
    · intro path again member
      obtain ⟨value, written, image, readsBack⟩ := spells.exists_written member
      exact ⟨value, values _ written, image, readsBack⟩
  cases others with
  | nil =>
      have noKeys := spells.keys
      rw [List.map_nil, eq_comm, List.map_eq_nil_iff] at noKeys
      exact absurd noKeys someEdge
  | cons first rest => exact ⟨first, rest, read_encode spells someEdge nodup, tells⟩

end Token
end SchemaQuery
