import SchemaQuery.Cursor.Token
import SchemaQuery.Proofs.TextForms

/-!
# The text of a token

A token is ASCII text in base64.  This file proves that what has been written as a token
is read back: the bytes of base64, the characters of ASCII bytes, and so the text itself.
-/

namespace SchemaQuery

namespace Codec.Base64

theorem alphabet_spec : alphabet.all (fun character =>
    !(character == '=') && character.toNat < 128 && !Text.isBlank character) = true := by
  unfold alphabet
  simp only [String.reduceToList]
  decide +kernel

theorem character_mem_alphabet (sextet : Nat) : character sextet ∈ alphabet := by
  have first : 'A' ∈ alphabet := by
    unfold alphabet
    simp only [String.reduceToList]
    exact List.mem_cons_self
  unfold character
  rw [List.getD_eq_getElem?_getD]
  cases found : alphabet[sextet]? with
  | none => exact first
  | some other => exact List.mem_of_getElem? found

theorem character_spec (sextet : Nat) :
    (character sextet == '=') = false ∧ (character sextet).toNat < 128 ∧
      Text.isBlank (character sextet) = false := by
  have spec := List.all_eq_true.1 alphabet_spec _ (character_mem_alphabet sextet)
  simpa [and_assoc] using spec

theorem decodeFrom_character (groups : Nat) (group : List Nat) {sextet : Nat}
    (small : sextet < 64) (rest : List Char) (open' : group.length < 3) :
    decodeFrom groups group 0 false (character sextet :: rest) =
      decodeFrom groups (group ++ [sextet]) 0 false rest := by
  obtain ⟨noPadding, _, _⟩ := character_spec sextet
  rw [decodeFrom, noPadding, sextet?_character sextet small]
  simp [Nat.ne_of_lt open']

theorem decodeFrom_lastCharacter (groups : Nat) (group : List Nat) {sextet : Nat}
    (small : sextet < 64) (rest : List Char) (full : group.length = 3) :
    decodeFrom groups group 0 false (character sextet :: rest) =
      (decodeFrom (groups + 1) [] 0 false rest).map (bytesOfGroup (group ++ [sextet]) ++ ·) := by
  obtain ⟨noPadding, _, _⟩ := character_spec sextet
  rw [decodeFrom, noPadding, sextet?_character sextet small]
  simp [full]

theorem ofNat_parts (byte : UInt8) {number : Nat} (same : number = byte.toNat) :
    UInt8.ofNat number = byte := by
  rw [same, UInt8.ofNat_toNat]

abbrev padding (length : Nat) : List Char :=
  List.replicate ((4 - length % 4) % 4) '='

/-- By induction on the groups of three bytes; the unfinished group is padded. -/
theorem decodeFrom_encode (bytes : List UInt8) (groups : Nat) :
    decodeFrom groups [] 0 false (encode bytes ++ padding (encode bytes).length) =
      .ok bytes := by
  induction bytes using encode.induct generalizing groups with
  | case1 => rfl
  | case2 first =>
      have firstSmall := first.toNat_lt
      rw [encode]
      change decodeFrom groups [] 0 false (_ :: _ :: ['=', '=']) = _
      rw [decodeFrom_character groups [] (by omega) _ (by decide),
        decodeFrom_character groups _ (by omega) _ (by simp)]
      simp only [decodeFrom, List.nil_append, List.cons_append]
      simp only [bytesOfGroup]
      rw [ofNat_parts first (by omega)]
      rfl
  | case3 first second =>
      have firstSmall := first.toNat_lt
      have secondSmall := second.toNat_lt
      rw [encode]
      change decodeFrom groups [] 0 false (_ :: _ :: _ :: ['=']) = _
      rw [decodeFrom_character groups [] (by omega) _ (by decide),
        decodeFrom_character groups _ (by omega) _ (by simp),
        decodeFrom_character groups _ (by omega) _ (by simp)]
      simp only [decodeFrom, List.nil_append, List.cons_append]
      simp only [bytesOfGroup]
      rw [ofNat_parts first (by omega), ofNat_parts second (by omega)]
      rfl
  | case4 first second third rest hypothesis =>
      have firstSmall := first.toNat_lt
      have secondSmall := second.toNat_lt
      have thirdSmall := third.toNat_lt
      -- A full group is four characters long, so it takes no part in the padding.
      have samePadding : padding (encode (first :: second :: third :: rest)).length =
          padding (encode rest).length := by
        rw [encode]
        simp only [padding, List.length_cons]
        congr 1
        omega
      rw [samePadding, encode]
      simp only [List.cons_append]
      rw [decodeFrom_character groups [] (by omega) _ (by decide),
        decodeFrom_character groups _ (by omega) _ (by simp),
        decodeFrom_character groups _ (by omega) _ (by simp),
        decodeFrom_lastCharacter groups _ (by omega) _ (by simp), hypothesis]
      simp only [List.nil_append, List.cons_append, bytesOfGroup]
      rw [ofNat_parts first (by omega), ofNat_parts second (by omega),
        ofNat_parts third (by omega)]
      rfl

theorem mem_encode {bytes : List UInt8} {written : Char} (member : written ∈ encode bytes) :
    ∃ sextet < 64, written = character sextet := by
  induction bytes using encode.induct with
  | case1 => simp [encode] at member
  | case2 first =>
      have firstSmall := first.toNat_lt
      simp only [encode, List.mem_cons, List.not_mem_nil, or_false] at member
      rcases member with rfl | rfl <;> exact ⟨_, by omega, rfl⟩
  | case3 first second =>
      have firstSmall := first.toNat_lt
      have secondSmall := second.toNat_lt
      simp only [encode, List.mem_cons, List.not_mem_nil, or_false] at member
      rcases member with rfl | rfl | rfl <;> exact ⟨_, by omega, rfl⟩
  | case4 first second third rest hypothesis =>
      have firstSmall := first.toNat_lt
      have secondSmall := second.toNat_lt
      have thirdSmall := third.toNat_lt
      simp only [encode, List.mem_cons] at member
      rcases member with rfl | rfl | rfl | rfl | later
      · exact ⟨_, by omega, rfl⟩
      · exact ⟨_, by omega, rfl⟩
      · exact ⟨_, by omega, rfl⟩
      · exact ⟨_, by omega, rfl⟩
      · exact hypothesis later

/-- Only letters and digits of ASCII, the hyphen and the underscore are written. -/
theorem mem_alphabet_of_mem_encode {bytes : List UInt8} {written : Char}
    (member : written ∈ encode bytes) : written ∈ alphabet := by
  obtain ⟨sextet, small, rfl⟩ := mem_encode member
  exact character_mem_alphabet sextet

theorem encode_ne_nil {bytes : List UInt8} (nonempty : bytes ≠ []) : encode bytes ≠ [] := by
  rcases bytes with _ | ⟨first, _ | ⟨second, _ | ⟨third, rest⟩⟩⟩
  · exact absurd rfl nonempty
  · exact List.cons_ne_nil _ _
  · exact List.cons_ne_nil _ _
  · exact List.cons_ne_nil _ _

theorem not_blank_of_mem_encode {bytes : List UInt8} {written : Char}
    (member : written ∈ encode bytes) : Text.isBlank written = false := by
  obtain ⟨sextet, small, rfl⟩ := mem_encode member
  exact (character_spec sextet).2.2

theorem decode_encode (bytes : List UInt8) : decode (encode bytes) = .ok bytes := by
  have ascii : (encode bytes ++ padding (encode bytes).length).any
      (fun character => decide (128 ≤ character.toNat)) = false := by
    rw [List.any_eq_false]
    intro written member
    rw [decide_eq_true_eq]
    rcases List.mem_append.1 member with data | padded
    · obtain ⟨sextet, small, rfl⟩ := mem_encode data
      have isAscii := (character_spec sextet).2.1
      omega
    · obtain ⟨_, rfl⟩ := List.mem_replicate.1 padded
      decide
  have noLeading : ((encode bytes ++ padding (encode bytes).length).head? == some '=') =
      false := by
    cases shape : encode bytes with
    | nil => rfl
    | cons written rest =>
        obtain ⟨sextet, small, rfl⟩ := mem_encode (by rw [shape]; exact List.mem_cons_self)
        simpa using (character_spec sextet).1
  unfold decode decodePadded
  rw [ascii, noLeading]
  exact decodeFrom_encode bytes 0

end Codec.Base64

namespace Codec.Utf8

theorem encode_ascii {characters : List Char}
    (ascii : ∀ character ∈ characters, character.toNat < 128) :
    encode characters = characters.map fun character => byte character.toNat := by
  unfold encode
  induction characters with
  | nil => rfl
  | cons character rest hypothesis =>
      have small := ascii character List.mem_cons_self
      rw [List.flatMap_cons, List.map_cons, hypothesis fun other member =>
        ascii other (List.mem_cons_of_mem _ member)]
      rw [encodeCharacter, if_pos small]
      rfl

theorem readPiece_ascii {character : Char} (small : character.toNat < 128)
    (following : List UInt8) :
    readPiece (byte character.toNat) following = .character character 1 := by
  have number : (byte character.toNat).toNat = character.toNat := by
    unfold byte
    rw [UInt8.toNat_ofNat', Nat.mod_eq_of_lt (by omega)]
  have isAscii : byte character.toNat < 0x80 := by
    rw [UInt8.lt_iff_toNat_lt, number]
    exact small
  rw [readPiece, if_pos isAscii, number, Char.ofNat_toNat]

theorem decode_encode_ascii {characters : List Char}
    (ascii : ∀ character ∈ characters, character.toNat < 128) :
    decode (encode characters) = .ok characters := by
  rw [encode_ascii ascii, decode, pieces]
  suffices general : ∀ position, strictFrom position (piecesFrom 0
      (characters.map fun character => byte character.toNat)) = .ok characters by
    exact general 0
  induction characters with
  | nil => exact fun _ => rfl
  | cons character rest hypothesis =>
      intro position
      rw [List.map_cons, piecesFrom]
      simp only [readPiece_ascii (ascii character List.mem_cons_self)]
      rw [strictFrom]
      simp only [Piece.length]
      rw [hypothesis fun other member => ascii other (List.mem_cons_of_mem _ member)]
      rfl

end Codec.Utf8

namespace Text

theorem trimCharacters_eq_self {characters : List Char}
    (visible : ∀ character ∈ characters, isBlank character = false) :
    trimCharacters characters = characters :=
  trimCharacters_of_hasPlainEnds
    ⟨fun character isFirst => visible character (List.mem_of_mem_head? isFirst),
      fun character isLast => visible character (List.mem_of_mem_getLast? isLast)⟩

end Text

namespace Token

/-- ASCII text is read back from its token. -/
theorem decode_encode {characters : List Char}
    (ascii : ∀ character ∈ characters, character.toNat < 128) :
    decode (encode characters) = .ok characters := by
  unfold decode encode
  rw [String.toList_ofList,
    Text.trimCharacters_eq_self fun _ => Codec.Base64.not_blank_of_mem_encode,
    Codec.Base64.decode_encode]
  dsimp only
  rw [Codec.Utf8.decode_encode_ascii ascii]

end Token
end SchemaQuery
