import SchemaQuery.Proofs.CursorReading
import SchemaQuery.Proofs.TypedConstraints

/-!
# What becomes of any cursor

Tokens come from outside and may have been forged, so a cursor may hold any text.  Resolving it on
an entity either gives an edge, all of whose paths lead to attributes and all of whose values are
missing or of these attributes' types, or it refuses the cursor as undecodable, for the first
thing that is wrong with it.  This file proves that there is nothing else, and says when which
happens.
-/

namespace SchemaQuery

open Catalog (answer)

theorem LoadedAttribute.exists_target_of_isLoaded {member : LoadedAttribute}
    (isCompound : member.dataType.isCompound = true) (isLoaded : member.isLoaded = true) :
    ∃ target, member.target? = some target := by
  unfold LoadedAttribute.isLoaded at isLoaded
  unfold LoadedAttribute.target?
  split at isLoaded <;> simp_all [DataType.isCompound]

namespace Catalog

variable {catalog : Catalog}

theorem exists_target_of_expandLookup {member step : LoadedAttribute}
    (made : answer (expandLookup member) catalog = .ok step) :
    ∃ target, step.target? = some target := by
  unfold expandLookup at made
  split at made
  · rename_i carried
    obtain rfl := Except.ok.inj made
    exact ⟨_, by rw [LoadedAttribute.target?, carried]⟩
  · split at made
    · simp at made
    · obtain ⟨stored, _, same⟩ := (answer_bind_eq_ok _ _ _ _).1 made
      obtain rfl := Except.ok.inj same
      exact ⟨_, rfl⟩

theorem exists_target_of_expandJunction {expandTarget : Expansion} {owner : String}
    {member : LoadedAttribute} {result : LoadedAttribute × List String}
    (made : answer (expandJunction expandTarget owner member []) catalog = .ok result) :
    ∃ target, result.1.target? = some target := by
  unfold expandJunction at made
  split at made
  · rename_i carried
    obtain rfl := Except.ok.inj made
    exact ⟨_, by rw [LoadedAttribute.target?, carried]⟩
  · split at made
    · simp at made
    · dsimp only at made
      rw [if_neg List.not_mem_nil] at made
      obtain ⟨stored, _, expanded⟩ := (answer_bind_eq_ok _ _ _ _).1 made
      obtain ⟨target, _, same⟩ := (answer_bind_eq_ok _ _ _ _).1 expanded
      obtain rfl := Except.ok.inj same
      exact ⟨_, rfl⟩

theorem exists_target_of_expandOne {entity : LoadedEntity} {member step : LoadedAttribute}
    (isCompound : member.dataType.isCompound = true)
    (made : answer (expandOne entity member) catalog = .ok step) :
    ∃ target, step.target? = some target := by
  unfold expandOne at made
  obtain ⟨known, _, expands⟩ := (answer_bind_eq_ok _ _ _ _).1 made
  obtain ⟨result, expanded, same⟩ := (answer_bind_eq_ok _ _ _ _).1 expands
  rw [← Except.ok.inj same]
  unfold expandAttribute at expanded
  split at expanded
  · obtain ⟨found, looked, same⟩ := (answer_bind_eq_ok _ _ _ _).1 expanded
    rw [← Except.ok.inj same]
    exact exists_target_of_expandLookup looked
  · exact exists_target_of_expandJunction expanded
  · simp_all [DataType.isCompound]

/-- Whatever an entity carries, a path goes on only from attributes that carry one. -/
theorem exists_target_of_resolveStep {path field : String} {entity : LoadedEntity}
    {step : LoadedAttribute} (made : answer (resolveStep path entity field) catalog = .ok step) :
    ∃ target, step.target? = some target := by
  unfold resolveStep at made
  split at made
  · simp at made
  · rename_i found located
    cases isCompound : found.dataType.isCompound with
    | false => simp [isCompound] at made
    | true =>
        cases isLoaded : found.isLoaded with
        | true =>
            simp only [isCompound, isLoaded] at made
            obtain rfl := Except.ok.inj made
            exact LoadedAttribute.exists_target_of_isLoaded isCompound isLoaded
        | false =>
            simp only [isCompound, isLoaded] at made
            exact exists_target_of_expandOne isCompound made

end Catalog

namespace Cursor

variable {casters : Casters} {catalog : Catalog} {entity : LoadedEntity}

/-- Whether the path of an entry leads to an attribute, to whose type its value is cast. -/
def Types (catalog : Catalog) (entity : LoadedEntity) (entry typed : String × Value) : Prop :=
  typed.1 = entry.1 ∧ ∃ target,
    answer (Catalog.resolvePath entity entry.1) catalog = .ok target ∧
      (entry.2 = .null ∧ typed.2 = .null ∨
        entry.2 ≠ .null ∧ Cast.standard target.leaf.dataType entry.2 = .ok typed.2)

/-- Why an entry comes to nothing: its path leads nowhere, or its value is not of the type. -/
inductive Spoils (catalog : Catalog) (entity : LoadedEntity) : String × Value → Refusal → Prop where
  | path {path : String} {raw : Value} {cause : Refusal}
      (unresolved : answer (Catalog.resolvePath entity path) catalog = .error cause) :
      Spoils catalog entity (path, raw) (.tokenPath path cause)
  | value {path : String} {raw : Value} {target : ResolvedPath} {fault : CastFault}
      (resolved : answer (Catalog.resolvePath entity path) catalog = .ok target)
      (given : raw ≠ .null)
      (misfit : Cast.standard target.leaf.dataType raw = .error fault) :
      Spoils catalog entity (path, raw)
        (.tokenValue (.attributeValue target.leaf.field
          (.notCastable raw target.leaf.dataType fault)))

theorem resolveEntry_eq_ok_iff (entry typed : String × Value) :
    answer (resolveEntry .standard entity entry) catalog = .ok typed ↔
      Types catalog entity entry typed := by
  rw [resolveEntry_eq_ok entry.1 entry.2 typed]
  simp only [Types, Casters.castFor_standard_eq_ok, Value.isNull_iff, Value.isNull_eq_false_iff]
  constructor
  · rintro ⟨target, resolved, named, valued⟩
    exact ⟨named, target, resolved, valued⟩
  · rintro ⟨named, target, resolved, valued⟩
    exact ⟨target, resolved, named, valued⟩

theorem resolveEntry_of_spoils {entry : String × Value} {refusal : Refusal}
    (spoils : Spoils catalog entity entry refusal) :
    answer (resolveEntry .standard entity entry) catalog = .error refusal := by
  unfold resolveEntry
  rw [Catalog.answer_bind, Catalog.answer_adapt]
  cases spoils with
  | path unresolved =>
      rw [unresolved]
      rfl
  | value resolved given misfit =>
      rw [resolved]
      simp [(Value.isNull_eq_false_iff _).2 given, Casters.castFor, misfit, Except.mapError]

/-- Each entry of a token comes to a typed value, or to nothing for a reason. -/
theorem types_or_spoils (catalog : Catalog) (entity : LoadedEntity) (entry : String × Value) :
    (∃ typed, Types catalog entity entry typed) ∨
      ∃ refusal, Spoils catalog entity entry refusal := by
  obtain ⟨path, raw⟩ := entry
  cases resolved : answer (Catalog.resolvePath entity path) catalog with
  | error cause => exact Or.inr ⟨_, .path resolved⟩
  | ok target =>
      by_cases missing : raw = .null
      · exact Or.inl ⟨(path, .null), rfl, target, resolved, Or.inl ⟨missing, rfl⟩⟩
      · cases cast : Cast.standard target.leaf.dataType raw with
        | ok value => exact Or.inl ⟨(path, value), rfl, target, resolved, Or.inr ⟨missing, cast⟩⟩
        | error fault => exact Or.inr ⟨_, .value resolved missing cast⟩

theorem kind_of_spoils {entry : String × Value} {refusal : Refusal}
    (spoils : Spoils catalog entity entry refusal) : refusal.kind = .decodeError := by
  cases spoils <;> rfl

/-- A typed value is missing or of the type of its attribute. -/
theorem Types.exists_fits {entry typed : String × Value}
    (types : Types catalog entity entry typed) :
    ∃ target, answer (Catalog.resolvePath entity typed.1) catalog = .ok target ∧
      typed.2.fits target.leaf.dataType = true := by
  obtain ⟨named, target, resolved, valued⟩ := types
  refine ⟨target, named ▸ resolved, ?_⟩
  rcases valued with ⟨_, missing⟩ | ⟨_, cast⟩
  · rw [missing]
    rfl
  · rw [Value.fits, Cast.isOfType_of_standard cast, Bool.or_true]

/-- Each entry of an edge comes from one that has been typed. -/
theorem exists_fits_of_mem {entries : List (String × Value)} {edge : Edge}
    (each : List.Forall₂ (Types catalog entity) entries edge) {typed : String × Value}
    (isTyped : typed ∈ edge) :
    ∃ target, answer (Catalog.resolvePath entity typed.1) catalog = .ok target ∧
      typed.2.fits target.leaf.dataType = true := by
  induction each with
  | nil => simp at isTyped
  | cons types _ hypothesis =>
      rcases List.mem_cons.1 isTyped with rfl | isTyped
      · exact types.exists_fits
      · exact hypothesis isTyped

/-- Whether a token is a record with entries, each of which comes to the edge's
value for its path. -/
def Grants (catalog : Catalog) (entity : LoadedEntity) (token : String) (edge : Edge) : Prop :=
  ∃ value entries, Token.read token = .ok value ∧ value.entries? = some entries ∧ entries ≠ [] ∧
    List.Forall₂ (Types catalog entity) entries edge

/-- Why a token stands for no edge: it can not be read, has no entries, or one of
them comes to nothing. -/
inductive Denies (catalog : Catalog) (entity : LoadedEntity) (token : String) : Refusal → Prop where
  | unreadable {fault : TokenFault} (unread : Token.read token = .error fault) :
      Denies catalog entity token (.tokenUnreadable fault)
  | shape {value : Value} (read : Token.read token = .ok value)
      (noEntries : ∀ entries, value.entries? = some entries → entries = []) :
      Denies catalog entity token .tokenShape
  | entry {value : Value} {before behind : List (String × Value)} {entry : String × Value}
      {refusal : Refusal} (read : Token.read token = .ok value)
      (holds : value.entries? = some (before ++ entry :: behind))
      (typed : ∀ earlier ∈ before, ∃ result, Types catalog entity earlier result)
      (spoils : Spoils catalog entity entry refusal) : Denies catalog entity token refusal

theorem kind_of_denies {token : String} {refusal : Refusal}
    (denies : Denies catalog entity token refusal) : refusal.kind = .decodeError := by
  cases denies with
  | unreadable unread => rfl
  | shape read noEntries => rfl
  | entry read holds typed spoils => exact kind_of_spoils spoils

/-- The first entry that comes to nothing decides for all of them. -/
theorem typed_or_spoiled (catalog : Catalog) (entity : LoadedEntity)
    (entries : List (String × Value)) :
    (∃ edge, List.Forall₂ (Types catalog entity) entries edge) ∨
      ∃ before entry behind refusal, entries = before ++ entry :: behind ∧
        (∀ earlier ∈ before, ∃ typed, Types catalog entity earlier typed) ∧
        Spoils catalog entity entry refusal := by
  induction entries with
  | nil => exact Or.inl ⟨[], .nil⟩
  | cons first rest hypothesis =>
      rcases types_or_spoils catalog entity first with ⟨typed, types⟩ | ⟨refusal, spoils⟩
      · rcases hypothesis with ⟨edge, each⟩ | ⟨before, entry, behind, refusal, rfl, each, spoils⟩
        · exact Or.inl ⟨typed :: edge, .cons types each⟩
        · exact Or.inr ⟨first :: before, entry, behind, refusal, rfl,
            List.forall_mem_cons.2 ⟨⟨typed, types⟩, each⟩, spoils⟩
      · exact Or.inr ⟨[], first, rest, refusal, rfl, by simp, spoils⟩

/-- A token stands for an edge, or there is a reason why not. -/
theorem grants_or_denies (catalog : Catalog) (entity : LoadedEntity) (token : String) :
    (∃ edge, Grants catalog entity token edge) ∨
      ∃ refusal, Denies catalog entity token refusal := by
  cases read : Token.read token with
  | error fault => exact Or.inr ⟨_, .unreadable read⟩
  | ok value =>
      by_cases noEntries : ∀ entries, value.entries? = some entries → entries = []
      · exact Or.inr ⟨_, .shape read noEntries⟩
      · push Not at noEntries
        obtain ⟨entries, holds, someEntries⟩ := noEntries
        rcases typed_or_spoiled catalog entity entries with
          ⟨edge, each⟩ | ⟨before, entry, behind, refusal, rfl, each, spoils⟩
        · exact Or.inl ⟨edge, value, entries, read, holds, someEntries, each⟩
        · exact Or.inr ⟨refusal, .entry read holds each spoils⟩

variable {cursor : Cursor}

theorem resolve_of_isEmpty (empty : cursor.isEmpty = true) :
    answer (cursor.resolve casters entity) catalog = .ok { cursor } := by
  unfold resolve
  rw [if_pos empty]
  rfl

section Given

variable (notEmpty : cursor.isEmpty = false)

include notEmpty

theorem resolve_of_entries {value : Value} {entries : List (String × Value)}
    (read : Token.read cursor.token = .ok value) (holds : value.entries? = some entries)
    (someEntries : entries ≠ []) :
    answer (cursor.resolve casters entity) catalog =
      (entries.mapM fun entry => answer (resolveEntry casters entity entry) catalog).map
        fun edge => { cursor, edge := some edge } := by
  obtain ⟨first, rest, rfl⟩ := List.exists_cons_of_ne_nil someEntries
  unfold resolve
  rw [if_neg (Bool.eq_false_iff.1 notEmpty), read]
  dsimp only
  rw [holds]
  dsimp only
  rw [Catalog.answer_bind, Catalog.Consults.answer_mapM (consults_resolveEntry casters entity)]
  cases (first :: rest).mapM fun entry => answer (resolveEntry casters entity entry) catalog <;> rfl

theorem resolve_of_grants {edge : Edge} (grants : Grants catalog entity cursor.token edge) :
    answer (cursor.resolve .standard entity) catalog = .ok { cursor, edge := some edge } := by
  obtain ⟨value, entries, read, holds, someEntries, each⟩ := grants
  have made : (entries.mapM fun entry => answer (resolveEntry .standard entity entry) catalog) =
      .ok edge := by
    rw [Success.mapM_eq_ok_iff]
    exact each.imp fun entry typed => (resolveEntry_eq_ok_iff entry typed).2
  rw [resolve_of_entries notEmpty read holds someEntries, made]
  rfl

theorem resolve_of_denies {refusal : Refusal}
    (denies : Denies catalog entity cursor.token refusal) :
    answer (cursor.resolve .standard entity) catalog = .error refusal := by
  cases denies with
  | unreadable unread =>
      unfold resolve
      rw [if_neg (Bool.eq_false_iff.1 notEmpty), unread]
      rfl
  | @shape value read noEntries =>
      unfold resolve
      rw [if_neg (Bool.eq_false_iff.1 notEmpty), read]
      dsimp only
      split
      · rename_i first rest holds
        exact absurd (noEntries _ holds) (List.cons_ne_nil _ _)
      · rfl
  | @entry value before behind entry refusal read holds typed spoils =>
      have failed : ((before ++ entry :: behind).mapM fun entry =>
          answer (resolveEntry .standard entity entry) catalog) = .error refusal := by
        rw [Success.mapM_eq_error_iff]
        refine ⟨before, entry, behind, rfl, ?_, resolveEntry_of_spoils spoils⟩
        intro earlier isEarlier
        obtain ⟨result, types⟩ := typed earlier isEarlier
        exact ⟨result, (resolveEntry_eq_ok_iff earlier result).2 types⟩
      rw [resolve_of_entries notEmpty read holds (by simp), failed]
      rfl

end Given

/-- A cursor with sides gives a typed edge with some entries, just if its token grants that, or is
refused as undecodable for what its token is denied for. -/
theorem grants_edge_or_refuses_as_undecodable (catalog : Catalog) (entity : LoadedEntity)
    (cursor : Cursor) :
    let outcome := answer (cursor.resolve .standard entity) catalog
    (cursor.isEmpty = true → outcome = .ok { cursor }) ∧
      (cursor.isEmpty = false →
        (∃ edge, outcome = .ok { cursor, edge := some edge } ∧
            Grants catalog entity cursor.token edge ∧ edge ≠ [] ∧
            ∀ path value, (path, value) ∈ edge → ∃ target,
              answer (Catalog.resolvePath entity path) catalog = .ok target ∧
                value.fits target.leaf.dataType = true) ∨
          ∃ refusal, outcome = .error refusal ∧ Denies catalog entity cursor.token refusal ∧
            refusal.kind = .decodeError) ∧
      ∀ path field owner step,
        answer (Catalog.resolveStep path owner field) catalog = .ok step →
          ∃ target, step.target? = some target := by
  intro outcome
  refine ⟨resolve_of_isEmpty, fun notEmpty => ?_,
    fun _ _ _ _ => Catalog.exists_target_of_resolveStep⟩
  rcases grants_or_denies catalog entity cursor.token with ⟨edge, grants⟩ | ⟨refusal, denies⟩
  · refine Or.inl ⟨edge, resolve_of_grants notEmpty grants, grants, ?_, ?_⟩
    · obtain ⟨_, entries, _, _, someEntries, each⟩ := grants
      rintro rfl
      exact someEntries (List.forall₂_nil_right_iff.1 each)
    · intro path value isEntry
      obtain ⟨_, entries, _, _, _, each⟩ := grants
      have fits := exists_fits_of_mem each isEntry
      exact fits
  · exact Or.inr ⟨refusal, resolve_of_denies notEmpty denies, denies, kind_of_denies denies⟩

def anonymous : StoredEntity where
  name := "Article"
  attributes :=
    [{ field := "id", dataType := .int },
     { field := "author", dataType := .lookup, options := "Person" }]

def gazette : Catalog where
  store := .ofEntities [anonymous]

def seventh : Cursor where
  last := some "eyJpZCI6N30"

def listed : Cursor where
  last := some "eyJpZCI6WzddfQ"

/-- The token of an article with an author who has the number seven. -/
def authored : Cursor where
  first := some "eyJhdXRob3IuaWQiOjd9"

/-- The token of the seventh article has an edge; the others are undecodable. -/
theorem anonymous_edges :
    (∃ edge, answer (seventh.resolve .standard anonymous.load) gazette =
        .ok { cursor := seventh, edge := some edge } ∧ edge ≠ []) ∧
      ∀ forged ∈ [listed, authored], ∃ refusal,
        answer (forged.resolve .standard anonymous.load) gazette = .error refusal ∧
          refusal.kind = .decodeError := by
  constructor
  · obtain ⟨_, given, _⟩ :=
      grants_edge_or_refuses_as_undecodable gazette anonymous.load seventh
    rcases given rfl with ⟨edge, granted, _, someEdge, _⟩ | ⟨refusal, refused, _, _⟩
    · exact ⟨edge, granted, someEdge⟩
    · have granted : (answer (seventh.resolve .standard anonymous.load) gazette).isOk = true := by
        decide +kernel
      rw [refused] at granted
      cases granted
  · have refused : ∀ forged ∈ [listed, authored], forged.isEmpty = false ∧
        (answer (forged.resolve .standard anonymous.load) gazette).isOk = false := by
      decide +kernel
    intro forged isForged
    obtain ⟨notEmpty, isRefused⟩ := refused forged isForged
    obtain ⟨_, given, _⟩ := grants_edge_or_refuses_as_undecodable gazette anonymous.load forged
    rcases given notEmpty with ⟨edge, granted, _⟩ | ⟨refusal, denied, _, isKind⟩
    · rw [granted] at isRefused
      cases isRefused
    · exact ⟨refusal, denied, isKind⟩

end Cursor
end SchemaQuery
