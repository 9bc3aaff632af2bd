import Mathlib.Data.List.Infix
import SchemaQuery.Proofs.InlinedReferences

/-!
# Texts that stand for themselves in a pattern

A database matches texts with patterns, in which some characters stand for any others and the one
behind an escape stands for itself.  Whoever looks for a text in a column does not write a pattern:
the text is put into one, with an escape before all that would stand for something else, be it a
wildcard or the escape itself.  This file proves that a column is then searched for just that text,
at its start, at its end or anywhere, whatever characters the text is made of.
-/

namespace SchemaQuery
namespace Sql

/-- A part of a pattern: a character that stands for itself, or a wildcard. -/
inductive PatternPart where
  | literal (character : Char)
  | one
  | many
deriving DecidableEq, Repr

namespace PatternPart

/-- What a character of a pattern stands for that is not escaped. -/
def ofCharacter (character : Char) : PatternPart :=
  if character = '%' then .many else if character = '_' then .one else .literal character

/-- The parts of a pattern. An escape with nothing behind it makes none. -/
def read? (escape : Option Char) : (escaped : Bool) → List Char → Option (List PatternPart)
  | false, [] => some []
  | true, [] => none
  | true, character :: rest => (read? escape false rest).map (.literal character :: ·)
  | false, character :: rest =>
      if escape = some character then read? escape true rest
      else (read? escape false rest).map (.ofCharacter character :: ·)

def fit : List PatternPart → List Char → Bool
  | [], subject => subject.isEmpty
  | .literal character :: parts, subject =>
      subject.head? == some character && fit parts subject.tail
  | .one :: parts, subject => !subject.isEmpty && fit parts subject.tail
  | .many :: parts, subject => subject.tails.any (fit parts)

variable {parts : List PatternPart} {subject : List Char}

theorem fit_nil : fit [] subject = true ↔ subject = [] := by
  rw [fit, List.isEmpty_iff]

theorem fit_many :
    fit (.many :: parts) subject = true ↔
      ∃ passed rest, subject = passed ++ rest ∧ fit parts rest = true := by
  rw [fit, List.any_eq_true]
  constructor
  · rintro ⟨rest, isTail, fits⟩
    obtain ⟨passed, rfl⟩ := (List.mem_tails _ _).1 isTail
    exact ⟨passed, rest, rfl, fits⟩
  · rintro ⟨passed, rest, rfl, fits⟩
    exact ⟨rest, (List.mem_tails _ _).2 (List.suffix_append passed rest), fits⟩

/-- A wildcard at the end of a pattern fits whatever is left. -/
theorem fit_many_last (subject : List Char) : fit [.many] subject = true :=
  fit_many.2 ⟨subject, [], (List.append_nil subject).symm, rfl⟩

/-- Characters that stand for themselves fit a text that starts with them. -/
theorem fit_literals {sought : List Char} :
    fit (sought.map .literal ++ parts) subject = true ↔
      ∃ rest, subject = sought ++ rest ∧ fit parts rest = true := by
  induction sought generalizing subject with
  | nil => simp
  | cons character sought hypothesis =>
      rw [List.map_cons, List.cons_append, fit, Bool.and_eq_true, hypothesis]
      cases subject with
      | nil => simp
      | cons first subject => simp [and_assoc]

end PatternPart

namespace TextPlace

def IsPlaceOf (sought content : List Char) : TextPlace → Prop
  | .anywhere => sought <:+: content
  | .atStart => sought <+: content
  | .atEnd => sought <:+ content

def parts (sought : List Char) : TextPlace → List PatternPart
  | .anywhere => .many :: (sought.map .literal ++ [.many])
  | .atStart => sought.map .literal ++ [.many]
  | .atEnd => .many :: (sought.map .literal ++ [])

open PatternPart

theorem fit_parts {place : TextPlace} {sought content : List Char} :
    fit (place.parts sought) content = true ↔ place.IsPlaceOf sought content := by
  cases place with
  | anywhere =>
      simp only [parts, IsPlaceOf, fit_many, fit_literals, fit_many_last, and_true]
      constructor
      · rintro ⟨before, _, rfl, behind, rfl⟩
        exact ⟨before, behind, List.append_assoc _ _ _⟩
      · rintro ⟨before, behind, rfl⟩
        exact ⟨before, sought ++ behind, List.append_assoc _ _ _, behind, rfl⟩
  | atStart =>
      simp only [parts, IsPlaceOf, fit_literals, fit_many_last, and_true]
      constructor
      · rintro ⟨behind, rfl⟩
        exact List.prefix_append sought behind
      · rintro ⟨behind, rfl⟩
        exact ⟨behind, rfl⟩
  | atEnd =>
      simp only [parts, IsPlaceOf, fit_many, fit_literals, fit_nil]
      constructor
      · rintro ⟨before, _, rfl, _, rfl, rfl⟩
        exact ⟨before, by rw [List.append_nil]⟩
      · rintro ⟨before, rfl⟩
        exact ⟨before, sought, rfl, [], (List.append_nil sought).symm, rfl⟩

end TextPlace

namespace PatternPart

theorem read?_literalPattern (sought : String) (behind : List Char) :
    read? (some Condition.escapeMark) false ((Condition.literalPattern sought).toList ++ behind) =
      (read? (some Condition.escapeMark) false behind).map (sought.toList.map .literal ++ ·) := by
  unfold Condition.literalPattern
  rw [String.toList_ofList]
  induction sought.toList with
  | nil => simp
  | cons character rest hypothesis =>
      rw [List.flatMap_cons, List.append_assoc]
      split
      · -- Behind the escape even a wildcard, or another escape, is taken as it is.
        rw [List.cons_append, List.singleton_append, read?, if_pos rfl, read?, hypothesis,
          Option.map_map]
        rfl
      · rename_i plain
        simp only [Bool.or_eq_true, beq_iff_eq, not_or] at plain
        obtain ⟨⟨notEscape, notMany⟩, notOne⟩ := plain
        rw [List.singleton_append, read?, if_neg (by simpa using Ne.symm notEscape), hypothesis,
          ofCharacter, if_neg notMany, if_neg notOne, Option.map_map]
        rfl

/-- The pattern for a text at a place is that text between wildcards. -/
theorem exists_read?_patternAt (place : TextPlace) (sought : String) :
    ∃ pattern : String, Database.patternAt place sought = .text pattern ∧
      read? (some Condition.escapeMark) false pattern.toList =
        some (place.parts sought.toList) := by
  have behindWildcard (rest : List Char) :
      read? (some Condition.escapeMark) false ('%' :: rest) =
        (read? (some Condition.escapeMark) false rest).map (.many :: ·) := rfl
  have escaped := read?_literalPattern sought
  cases place with
  | anywhere =>
      refine ⟨_, rfl, ?_⟩
      rw [String.toList_append, String.toList_append]
      change read? _ false ('%' :: ((Condition.literalPattern sought).toList ++ ['%'])) = _
      rw [behindWildcard, escaped]
      rfl
  | atStart =>
      refine ⟨_, rfl, ?_⟩
      rw [String.toList_append]
      change read? _ false ((Condition.literalPattern sought).toList ++ ['%']) = _
      rw [escaped]
      rfl
  | atEnd =>
      refine ⟨_, rfl, ?_⟩
      rw [String.toList_append]
      change read? _ false ('%' :: (Condition.literalPattern sought).toList) = _
      rw [behindWildcard, ← List.append_nil (Condition.literalPattern sought).toList, escaped]
      rfl

end PatternPart

/-- Whether a database reads patterns as they are to be read, and takes only equal characters for
the same. -/
def Database.ReadsPatterns (database : Database) : Prop :=
  ∀ ⦃escape : Option Char⦄ ⦃pattern : String⦄ ⦃parts : List PatternPart⦄,
    PatternPart.read? escape false pattern.toList = some parts → ∀ subject : String,
      database.isLike escape (.text pattern) (.text subject) =
        PatternPart.fit parts subject.toList

namespace Condition

variable {database : Database} (reads : database.ReadsPatterns) {row : Tuple} {column : Column}
  {content : String} (present : row.value column = .text content)

include reads present

theorem like_patternAt (place : TextPlace) (sought : String) :
    ∃ fits : Bool,
      database.like (some escapeMark) (Database.patternAt place sought) (row.value column) =
        .ofBool fits ∧
      (fits = true ↔ place.IsPlaceOf sought.toList content.toList) := by
  obtain ⟨pattern, isPattern, isRead⟩ := PatternPart.exists_read?_patternAt place sought
  refine ⟨PatternPart.fit (place.parts sought.toList) content.toList, ?_, TextPlace.fit_parts⟩
  rw [present, isPattern, ← reads isRead]
  rfl

theorem holdsText_holds_iff (place : TextPlace) (sought : String) :
    (holdsText place column sought).truth database row = .holds ↔
      place.IsPlaceOf sought.toList content.toList := by
  obtain ⟨fits, isLike, fitsIff⟩ := like_patternAt reads present place sought
  rw [truth, isLike, Truth.ofBool_eq_holds, fitsIff]

theorem lacksText_holds_iff (place : TextPlace) (sought : String) :
    (lacksText place column sought).truth database row = .holds ↔
      ¬place.IsPlaceOf sought.toList content.toList := by
  obtain ⟨fits, isLike, fitsIff⟩ := like_patternAt reads present place sought
  rw [truth, isLike, ← fitsIff]
  cases fits <;> simp [Truth.ofBool, Truth.not]

end Condition

end Sql

namespace Operators

def seekers : List String := ["contains", "notContains", "startsWith", "endsWith"]

end Operators

namespace Filter

variable {querystring : Dictionary (List Value)} {target : ResolvedPath}

/-- A filter looks for the text that was written, unless that is blank or a reference. -/
theorem resolveConstraint_of_seeker (path : String) {asked operator sought : String}
    (known : Operators.standard.canonical? asked = some operator)
    (isSeeker : operator ∈ Operators.seekers)
    (isText : target.leaf.dataType ∈ Operators.textTypes)
    (notBlank : isBlankValue (.text sought) = false)
    (unmarked : isMarked (.text sought) = false) :
    resolveConstraint {} querystring path target ⟨asked, [.text sought]⟩ =
      .ok ⟨operator, [.text sought]⟩ := by
  have spared : ∀ name ∈ Operators.seekers, Operators.flagged.contains name = false ∧
      Operators.arity?.get? name = none ∧
      Operators.standard.restrictions.get? name = some Operators.textTypes := by decide +kernel
  obtain ⟨notFlagged, anyNumber, restricted⟩ := spared operator isSeeker
  have cast : castOperand {} target.leaf operator (.text sought) = .ok (.text sought) := by
    unfold castOperand
    rw [notFlagged, if_neg Bool.false_ne_true, Casters.castFor_standard_eq_ok]
    rcases List.mem_pair.1 isText with isString | isText
    · rw [isString]
      rfl
    · rw [isText]
      rfl
  have accepted : Operators.standard.accepts operator target.leaf.dataType = true := by
    unfold Operators.accepts
    rw [restricted]
    exact List.contains_iff_mem.2 isText
  have resolved : resolveValue {} querystring target operator (.text sought) =
      .ok [.text sought] := by
    rw [resolveValue_of_isLiteral ⟨Or.inr ⟨sought, rfl⟩, unmarked⟩,
      castStandIn_of_notBlank notBlank, cast]
    rfl
  rw [resolveConstraint_eq_ok]
  refine ⟨known, accepted, ⟨[[.text sought]], ?_, rfl⟩, ?_⟩
  · change [Value.text sought].mapM _ = _
    rw [List.mapM_cons, resolved]
    rfl
  · rw [anyNumber]
    exact nofun

end Filter

namespace ResolvedFilter

open Sql

/-- A column is searched for the text of a filter as it stands, whatever its characters. Where a
value is missing, neither having the text nor lacking it is known. -/
theorem texts_are_sought_literally {database : Database} (reads : database.ReadsPatterns)
    (target : ResolvedPath) (combination : Combination) (column : Column) (sought : String)
    (others : List Value) :
    let condition (operator : String) : Except Fault Condition :=
      condition .standard ⟨target, combination, [⟨operator, .text sought :: others⟩]⟩ column
    (∃ holding lacking starting ending,
      condition "contains" = .ok holding ∧ condition "notContains" = .ok lacking ∧
      condition "startsWith" = .ok starting ∧ condition "endsWith" = .ok ending ∧
      (∀ (row : Tuple) (content : String), row.value column = .text content →
        (holding.truth database row = .holds ↔ sought.toList <:+: content.toList) ∧
        (lacking.truth database row = .holds ↔ ¬sought.toList <:+: content.toList) ∧
        (starting.truth database row = .holds ↔ sought.toList <+: content.toList) ∧
        (ending.truth database row = .holds ↔ sought.toList <:+ content.toList)) ∧
      ∀ row : Tuple, lacking.truth database row = (holding.truth database row).not) ∧
    ∀ (querystring : Dictionary (List Value)) (path asked operator : String),
      Operators.standard.canonical? asked = some operator → operator ∈ Operators.seekers →
      target.leaf.dataType ∈ Operators.textTypes →
      Filter.isBlankValue (.text sought) = false → Filter.isMarked (.text sought) = false →
        Filter.resolveConstraint {} querystring path target ⟨asked, [.text sought]⟩ =
          .ok ⟨operator, [.text sought]⟩ := by
  intro condition
  refine ⟨⟨.holdsText .anywhere column sought, .lacksText .anywhere column sought,
    .holdsText .atStart column sought, .holdsText .atEnd column sought, ?_⟩, ?_⟩
  · refine ⟨condition_singleton .., condition_singleton .., condition_singleton ..,
      condition_singleton .., fun row content present => ⟨?_, ?_, ?_, ?_⟩, ?_⟩
    · exact Condition.holdsText_holds_iff reads present .anywhere sought
    · exact Condition.lacksText_holds_iff reads present .anywhere sought
    · exact Condition.holdsText_holds_iff reads present .atStart sought
    · exact Condition.holdsText_holds_iff reads present .atEnd sought
    · intro row
      rw [Condition.truth, Condition.truth]
  · intro querystring path asked operator known isSeeker isText notBlank unmarked
    exact Filter.resolveConstraint_of_seeker path known isSeeker isText notBlank unmarked

def patternReader : Database where
  __ := Database.ofIntegers
  isLike escape pattern subject :=
    match pattern, subject with
    | .text pattern, .text subject =>
        (PatternPart.read? escape false pattern.toList).any fun parts =>
          PatternPart.fit parts subject.toList
    | _, _ => false

theorem readsPatterns_patternReader : patternReader.ReadsPatterns := by
  intro escape pattern parts isRead subject
  unfold patternReader
  dsimp only
  rw [isRead, Option.any_some]

def titleOfNote : ResolvedPath where
  path := "title"
  relationship := ""
  steps := []
  leaf := (Attribute.ofColumn "title" .string).load "notes"

def titleColumn : Column := ⟨.root "notes", "title"⟩

def titled (title : String) : Tuple := ⟨fun _ => .text title, fun _ => rfl⟩

/-- Neither the percent sign of a discount nor the slash before it is a wildcard. -/
theorem discounts_are_sought_literally :
    ∃ holding lacking,
      condition .standard ⟨titleOfNote, .all, [⟨"contains", [.text "5/%_"]⟩]⟩ titleColumn =
        .ok holding ∧
      condition .standard ⟨titleOfNote, .all, [⟨"notContains", [.text "5/%_"]⟩]⟩ titleColumn =
        .ok lacking ∧
      holding.truth patternReader (titled "now 5/%_ off") = .holds ∧
      lacking.truth patternReader (titled "now 5% off") = .holds ∧
      Filter.resolveConstraint {} [] "title" titleOfNote ⟨"not_contains", [.text "5/%_"]⟩ =
        .ok ⟨"notContains", [.text "5/%_"]⟩ := by
  obtain ⟨⟨holding, lacking, _, _, holdingMade, lackingMade, _, _, literally, _⟩, asked⟩ :=
    texts_are_sought_literally readsPatterns_patternReader titleOfNote .all titleColumn "5/%_" []
  obtain ⟨holds, _, _, _⟩ := literally (titled "now 5/%_ off") _ rfl
  obtain ⟨_, lacks, _, _⟩ := literally (titled "now 5% off") _ rfl
  refine ⟨holding, lacking, holdingMade, lackingMade, holds.2 (by decide), lacks.2 (by decide), ?_⟩
  exact asked [] "title" "not_contains" "notContains" (by decide) (by decide) (by decide)
    (by decide) (by decide)

end ResolvedFilter
end SchemaQuery
