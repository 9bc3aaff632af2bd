import SchemaQuery.Proofs.StatementNames

/-!
# What a statement is written with

The text of a statement is put together from a few words and signs, which are the same for all
statements, and from names: identifiers, labels for columns that are selected again, and marks for
lists of values.  This file proves that all names in the text are names of the statement, so it has
no place for anything else.
-/

namespace SchemaQuery
namespace Sql

/-- The signs of comparisons with what may stand behind them. -/
def comparisonWords : List String :=
  ["=", "!=", "<", "<=", ">", ">="].flatMap fun sign =>
    ["?", "1", "0"].map fun operand => " " ++ (sign ++ (" " ++ operand))

def words : List String :=
  ["", " ", ", ", ".", "(", ")", "))", "?", "SELECT ", "DISTINCT ", "FROM", "WHERE", "ORDER BY",
    " LIMIT ? OFFSET ?", "LEFT OUTER JOIN ", " AS ", " ON ", " = ", " ASC NULLS FIRST", " ASC",
    " DESC NULLS LAST", " DESC", "0 = 1", " IS NULL", " IS NOT NULL", " IN (", " NOT IN (",
    " BETWEEN ? AND ?", " LIKE ?", "lower(", ") LIKE lower(?)", " LIKE ", " NOT LIKE ", " AND ",
    " OR ", "'%' || ? || '%' ESCAPE '/'", "? || '%' ESCAPE '/'", "'%' || ? ESCAPE '/'"] ++
    comparisonWords

/-- The texts that consist of words and of names that are given. -/
inductive IsWritten (given : String → Prop) : String → Prop
  | word {text : String} (isWord : text ∈ words) : IsWritten given text
  | name {name : String} (isGiven : given name) : IsWritten given (identifier name)
  | label (before : List String) {name : String} (isGiven : given name) :
      IsWritten given (identifier (numbered before (labelStem name)))
  | mark (before : List String) {name : String} (isGiven : given name) :
      IsWritten given ("__[POSTCOMPILE_" ++ numbered before (placeholderStem name) ++ "]")
  | append {first second : String} (isFirst : IsWritten given first)
      (isSecond : IsWritten given second) : IsWritten given (first ++ second)

structure Column.Named (given : String → Prop) (column : Column) : Prop where
  table : given column.table.name
  name : given column.name

namespace IsWritten

variable {given : String → Prop}

theorem mono {allowed : String → Prop} (allows : ∀ name, given name → allowed name) {text : String}
    (written : IsWritten given text) : IsWritten allowed text := by
  induction written with
  | word isWord => exact .word isWord
  | name isGiven => exact .name (allows _ isGiven)
  | label before isGiven => exact .label before (allows _ isGiven)
  | mark before isGiven => exact .mark before (allows _ isGiven)
  | append _ _ isFirst isSecond => exact .append isFirst isSecond

theorem intercalate {separator : String} (isSeparator : separator ∈ words) {parts : List String}
    (areParts : ∀ part ∈ parts, IsWritten given part) :
    IsWritten given (separator.intercalate parts) := by
  induction parts with
  | nil =>
      rw [String.intercalate_nil]
      exact .word (by decide)
  | cons first rest hypothesis =>
      obtain ⟨isFirst, areRest⟩ := List.forall_mem_cons.1 areParts
      cases rest with
      | nil =>
          rw [String.intercalate_singleton]
          exact isFirst
      | cons second others =>
          rw [String.intercalate_cons_cons]
          exact .append (.append isFirst (.word isSeparator)) (hypothesis areRest)

theorem clause {opening separator : String} (isOpening : opening ∈ words)
    (isSeparator : separator ∈ words) {parts : List String}
    (areParts : ∀ part ∈ parts, IsWritten given part) :
    IsWritten given (Select.clause opening separator parts) := by
  unfold Select.clause
  split
  · exact .word (by decide)
  · exact .append (.append (.append (.word (by decide)) (.word isOpening)) (.word (by decide)))
      (intercalate isSeparator areParts)

theorem column {column : Column} (named : column.Named given) : IsWritten given column.text :=
  .append (.append (.name named.table) (.word (by decide))) (.name named.name)

theorem comparison (comparison : Comparison) (operand : Value) :
    IsWritten given (" " ++ (comparison.sign ++ (" " ++ Condition.operandText operand))) := by
  apply word
  apply List.mem_append_right
  have isOperand : Condition.operandText operand ∈ ["?", "1", "0"] := by
    unfold Condition.operandText
    split <;> decide
  refine List.mem_flatMap.2 ⟨comparison.sign, ?_, List.mem_map_of_mem isOperand⟩
  cases comparison <;> decide

theorem listText (before : List String) {column : Column} (named : column.Named given)
    (operands : List Value) : IsWritten given (Condition.listText before column operands) := by
  unfold Condition.listText
  split
  · apply intercalate (by decide)
    intro part isPart
    obtain ⟨_, _, rfl⟩ := List.mem_map.1 isPart
    exact .word (by decide)
  · exact .mark before named.name

theorem patternText (place : TextPlace) : IsWritten given (Condition.patternText place) := by
  cases place <;> exact .word (by decide)

end IsWritten

namespace Condition

variable {given : String → Prop}

mutual

/-- The text of a condition consists of words and the names of its columns. -/
theorem isWritten_text (before : List String) (condition : Condition)
    (named : ∀ column ∈ condition.columns, column.Named given) :
    IsWritten given (text before condition) := by
  cases condition with
  | never =>
      rw [text]
      exact .word (by decide)
  | compare comparison column operand =>
      rw [text, String.append_assoc, String.append_assoc, String.append_assoc]
      exact .append (.column (named column (by simp [columns]))) (.comparison comparison operand)
  | isNull column =>
      exact .append (.column (named column (by simp [columns]))) (.word (by decide))
  | isNotNull column =>
      exact .append (.column (named column (by simp [columns]))) (.word (by decide))
  | among column operands =>
      have isNamed := named column (by simp [columns])
      exact .append (.append (.append (.column isNamed) (.word (by decide)))
        (.listText before isNamed operands)) (.word (by decide))
  | notAmong column operands =>
      have isNamed := named column (by simp [columns])
      exact .append (.append (.append (.append (.word (by decide)) (.column isNamed))
        (.word (by decide))) (.listText before isNamed operands)) (.word (by decide))
  | between column low high =>
      exact .append (.column (named column (by simp [columns]))) (.word (by decide))
  | like column pattern =>
      exact .append (.column (named column (by simp [columns]))) (.word (by decide))
  | likeInAnyCase column pattern =>
      exact .append (.append (.word (by decide)) (.column (named column (by simp [columns]))))
        (.word (by decide))
  | holdsText place column sought =>
      exact .append (.append (.append (.append (.word (by decide))
        (.column (named column (by simp [columns])))) (.word (by decide))) (.patternText place))
        (.word (by decide))
  | lacksText place column sought =>
      exact .append (.append (.append (.append (.word (by decide))
        (.column (named column (by simp [columns])))) (.word (by decide))) (.patternText place))
        (.word (by decide))
  | all conditions =>
    exact .intercalate (by decide) (isWritten_conjunctTexts before conditions named)
  | any conditions =>
    exact .intercalate (by decide) (isWritten_disjunctTexts before conditions named)

theorem isWritten_conjunctTexts (before : List String) (conditions : List Condition)
    (named : ∀ column ∈ columnsOfEach conditions, column.Named given) :
    ∀ part ∈ conjunctTexts before conditions, IsWritten given part := by
  cases conditions with
  | nil => exact nofun
  | cons condition rest =>
      obtain ⟨headNamed, restNamed⟩ := List.forall_mem_append.1 named
      have head := isWritten_text before condition headNamed
      refine List.forall_mem_cons.2 ⟨?_, isWritten_conjunctTexts _ rest restNamed⟩
      split
      · exact .append (.append (.word (by decide)) head) (.word (by decide))
      · exact head

theorem isWritten_disjunctTexts (before : List String) (conditions : List Condition)
    (named : ∀ column ∈ columnsOfEach conditions, column.Named given) :
    ∀ part ∈ disjunctTexts before conditions, IsWritten given part := by
  cases conditions with
  | nil => exact nofun
  | cons condition rest =>
      obtain ⟨headNamed, restNamed⟩ := List.forall_mem_append.1 named
      exact List.forall_mem_cons.2
        ⟨isWritten_text before condition headNamed, isWritten_disjunctTexts _ rest restNamed⟩

end

end Condition

namespace Select

variable {given : String → Prop}

theorem isWritten_projectionTexts {projections : List Projection}
    (named : ∀ projection ∈ projections, projection.column.Named given)
    (labelled : ∀ projection ∈ projections, ∀ label ∈ projection.label, given label)
    (before : List Column) (stems : List String) :
    ∀ part ∈ projectionTexts before stems projections, IsWritten given part := by
  induction projections generalizing before stems with
  | nil => exact nofun
  | cons first rest hypothesis =>
      obtain ⟨isNamed, restNamed⟩ := List.forall_mem_cons.1 named
      obtain ⟨isLabelled, restLabelled⟩ := List.forall_mem_cons.1 labelled
      have later := hypothesis restNamed restLabelled
      unfold projectionTexts
      dsimp only
      split
      · rename_i label found
        exact List.forall_mem_cons.2 ⟨.append (.append (.column isNamed) (.word (by decide)))
          (.name (isLabelled label found)), later before stems⟩
      · split
        · exact List.forall_mem_cons.2 ⟨.append (.append (.column isNamed) (.word (by decide)))
            (.label stems isNamed.name), later _ _⟩
        · exact List.forall_mem_cons.2 ⟨.column isNamed, later _ _⟩

theorem isWritten_join {join : Join} (table : given join.table) (knownAs : given join.knownAs)
    (column : Column.Named given ⟨join.occurrence, join.column⟩)
    (owner : join.owner.Named given) : IsWritten given join.text :=
  .append (.append (.append (.append (.append (.append (.append (.word (by decide)) (.name table))
    (.word (by decide))) (.name knownAs)) (.word (by decide))) (.column column))
    (.word (by decide))) (.column owner)

theorem isWritten_orderTerm {term : OrderTerm} (named : term.column.Named given) :
    IsWritten given term.text := by
  unfold OrderTerm.text
  dsimp only
  split <;> exact .append (.column named) (.word (by decide))

variable (statement : Select)

theorem named_of_mem_columns :
    ∀ column ∈ statement.columns, column.Named (· ∈ statement.names) := by
  intro column isColumn
  have areNames : ∀ name ∈ [column.table.name, column.name], name ∈ statement.names := by
    intro name isName
    exact List.mem_append_left _ (List.mem_append_right _
      (List.mem_flatMap.2 ⟨column, isColumn, isName⟩))
  exact ⟨areNames _ (by simp), areNames _ (by simp)⟩

/-- A statement is a line of text that consists of words and the statement's names. -/
theorem exists_isWritten :
    ∃ written, IsWritten (· ∈ statement.names) written ∧
      statement.text = Text.singleLine written := by
  have named := statement.named_of_mem_columns
  unfold columns at named
  simp only [List.forall_mem_append, List.forall_mem_map, List.forall_mem_flatMap] at named
  obtain ⟨⟨⟨projected, joined⟩, conditioned⟩, ordered⟩ := named
  have isRoot : statement.root ∈ statement.names :=
    List.mem_append_left _ (List.mem_append_left _ List.mem_cons_self)
  have selected := isWritten_projectionTexts projected (fun projection isSelected label isLabel =>
    List.mem_append_right _ (List.mem_filterMap.2 ⟨projection, isSelected, isLabel⟩)) [] []
  have tables : ∀ part ∈ identifier statement.root :: statement.joins.map Join.text,
      IsWritten (· ∈ statement.names) part := by
    refine List.forall_mem_cons.2 ⟨.name isRoot, List.forall_mem_map.2 fun join isJoin => ?_⟩
    have areNames : ∀ name ∈ [join.table, join.knownAs], name ∈ statement.names :=
      fun name isName => List.mem_append_left _ (List.mem_append_left _
        (List.mem_cons_of_mem _ (List.mem_flatMap.2 ⟨join, isJoin, isName⟩)))
    exact isWritten_join (areNames _ (by simp)) (areNames _ (by simp))
      (joined join isJoin _ (by simp)) (joined join isJoin _ (by simp))
  have wanted : ∀ part ∈ if statement.conditions.isEmpty then [] else [statement.condition.text []],
      IsWritten (· ∈ statement.names) part := by
    split
    · exact nofun
    · exact List.forall_mem_singleton.2 (Condition.isWritten_text _ _ conditioned)
  have ranked : ∀ part ∈ statement.order.map OrderTerm.text,
      IsWritten (· ∈ statement.names) part :=
    List.forall_mem_map.2 fun term isTerm => isWritten_orderTerm (ordered term isTerm)
  refine ⟨_, ?_, rfl⟩
  refine .append (.append (.append (.append (.append (.append (.word (by decide)) ?_) ?_) ?_) ?_)
    ?_) (.word (by decide))
  · split <;> exact .word (by decide)
  · exact .intercalate (by decide) selected
  · exact .clause (by decide) (by decide) tables
  · exact .clause (by decide) (by decide) wanted
  · exact .clause (by decide) (by decide) ranked

end Select

end Sql
end SchemaQuery
