import Mathlib.Data.List.TakeWhile
import SchemaQuery.Proofs.GatheredEntries
import SchemaQuery.Proofs.TextForms
import SchemaQuery.Request

/-!
# Filters of a querystring

A pair of a querystring with a bracketed key states a value for an operator on a path.  The
statements are gathered twice, by their paths and then by their operators, and the values for an
operator become one constraint or several.  This file proves that no statement is lost on the way
and none is made up: the constraints of all filters state what the pairs have stated, in the order
of the pairs for each operator on each path.
-/

namespace SchemaQuery

namespace QueryArguments

/-- Whether a text has none of the brackets around operators. -/
def HasNoBracket (text : String) : Prop :=
  ∀ character ∈ text.toList, isBracket character = false

instance (text : String) : Decidable (HasNoBracket text) :=
  List.decidableBAll (fun character => isBracket character = false) text.toList

/-- Whether a key is a name with another one in brackets behind it, and perhaps a line feed. Neither
holds a bracket. -/
def IsBracketed (key name sub : String) : Prop :=
  name ≠ "" ∧ HasNoBracket name ∧ HasNoBracket sub ∧
    ∃ ending ∈ [[], ['\n']], key.toList = name.toList ++ '[' :: (sub.toList ++ ']' :: ending)

theorem split_at_bracket {characters : List Char}
    (plain : ∀ character ∈ characters, isBracket character = false) {bracket : Char}
    (stops : isBracket bracket = true) (rest : List Char) :
    (characters ++ bracket :: rest).takeWhile (fun character => !isBracket character) =
        characters ∧
      (characters ++ bracket :: rest).dropWhile (fun character => !isBracket character) =
        bracket :: rest := by
  have kept : ∀ character ∈ characters, (!isBracket character) = true := by simpa using plain
  rw [List.takeWhile_append_of_pos kept, List.dropWhile_append_of_pos kept]
  simp [stops]

theorem splitKey?_of_isBracketed {key name sub : String} (bracketed : IsBracketed key name sub) :
    splitKey? key = some (Text.trim name, Text.trim sub) := by
  obtain ⟨someName, plainName, plainSub, ending, isEnding, shape⟩ := bracketed
  have opens : isBracket '[' = true := rfl
  have closes : isBracket ']' = true := rfl
  obtain ⟨nameTaken, nameDropped⟩ := split_at_bracket plainName opens (sub.toList ++ ']' :: ending)
  obtain ⟨subTaken, subDropped⟩ := split_at_bracket plainSub closes ending
  have notEmpty : name.toList.isEmpty = false := by
    simpa using someName
  unfold splitKey?
  simp only [shape, nameTaken, nameDropped, subTaken, subDropped, String.ofList_toList, notEmpty]
  simp only [List.mem_cons, List.not_mem_nil, or_false] at isEnding
  rcases isEnding with rfl | rfl <;> rfl

theorem exists_isBracketed_of_splitKey? {key path operator : String}
    (split : splitKey? key = some (path, operator)) :
    ∃ name sub, IsBracketed key name sub ∧ path = Text.trim name ∧ operator = Text.trim sub := by
  have plain (characters : List Char) :
      ∀ character ∈ characters.takeWhile (fun character => !isBracket character),
        isBracket character = false := by
    intro character isTaken
    simpa using List.mem_takeWhile_imp isTaken
  -- Both endings are read alike.
  have bracketed {rest ending : List Char} (isEnding : ending ∈ [[], ['\n']])
      (opened : key.toList.dropWhile (fun character => !isBracket character) = '[' :: rest)
      (closed : rest.dropWhile (fun character => !isBracket character) = ']' :: ending)
      (read : (if (key.toList.takeWhile fun character => !isBracket character).isEmpty then none
        else some
          (Text.trim (String.ofList (key.toList.takeWhile fun character => !isBracket character)),
            Text.trim (String.ofList (rest.takeWhile fun character => !isBracket character)))) =
        some (path, operator)) :
      ∃ name sub, IsBracketed key name sub ∧ path = Text.trim name ∧ operator = Text.trim sub := by
    rw [Option.ite_none_left_eq_some] at read
    obtain ⟨someName, named⟩ := read
    obtain ⟨rfl, rfl⟩ := Prod.mk.inj (Option.some.inj named)
    refine ⟨_, _, ⟨?_, ?_, ?_, ending, isEnding, ?_⟩, rfl, rfl⟩
    · simpa using someName
    · simpa [HasNoBracket] using plain key.toList
    · simpa [HasNoBracket] using plain rest
    · rw [String.toList_ofList, String.toList_ofList, ← closed, List.takeWhile_append_dropWhile,
        ← opened, List.takeWhile_append_dropWhile]
  unfold splitKey? at split
  dsimp only at split
  split at split
  · rename_i rest opened
    split at split
    · rename_i closed
      exact bracketed (by simp) opened closed split
    · rename_i closed
      exact bracketed (by simp) opened closed split
    · simp at split
  · simp at split

end QueryArguments

/-- What a pair of a querystring says: a value for an operator on a path. -/
structure Statement where
  path : String
  operator : String
  value : Value

namespace Statement

def key (statement : Statement) : String × String :=
  (statement.path, statement.operator)

def ofPair? (pair : String × String) : Option Statement :=
  (QueryArguments.splitKey? pair.1).map fun named => ⟨named.1, named.2, .text pair.2⟩

theorem ofPair?_eq_some_iff (pair : String × String) (statement : Statement) :
    ofPair? pair = some statement ↔
      ∃ name sub, QueryArguments.IsBracketed pair.1 name sub ∧
        statement = ⟨Text.trim name, Text.trim sub, .text pair.2⟩ := by
  unfold ofPair?
  rw [Option.map_eq_some_iff]
  constructor
  · rintro ⟨⟨path, operator⟩, split, rfl⟩
    obtain ⟨name, sub, bracketed, rfl, rfl⟩ := QueryArguments.exists_isBracketed_of_splitKey? split
    exact ⟨name, sub, bracketed, rfl⟩
  · rintro ⟨name, sub, bracketed, rfl⟩
    exact ⟨_, QueryArguments.splitKey?_of_isBracketed bracketed, rfl⟩

def byOperator (statements : List Statement) : Dictionary (List Value) :=
  Dictionary.gather operator (fun values statement => values ++ [statement.value]) [] statements

def byPath (statements : List Statement) : Arguments :=
  Dictionary.gather path
    (fun operators statement => operators.append statement.operator [statement.value]) [] statements

theorem foldl_append_value (statements : List Statement) :
    statements.foldl (fun values statement => values ++ [statement.value]) [] =
      statements.map value := by
  rw [List.map_eq_flatMap, List.flatMap_eq_foldl]

theorem byOperator_eq (statements : List Statement) :
    byOperator statements =
      (statements.map operator).eraseDups.map fun name =>
        (name, (statements.filter fun statement => statement.operator == name).map value) := by
  unfold byOperator
  rw [Dictionary.gather_eq]
  simp only [foldl_append_value]

theorem byPath_eq (statements : List Statement) :
    byPath statements =
      (statements.map path).eraseDups.map fun name =>
        (name, byOperator (statements.filter fun statement => statement.path == name)) :=
  Dictionary.gather_eq _ _ _ _

theorem arguments_ofPairs (pairs : List (String × String)) (firstKey lastKey : String) :
    (QueryArguments.ofPairs pairs firstKey lastKey).arguments =
      byPath (pairs.filterMap ofPair?) := by
  unfold byPath Dictionary.gather
  rw [List.foldl_filterMap]
  change pairs.foldl QueryArguments.addArgument [] = _
  congr 1
  funext arguments pair
  unfold QueryArguments.addArgument ofPair?
  cases QueryArguments.splitKey? pair.1 <;> rfl

theorem filter_byPath (keep : String → Bool) (statements : List Statement) :
    (byPath statements).filter (fun argument => keep argument.1) =
      byPath (statements.filter fun statement => keep statement.path) :=
  Dictionary.filter_gather keep statements

/-- Statements make one filter for each path, in the order in which these occur. -/
theorem filters_byPath (operators : Operators) (sortKey : String) (statements : List Statement) :
    (byPath statements).filters operators sortKey =
      let stated := statements.filter fun statement => statement.path != sortKey
      (stated.map path).eraseDups.map fun name => Filter.parse operators name
        (byOperator (stated.filter fun statement => statement.path == name)) := by
  unfold Arguments.filters
  rw [filter_byPath fun name => name != sortKey, byPath_eq, List.map_map]
  rfl

def constraints (operators : Operators) (statements : List Statement) : List Constraint :=
  (statements.map operator).eraseDups.flatMap fun name =>
    Filter.constraintsFor operators name
      ((statements.filter fun statement => statement.operator == name).map value)

theorem constraints_parse_byOperator (operators : Operators) (name : String)
    (statements : List Statement) :
    (Filter.parse operators name (byOperator statements)).constraints =
      constraints operators
        (statements.filter fun statement => statement.operator != Filter.combinationKey) := by
  unfold Filter.parse byOperator
  dsimp only
  rw [Dictionary.filter_gather fun name => name != Filter.combinationKey]
  change (byOperator _).flatMap _ = _
  rw [byOperator_eq, List.flatMap_map]
  rfl

end Statement

theorem Filter.operator_of_mem_constraintsFor {operators : Operators} {operator : String}
    {values : List Value} {constraint : Constraint}
    (isMade : constraint ∈ constraintsFor operators operator values) :
    constraint.operator = operator := by
  unfold constraintsFor at isMade
  split at isMade
  · rw [List.mem_singleton.1 isMade]
  · obtain ⟨value, _, rfl⟩ := List.mem_map.1 isMade
    rfl

/-- Whether they make up one constraint or several, the values are the given ones. -/
theorem Filter.values_constraintsFor (operators : Operators) (operator : String)
    (values : List Value) :
    (constraintsFor operators operator values).flatMap Constraint.values = values := by
  unfold constraintsFor
  split
  · rw [List.flatMap_singleton]
  · rw [List.flatMap_map, ← List.map_eq_flatMap, List.map_id']

def Filter.statements (filter : Filter) : List Statement :=
  filter.constraints.flatMap fun constraint =>
    constraint.values.map fun value => ⟨filter.path, constraint.operator, value⟩

namespace Statement

theorem filter_constraints (operators : Operators) (statements : List Statement) (name : String) :
    (constraints operators statements).filter (fun constraint => constraint.operator == name) =
      let values := (statements.filter fun statement => statement.operator == name).map value
      if values.isEmpty then [] else Filter.constraintsFor operators name values := by
  unfold constraints
  rw [Keyed.filter_flatMap_eq (Keyed.nodup_eraseDups _)
    fun _ _ _ isMade => Filter.operator_of_mem_constraintsFor isMade]
  simp only [List.mem_eraseDups]
  have asked : name ∈ statements.map operator ↔
      ((statements.filter fun statement => statement.operator == name).map value).isEmpty =
        false := by
    simp [List.filter_eq_nil_iff]
  by_cases present : name ∈ statements.map operator
  · rw [if_pos present, asked.1 present, if_neg Bool.false_ne_true]
  · rw [if_neg present, if_pos (by rwa [← Bool.not_eq_false, ← asked])]

end Statement

theorem Filter.filter_statements (filter : Filter) (operator : String) :
    filter.statements.filter (fun statement => statement.operator == operator) =
      ((filter.constraints.filter fun constraint => constraint.operator == operator).flatMap
        Constraint.values).map fun value => ⟨filter.path, operator, value⟩ := by
  unfold statements
  rw [List.filter_flatMap]
  induction filter.constraints with
  | nil => rfl
  | cons constraint rest hypothesis =>
      rw [List.flatMap_cons, hypothesis, List.filter_cons]
      by_cases here : constraint.operator = operator
      · subst here
        simp [List.filter_map, Function.comp_def]
      · simp [List.filter_map, Function.comp_def, here]

namespace Statement

theorem filter_statements_parse (operators : Operators) {name : String}
    (trimmed : Text.trim name = name) {statements : List Statement}
    (onPath : ∀ statement ∈ statements, statement.path = name) (asked : String) :
    (Filter.parse operators name (byOperator statements)).statements.filter
        (fun statement => statement.operator == asked) =
      (statements.filter fun statement => statement.operator != Filter.combinationKey).filter
        fun statement => statement.operator == asked := by
  have values : ∀ values : List Value,
      (if values.isEmpty then [] else Filter.constraintsFor operators asked values).flatMap
        Constraint.values = values := by
    intro values
    split
    · rename_i none
      rw [List.isEmpty_iff.1 none, List.flatMap_nil]
    · exact Filter.values_constraintsFor operators asked values
  rw [Filter.filter_statements, constraints_parse_byOperator, filter_constraints]
  dsimp only
  rw [values, List.map_map]
  change List.map _ _ = _
  conv_rhs => rw [← List.map_id (List.filter _ (List.filter _ _))]
  apply List.map_congr_left
  intro statement isAsked
  obtain ⟨isGiven, same⟩ := List.mem_filter.1 isAsked
  obtain ⟨isStated, _⟩ := List.mem_filter.1 isGiven
  rw [Function.comp_apply, ← eq_of_beq same,
    show (Filter.parse operators name _).path = Text.trim name from rfl, trimmed,
    ← onPath statement isStated]
  rfl

theorem filter_key_eq (statements : List Statement) (name asked : String) :
    statements.filter (fun statement => statement.key == (name, asked)) =
      (statements.filter fun statement => statement.path == name).filter
        fun statement => statement.operator == asked := by
  rw [List.filter_filter]
  apply List.filter_congr
  intro statement _
  exact Bool.and_comm _ _

/-- Whether a statement is about rows, and not about their order or how constraints are combined. -/
def constrains (sortKey : String) (statement : Statement) : Bool :=
  statement.path != sortKey && statement.operator != Filter.combinationKey

theorem filter_constrains_path (sortKey : String) (statements : List Statement) (name : String) :
    (statements.filter (constrains sortKey)).filter (fun statement => statement.path == name) =
      ((statements.filter fun statement => statement.path != sortKey).filter
        fun statement => statement.path == name).filter
          fun statement => statement.operator != Filter.combinationKey := by
  simp only [List.filter_filter]
  apply List.filter_congr
  intro statement _
  unfold constrains
  ac_rfl

section Trimmed

variable {statements : List Statement}
  (trimmed : ∀ statement ∈ statements, Text.trim statement.path = statement.path)

include trimmed

theorem trim_of_mem_paths {sortKey name : String}
    (isName : name ∈ ((statements.filter fun statement =>
      statement.path != sortKey).map path).eraseDups) : Text.trim name = name := by
  obtain ⟨statement, isStated, rfl⟩ := List.mem_map.1 (List.mem_eraseDups.1 isName)
  exact trimmed statement (List.mem_of_mem_filter isStated)

/-- The filters of statements say for each path and operator what has been stated. -/
theorem filter_statements_filters (operators : Operators) (sortKey : String)
    (key : String × String) :
    (((byPath statements).filters operators sortKey).flatMap Filter.statements).filter
        (fun statement => statement.key == key) =
      (statements.filter (constrains sortKey)).filter fun statement => statement.key == key := by
  obtain ⟨name, asked⟩ := key
  rw [filters_byPath, filter_key_eq, filter_key_eq, filter_constrains_path]
  dsimp only
  rw [List.flatMap_map, Keyed.filter_flatMap_eq (Keyed.nodup_eraseDups _)]
  · split
    · rename_i isName
      apply filter_statements_parse operators (trim_of_mem_paths trimmed isName)
      intro statement isGrouped
      exact eq_of_beq (List.mem_filter.1 isGrouped).2
    · rename_i absent
      rw [List.mem_eraseDups] at absent
      have none : (statements.filter fun statement => statement.path != sortKey).filter
          (fun statement => statement.path == name) = [] := by
        rw [List.filter_eq_nil_iff]
        intro statement isStated same
        exact absent (List.mem_map.2 ⟨statement, isStated, eq_of_beq same⟩)
      rw [none]
      rfl
  · intro name isName statement isSaid
    obtain ⟨constraint, _, valued⟩ := List.mem_flatMap.1 isSaid
    obtain ⟨value, _, rfl⟩ := List.mem_map.1 valued
    exact trim_of_mem_paths trimmed isName

theorem paths_filters (operators : Operators) (sortKey : String) :
    ((byPath statements).filters operators sortKey).map Filter.path =
      ((statements.filter fun statement => statement.path != sortKey).map path).eraseDups := by
  rw [filters_byPath]
  dsimp only
  rw [List.map_map]
  conv_rhs => rw [← List.map_id (List.eraseDups _)]
  apply List.map_congr_left
  intro name isName
  exact trim_of_mem_paths trimmed isName

/-- The constraints of a filter for an operator are made of what is stated for it. -/
theorem filter_constraints_filters {operators : Operators} {sortKey : String} {filter : Filter}
    (isFilter : filter ∈ (byPath statements).filters operators sortKey) (asked : String) :
    filter.constraints.filter (fun constraint => constraint.operator == asked) =
      let values := ((statements.filter (constrains sortKey)).filter fun statement =>
        statement.key == (filter.path, asked)).map value
      if values.isEmpty then [] else Filter.constraintsFor operators asked values := by
  rw [filters_byPath] at isFilter
  obtain ⟨name, isName, rfl⟩ := List.mem_map.1 isFilter
  have path : (Filter.parse operators name (byOperator ((statements.filter fun statement =>
      statement.path != sortKey).filter fun statement => statement.path == name))).path = name :=
    trim_of_mem_paths trimmed isName
  rw [constraints_parse_byOperator, filter_constraints, path, filter_key_eq, filter_constrains_path]

end Trimmed

end Statement

theorem Operators.takesSeveral_iff (operators : Operators) (asked : String) :
    operators.takesSeveral asked = true ↔
      ∃ name ∈ multipleValued, operators.canonical? asked = some name := by
  unfold takesSeveral
  cases operators.canonical? asked with
  | none => simp
  | some name => simp

/-- The filters say what the pairs with bracketed keys state about rows: for each path and each
operator, the same values in the same order, as one constraint if the operator takes several. All
values of a key are kept under it. -/
theorem QueryArguments.filters_say_what_pairs_state (operators : Operators)
    (pairs : List (String × String)) (firstKey lastKey sortKey : String) :
    let query := ofPairs pairs firstKey lastKey
    let filters := query.arguments.filters operators sortKey
    let statements := pairs.filterMap Statement.ofPair?
    let given := statements.filter (Statement.constrains sortKey)
    (∀ pair statement, Statement.ofPair? pair = some statement ↔
        ∃ name sub, IsBracketed pair.1 name sub ∧
          statement = ⟨Text.trim name, Text.trim sub, .text pair.2⟩) ∧
      (filters.flatMap Filter.statements).Perm given ∧
      (∀ key, (filters.flatMap Filter.statements).filter (fun statement => statement.key == key) =
        given.filter fun statement => statement.key == key) ∧
      filters.map Filter.path =
        ((statements.filter fun statement =>
          statement.path != sortKey).map Statement.path).eraseDups ∧
      (∀ filter ∈ filters, ∀ operator,
        let values := (given.filter fun statement =>
          statement.key == (filter.path, operator)).map Statement.value
        let constraints := filter.constraints.filter fun constraint =>
          constraint.operator == operator
        (values = [] → constraints = []) ∧
          ((∃ name ∈ Operators.multipleValued, operators.canonical? operator = some name) →
            values ≠ [] → constraints = [⟨operator, values⟩]) ∧
          ((¬∃ name ∈ Operators.multipleValued, operators.canonical? operator = some name) →
            constraints = values.map fun value => ⟨operator, [value]⟩)) ∧
      query.querystring = (pairs.map Prod.fst).eraseDups.map fun key =>
        (key, (pairs.filter fun pair => pair.1 == key).map Prod.snd) := by
  intro query filters statements given
  have trimmed : ∀ statement ∈ statements, Text.trim statement.path = statement.path := by
    intro statement isStated
    obtain ⟨pair, _, made⟩ := List.mem_filterMap.1 isStated
    obtain ⟨name, sub, _, rfl⟩ := (Statement.ofPair?_eq_some_iff pair statement).1 made
    exact Text.trim_trim name
  have made : filters = (Statement.byPath statements).filters operators sortKey := by
    rw [← Statement.arguments_ofPairs pairs firstKey lastKey]
  have alike (key : String × String) :
      (filters.flatMap Filter.statements).filter (fun statement => statement.key == key) =
        given.filter fun statement => statement.key == key := by
    rw [made]
    exact Statement.filter_statements_filters trimmed operators sortKey key
  refine ⟨Statement.ofPair?_eq_some_iff, Keyed.perm_of_filter_eq alike, alike, ?_, ?_, ?_⟩
  · rw [made]
    exact Statement.paths_filters trimmed operators sortKey
  · intro filter isFilter operator values constraints
    rw [made] at isFilter
    have constrained : constraints =
        if values.isEmpty then [] else Filter.constraintsFor operators operator values :=
      Statement.filter_constraints_filters trimmed isFilter operator
    rw [← Operators.takesSeveral_iff, constrained, Filter.constraintsFor]
    cases values with
    | nil => simp
    | cons value rest => simp +contextual
  · change Dictionary.gather Prod.fst (fun values pair => values ++ [pair.2]) [] pairs = _
    rw [Dictionary.gather_eq]
    simp only [← List.flatMap_eq_foldl, ← List.map_eq_flatMap]

def QueryArguments.twoTitles : List (String × String) :=
  [("author.name[nin]", "Ann"), ("title[eq]", "Dune"), (" author.name [nin]", "Bob"),
    ("title[operator]", "or"), ("sort[title]", "desc"), ("title[eq]", "Emma")]

/-- The authors make up one constraint, and the titles one each. -/
theorem QueryArguments.twoTitles_filters :
    let filters := (ofPairs twoTitles).arguments.filters .standard "sort"
    filters.map Filter.path = ["author.name", "title"] ∧
      ∀ filter ∈ filters,
        (filter.path = "author.name" →
          filter.constraints.filter (fun constraint => constraint.operator == "nin") =
            [⟨"nin", [.text "Ann", .text "Bob"]⟩]) ∧
        (filter.path = "title" →
          filter.constraints.filter (fun constraint => constraint.operator == "eq") =
            [⟨"eq", [.text "Dune"]⟩, ⟨"eq", [.text "Emma"]⟩]) := by
  obtain ⟨_, _, _, paths, constrained, _⟩ :=
    filters_say_what_pairs_state .standard twoTitles "first" "last" "sort"
  refine ⟨paths.trans (by decide +kernel), fun filter isFilter => ⟨?_, ?_⟩⟩
  · intro named
    have one := (constrained filter isFilter "nin").2.1 ⟨"notIn", by decide, rfl⟩
    rw [named] at one
    exact one (List.cons_ne_nil _ _)
  · intro named
    have each := (constrained filter isFilter "eq").2.2 (by decide +kernel)
    rw [named] at each
    exact each

end SchemaQuery
