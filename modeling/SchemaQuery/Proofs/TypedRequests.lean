import SchemaQuery.Proofs.QuerystringFilters
import SchemaQuery.Request.Input

/-!
# Typed inputs and their querystrings

A request can be given as typed inputs or as a querystring, and both are turned into the same
structured form by different code.  This file writes typed inputs as the pairs of a querystring and
proves that the filters and sorts which are read from the pairs are those that the inputs are
converted to.  The inputs must be such that they can be written: a path in front of brackets needs
characters, and nothing that is written may hold brackets.
-/

namespace SchemaQuery

open QueryArguments (HasNoBracket IsBracketed)

def QueryArguments.bracketed (name sub : String) : String :=
  name ++ "[" ++ sub ++ "]"

theorem QueryArguments.isBracketed_bracketed {name sub : String} (someName : name ≠ "")
    (plainName : HasNoBracket name) (plainSub : HasNoBracket sub) :
    IsBracketed (bracketed name sub) name sub := by
  refine ⟨someName, plainName, plainSub, [], List.mem_cons_self, ?_⟩
  simp [bracketed, String.toList_append]

/-- Whether a constraint can be written in brackets, without being taken for a combination. -/
structure ConstraintInput.IsWritable (input : ConstraintInput) : Prop where
  plain : HasNoBracket input.operator
  trimmed : Text.trim input.operator = input.operator
  notCombination : input.operator ≠ Filter.combinationKey
  valued : input.values.getD [] ≠ []

/-- Whether a filter can be written in brackets, without being taken for sorts. -/
structure FilterInput.IsWritable (sortKey : String) (input : FilterInput) : Prop where
  named : input.field ≠ ""
  plain : HasNoBracket input.field
  notSorts : Text.trim input.field ≠ sortKey
  constrained : input.constraints.getD [] ≠ []
  constraints : ∀ constraint ∈ input.constraints.getD [], constraint.IsWritable

namespace FilterInput

/-- A filter as pairs: its combination, and each value of each constraint. -/
def pairs (input : FilterInput) : List (String × String) :=
  (input.combination.toList.map fun combination =>
      (QueryArguments.bracketed input.field Filter.combinationKey, combination)) ++
    (input.constraints.getD []).flatMap fun constraint =>
      (constraint.values.getD []).map fun value =>
        (QueryArguments.bracketed input.field constraint.operator, value)

def statements (input : FilterInput) : List Statement :=
  (input.combination.toList.map fun combination =>
      ⟨Text.trim input.field, Filter.combinationKey, .text combination⟩) ++
    (input.constraints.getD []).flatMap fun constraint =>
      (constraint.values.getD []).map fun value =>
        ⟨Text.trim input.field, constraint.operator, .text value⟩

end FilterInput

def SortInput.pair (sortKey : String) (input : SortInput) : String × String :=
  (QueryArguments.bracketed sortKey input.field, input.direction.getD Direction.ascending.name)

def SortInput.statement (sortKey : String) (input : SortInput) : Statement :=
  ⟨sortKey, Text.trim input.field, .text (input.direction.getD Direction.ascending.name)⟩

theorem Statement.ofPair?_bracketed {name sub : String} (someName : name ≠ "")
    (plainName : HasNoBracket name) (plainSub : HasNoBracket sub) (value : String) :
    ofPair? (QueryArguments.bracketed name sub, value) =
      some ⟨Text.trim name, Text.trim sub, .text value⟩ :=
  (ofPair?_eq_some_iff _ _).2
    ⟨name, sub, QueryArguments.isBracketed_bracketed someName plainName plainSub, rfl⟩

theorem Arguments.ofFilterInputs_eq_gather (inputs : List FilterInput) :
    ofFilterInputs inputs = Dictionary.gather (fun input => Text.trim input.field)
      (fun operators input => addPairs input operators) [] inputs :=
  rfl

namespace FilterInput

variable {sortKey : String} {input : FilterInput}

theorem filterMap_pairs (writable : input.IsWritable sortKey) :
    input.pairs.filterMap Statement.ofPair? = input.statements := by
  unfold pairs statements
  rw [List.filterMap_append, List.filterMap_flatMap]
  congr 1
  · have plainKey : HasNoBracket Filter.combinationKey := by decide
    have trimmedKey : Text.trim Filter.combinationKey = Filter.combinationKey := by decide
    cases input.combination with
    | none => rfl
    | some combination =>
        simp [Statement.ofPair?_bracketed writable.named writable.plain plainKey, trimmedKey]
  · apply List.flatMap_congr
    intro constraint isConstraint
    obtain ⟨plain, trimmed, _, _⟩ := writable.constraints constraint isConstraint
    rw [List.filterMap_map, ← List.filterMap_eq_map]
    apply List.filterMap_congr
    intro value _
    rw [Function.comp_apply, Statement.ofPair?_bracketed writable.named writable.plain plain,
      trimmed]
    rfl

theorem statements_ne_nil (writable : input.IsWritable sortKey) : input.statements ≠ [] := by
  obtain ⟨constraint, rest, constrained⟩ := List.exists_cons_of_ne_nil writable.constrained
  have valued := (writable.constraints constraint (by simp [constrained])).valued
  simp [statements, constrained, valued]

theorem path_of_mem_statements {statement : Statement} (isStated : statement ∈ input.statements) :
    statement.path = Text.trim input.field := by
  rcases List.mem_append.1 isStated with combined | constrained
  · obtain ⟨_, _, rfl⟩ := List.mem_map.1 combined
    rfl
  · obtain ⟨_, _, valued⟩ := List.mem_flatMap.1 constrained
    obtain ⟨_, _, rfl⟩ := List.mem_map.1 valued
    rfl

/-- What is stated is added as the input is, unless another combination is already there. -/
theorem foldl_statements (writable : input.IsWritable sortKey) {operators : Dictionary (List Value)}
    (free : input.combination = none ∨ Filter.combinationKey ∉ operators.map Prod.fst) :
    input.statements.foldl
        (fun operators statement => operators.append statement.operator [statement.value])
        operators =
      Arguments.addPairs input operators := by
  have constrained (start : Dictionary (List Value)) :
      ((input.constraints.getD []).flatMap fun constraint =>
          (constraint.values.getD []).map fun value =>
            (⟨Text.trim input.field, constraint.operator, .text value⟩ : Statement)).foldl
          (fun operators statement => operators.append statement.operator [statement.value])
          start =
        (input.constraints.getD []).foldl
          (fun gathered constraint =>
            gathered.append constraint.operator ((constraint.values.getD []).map Value.text))
          start := by
    rw [List.foldl_flatMap]
    apply List.foldl_ext
    intro gathered constraint isConstraint
    rw [List.foldl_map]
    exact Dictionary.foldl_append (writable.constraints constraint isConstraint).valued
      (fun _ _ => rfl) Value.text gathered
  unfold statements Arguments.addPairs
  rw [List.foldl_append, constrained]
  cases given : input.combination with
  | none => rfl
  | some combination =>
      have absent := free.resolve_left (by simp [given])
      simp [Dictionary.append, Dictionary.insert, Dictionary.alter_of_not_mem absent]

theorem combinationKey_not_mem_addPairs (writable : input.IsWritable sortKey)
    (none : input.combination = none) {operators : Dictionary (List Value)}
    (absent : Filter.combinationKey ∉ operators.map Prod.fst) :
    Filter.combinationKey ∉ (Arguments.addPairs input operators).map Prod.fst := by
  have others : ∀ constraint ∈ input.constraints.getD [],
      constraint.operator ≠ Filter.combinationKey :=
    fun constraint isConstraint => (writable.constraints constraint isConstraint).notCombination
  unfold Arguments.addPairs
  rw [none]
  dsimp only
  generalize input.constraints.getD [] = constraints at others
  induction constraints generalizing operators with
  | nil => exact absent
  | cons constraint rest hypothesis =>
      obtain ⟨first, restOthers⟩ := List.forall_mem_cons.1 others
      rw [List.foldl_cons]
      refine hypothesis ?_ restOthers
      rw [Dictionary.append, Dictionary.keys_alter]
      split
      · exact absent
      · simp [absent, Ne.symm first]

/-- Filters on one path are added as they are stated, if no two have a combination. -/
theorem foldl_statements_eq {inputs : List FilterInput}
    (writable : ∀ input ∈ inputs, input.IsWritable sortKey)
    (oneCombination : inputs.Pairwise fun input other =>
      input.combination = none ∨ other.combination = none)
    {operators : Dictionary (List Value)}
    (free : (∀ input ∈ inputs, input.combination = none) ∨
      Filter.combinationKey ∉ operators.map Prod.fst) :
    inputs.foldl
        (fun operators input => input.statements.foldl
          (fun operators statement => operators.append statement.operator [statement.value])
          operators)
        operators =
      inputs.foldl (fun operators input => Arguments.addPairs input operators) operators := by
  induction inputs generalizing operators with
  | nil => rfl
  | cons input rest hypothesis =>
      obtain ⟨first, restWritable⟩ := List.forall_mem_cons.1 writable
      obtain ⟨alone, restOne⟩ := List.pairwise_cons.1 oneCombination
      rw [List.foldl_cons, List.foldl_cons,
        foldl_statements first (free.imp_left fun none => none input List.mem_cons_self)]
      apply hypothesis restWritable restOne
      by_cases combined : input.combination = none
      · exact free.imp (fun none other isOther => none other (List.mem_cons_of_mem _ isOther))
          (combinationKey_not_mem_addPairs first combined)
      · exact Or.inl fun other isOther => (alone other isOther).resolve_left combined

theorem byPath_statements {inputs : List FilterInput}
    (writable : ∀ input ∈ inputs, input.IsWritable sortKey)
    (oneCombination : inputs.Pairwise fun input other =>
      Text.trim input.field = Text.trim other.field →
        input.combination = none ∨ other.combination = none) :
    Statement.byPath (inputs.flatMap statements) = Arguments.ofFilterInputs inputs := by
  have keyed : ∀ input ∈ inputs, ∀ statement ∈ input.statements,
      statement.path = Text.trim input.field :=
    fun _ _ _ isStated => path_of_mem_statements isStated
  unfold Statement.byPath
  rw [Dictionary.gather_flatMap (fun input isInput => statements_ne_nil (writable input isInput))
    keyed, Arguments.ofFilterInputs_eq_gather]
  apply Dictionary.gather_congr
  intro name
  apply foldl_statements_eq
  · exact fun input isInput => writable input (List.mem_of_mem_filter isInput)
  · apply (oneCombination.filter _).imp_of_mem
    intro input other isInput isOther one
    exact one ((eq_of_beq (List.mem_filter.1 isInput).2).trans
      (eq_of_beq (List.mem_filter.1 isOther).2).symm)
  · exact Or.inr List.not_mem_nil

end FilterInput

/-- The sorts of statements are what is stated under the key for sorts. -/
theorem Statement.sorts_byPath (sortKey : String) (statements : List Statement) :
    (byPath statements).sorts sortKey =
      SortTerm.parseAll
        (byOperator (statements.filter fun statement => statement.path == sortKey)) := by
  unfold Arguments.sorts
  rw [filter_byPath fun name => name == sortKey]
  generalize sorted : statements.filter (fun statement => statement.path == sortKey) = ordered
  cases ordered with
  | nil => rfl
  | cons first rest =>
      have keyed : ∀ statement ∈ first :: rest, statement.path = sortKey := by
        intro statement isOrdered
        rw [← sorted] at isOrdered
        exact eq_of_beq (List.mem_filter.1 isOrdered).2
      have gathered : byPath (first :: rest) = [(sortKey, byOperator (first :: rest))] :=
        Dictionary.gather_of_eq (List.cons_ne_nil _ _) keyed
      rw [gathered, List.flatMap_singleton]

namespace SortInput

theorem filterMap_pairs {sortKey : String} {inputs : List SortInput}
    (plain : ∀ input ∈ inputs, HasNoBracket input.field)
    (writableKey : inputs ≠ [] →
      sortKey ≠ "" ∧ HasNoBracket sortKey ∧ Text.trim sortKey = sortKey) :
    (inputs.map (pair sortKey)).filterMap Statement.ofPair? = inputs.map (statement sortKey) := by
  rw [List.filterMap_map, ← List.filterMap_eq_map]
  apply List.filterMap_congr
  intro input isInput
  obtain ⟨someKey, plainKey, trimmedKey⟩ := writableKey (List.ne_nil_of_mem isInput)
  rw [Function.comp_apply, pair,
    Statement.ofPair?_bracketed someKey plainKey (plain input isInput), trimmedKey]
  rfl

def term (input : SortInput) : SortTerm where
  path := Text.trim input.field
  order := .text (Direction.word ((input.direction.map Value.text).getD .null))

variable {inputs : List SortInput} (apart : (inputs.map fun input => Text.trim input.field).Nodup)

include apart

theorem parseAll_byOperator (sortKey : String) :
    SortTerm.parseAll (Statement.byOperator (inputs.map (statement sortKey))) =
      inputs.map term := by
  have gathered : Statement.byOperator (inputs.map (statement sortKey)) =
      (inputs.map (statement sortKey)).map fun statement =>
        (statement.operator, [statement.value]) :=
    Dictionary.foldl_alter_of_nodup (by simpa [statement, Function.comp_def] using apart)
  unfold SortTerm.parseAll
  rw [gathered, List.map_map, List.map_map]
  apply List.map_congr_left
  rintro ⟨field, direction⟩ _
  cases direction with
  | none =>
      have same : Direction.word (.text Direction.ascending.name) = Direction.word .null := by
        decide +kernel
      simp [statement, term, same]
  | some direction => simp [statement, term]

theorem parseAll_ofSortInputs :
    SortTerm.parseAll (Arguments.ofSortInputs inputs) = inputs.map term := by
  unfold Arguments.ofSortInputs SortTerm.parseAll
  rw [Dictionary.ofEntries_of_nodup (by simpa [Function.comp_def] using apart), List.map_map]
  apply List.map_congr_left
  rintro ⟨field, direction⟩ _
  cases direction with
  | none =>
      have same : Direction.word (.text (Direction.word .null)) = Direction.word .null := by
        decide +kernel
      simp [term, same]
  | some direction => simp [term]

end SortInput

namespace Arguments

theorem contains_ofFilterInputs {inputs : List FilterInput} {sortKey : String}
    (notSorts : ∀ input ∈ inputs, Text.trim input.field ≠ sortKey) :
    (ofFilterInputs inputs).contains sortKey = false := by
  rw [← Bool.not_eq_true, Dictionary.contains_eq_true_iff, ofFilterInputs_eq_gather,
    Dictionary.gather_eq, List.map_map]
  intro isKey
  obtain ⟨name, isName, rfl⟩ := List.mem_map.1 isKey
  obtain ⟨input, isInput, same⟩ := List.mem_map.1 (List.mem_eraseDups.1 isName)
  exact notSorts input isInput same

/-- Filters and sorts are converted beside each other, unless on the same path. -/
theorem ofInputs_eq_ok {filters : List FilterInput} (sorts : List SortInput) {sortKey : String}
    (notSorts : ∀ input ∈ filters, Text.trim input.field ≠ sortKey) (operators : Operators) :
    ∃ arguments, ofInputs filters sorts sortKey = .ok arguments ∧
      arguments.filters operators sortKey = (ofFilterInputs filters).filters operators sortKey ∧
      arguments.sorts sortKey = SortTerm.parseAll (ofSortInputs sorts) := by
  have free := contains_ofFilterInputs notSorts
  have absent : sortKey ∉ (ofFilterInputs filters).map Prod.fst := by
    rwa [← Dictionary.contains_eq_true_iff, Bool.not_eq_true]
  have noSorts : (ofFilterInputs filters).filter (fun argument => argument.1 == sortKey) = [] := by
    rw [List.filter_eq_nil_iff]
    intro argument isArgument same
    exact absent (List.mem_map.2 ⟨argument, isArgument, eq_of_beq same⟩)
  unfold ofInputs
  dsimp only
  rw [free, if_neg Bool.false_ne_true]
  cases converted : ofSortInputs sorts with
  | nil => exact ⟨_, rfl, rfl, by rw [Arguments.sorts, noSorts]; rfl⟩
  | cons first rest =>
      refine ⟨_, rfl, ?_, ?_⟩
      · simp [Arguments.filters, Dictionary.insert, Dictionary.alter_of_not_mem absent]
      · simp [Arguments.sorts, Dictionary.insert, Dictionary.alter_of_not_mem absent, noSorts]

/-- Typed inputs are converted to the filters and sorts that are read from their pairs, if they can
be written, no two filters on one path have a combination, and no two sorts are on one path. -/
theorem ofInputs_agrees_with_pairs (operators : Operators) {filters : List FilterInput}
    {sorts : List SortInput} {sortKey : String} (firstKey lastKey : String)
    (writable : ∀ input ∈ filters, input.IsWritable sortKey)
    (oneCombination : filters.Pairwise fun input other =>
      Text.trim input.field = Text.trim other.field →
        input.combination = none ∨ other.combination = none)
    (plainSorts : ∀ input ∈ sorts, HasNoBracket input.field)
    (apart : (sorts.map fun input => Text.trim input.field).Nodup)
    (writableKey : sorts ≠ [] →
      sortKey ≠ "" ∧ HasNoBracket sortKey ∧ Text.trim sortKey = sortKey) :
    let query := QueryArguments.ofPairs
      (filters.flatMap FilterInput.pairs ++ sorts.map (SortInput.pair sortKey)) firstKey lastKey
    ∃ arguments, ofInputs filters sorts sortKey = .ok arguments ∧
      query.arguments.filters operators sortKey = arguments.filters operators sortKey ∧
      query.arguments.sorts sortKey = arguments.sorts sortKey := by
  intro query
  have asked : (filters.flatMap FilterInput.pairs ++ sorts.map (SortInput.pair sortKey)).filterMap
      Statement.ofPair? =
        filters.flatMap FilterInput.statements ++ sorts.map (SortInput.statement sortKey) := by
    rw [List.filterMap_append, List.filterMap_flatMap]
    congr 1
    · exact List.flatMap_congr fun input isInput =>
        FilterInput.filterMap_pairs (writable input isInput)
    · exact SortInput.filterMap_pairs plainSorts writableKey
  have onPaths : ∀ statement ∈ filters.flatMap FilterInput.statements,
      statement.path ≠ sortKey := by
    intro statement isStated
    obtain ⟨input, isInput, isSaid⟩ := List.mem_flatMap.1 isStated
    rw [FilterInput.path_of_mem_statements isSaid]
    exact (writable input isInput).notSorts
  have read : query.arguments = Statement.byPath
      (filters.flatMap FilterInput.statements ++ sorts.map (SortInput.statement sortKey)) := by
    rw [← asked]
    exact Statement.arguments_ofPairs _ firstKey lastKey
  obtain ⟨arguments, converted, sameFilters, sameSorts⟩ :=
    ofInputs_eq_ok sorts (fun input isInput => (writable input isInput).notSorts) operators
  refine ⟨arguments, converted, ?_, ?_⟩
  · rw [read, sameFilters, ← FilterInput.byPath_statements writable oneCombination]
    unfold Arguments.filters
    rw [Statement.filter_byPath fun name => name != sortKey,
      Statement.filter_byPath fun name => name != sortKey, List.filter_append]
    have none : (sorts.map (SortInput.statement sortKey)).filter
        (fun statement => statement.path != sortKey) = [] := by
      simp [List.filter_eq_nil_iff, SortInput.statement]
    rw [none, List.append_nil]
  · have none : (filters.flatMap FilterInput.statements).filter
        (fun statement => statement.path == sortKey) = [] := by
      rw [List.filter_eq_nil_iff]
      exact fun statement isStated same => onPaths statement isStated (eq_of_beq same)
    have all : (sorts.map (SortInput.statement sortKey)).filter
        (fun statement => statement.path == sortKey) = sorts.map (SortInput.statement sortKey) := by
      simp [List.filter_eq_self, SortInput.statement]
    rw [read, sameSorts, Statement.sorts_byPath, List.filter_append, none, all, List.nil_append,
      SortInput.parseAll_byOperator apart, SortInput.parseAll_ofSortInputs apart]

def posts : FilterInput where
  field := "title"
  constraints := some [{ operator := "startsWith", values := some ["Post"] }]

/-- Titles that are one of two, or meet the other constraints on titles. -/
def news : FilterInput where
  field := " title "
  constraints := some [{ operator := "in", values := some ["News", "Notes"] }]
  combination := some "or"

def byTitle : SortInput where
  field := "title"
  direction := some "desc"

/-- Two filters on titles and two sorts are asked for alike. -/
theorem posts_and_news_asked_alike :
    let query := QueryArguments.ofPairs
      ([posts, news].flatMap FilterInput.pairs ++
        [byTitle, { field := "views " }].map (SortInput.pair "sort"))
    ∃ arguments, ofInputs [posts, news] [byTitle, { field := "views " }] "sort" = .ok arguments ∧
      query.arguments.filters .standard "sort" = arguments.filters .standard "sort" ∧
      query.arguments.sorts "sort" = arguments.sorts "sort" := by
  have writable : ∀ input ∈ [posts, news], input.IsWritable "sort" := by
    intro input isInput
    simp only [List.mem_cons, List.not_mem_nil, or_false] at isInput
    rcases isInput with rfl | rfl
    · refine ⟨by decide, by decide, by decide +kernel, by simp [posts], ?_⟩
      intro constraint isConstraint
      obtain rfl := List.mem_singleton.1 isConstraint
      exact ⟨by decide, by decide +kernel, by decide, by simp⟩
    · refine ⟨by decide, by decide, by decide +kernel, by simp [news], ?_⟩
      intro constraint isConstraint
      obtain rfl := List.mem_singleton.1 isConstraint
      exact ⟨by decide, by decide +kernel, by decide, by simp⟩
  exact ofInputs_agrees_with_pairs .standard "first" "last" writable (by decide +kernel)
    (by decide) (by decide +kernel) fun _ => by decide +kernel

def unnamed : FilterInput where
  field := ""
  constraints := some [{ operator := "eq", values := some ["x"] }]

/-- The paths of converted sorts, and of those read from their pairs. -/
def sortPaths (sorts : List SortInput) (sortKey : String) :
    Option (List String) × List String :=
  let paths (arguments : Arguments) := (arguments.sorts sortKey).map SortTerm.path
  ((ofInputs [] sorts sortKey).toOption.map paths,
    paths (QueryArguments.ofPairs (sorts.map (SortInput.pair sortKey))).arguments)

/-- The paths and combinations of converted filters, and of those read from their pairs. -/
def combinations (filters : List FilterInput) :
    Option (List (String × String)) × List (String × String) :=
  let combined (arguments : Arguments) :=
    (arguments.filters .standard "sort").map fun filter => (filter.path, filter.combination)
  ((ofInputs filters [] "sort").toOption.map combined,
    combined (QueryArguments.ofPairs (filters.flatMap FilterInput.pairs)).arguments)

/-- Nothing is read in front of empty brackets; no sorts are found under a key that is empty, not
trimmed or has brackets, nor on such a path; and of two combinations the last is converted and the
first is read. -/
theorem unwritable_inputs_apart :
    combinations [unnamed] = (some [("", "and")], []) ∧
      (∀ sortKey ∈ ["", " sort ", "so[rt"],
        sortPaths [byTitle] sortKey = (some ["title"], [])) ∧
      sortPaths [{ field := "title]" }] "sort" = (some ["title]"], []) ∧
      combinations [news, { posts with combination := some "and" }] =
        (some [("title", "and")], [("title", "or")]) := by
  refine ⟨by decide +kernel, ?_, by decide +kernel, by decide +kernel⟩
  simp only [List.forall_mem_cons]
  exact ⟨by decide +kernel, by decide +kernel, by decide +kernel, fun _ => List.not_mem_nil.elim⟩

end Arguments
end SchemaQuery
