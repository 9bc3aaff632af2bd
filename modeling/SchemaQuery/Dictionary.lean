/-!
# Dictionaries that remember their order

A dictionary is the list of its entries in the order in which their keys were
first inserted.  Inserting a key again replaces its value in place.  Requests,
rows, records, stores and caches are all read and answered in this order.
-/

namespace SchemaQuery

/-- Entries in insertion order. -/
abbrev Dictionary (α : Type _) := List (String × α)

namespace Dictionary

variable {α : Type _}

def get? (entries : Dictionary α) (key : String) : Option α :=
  entries.lookup key

def contains (entries : Dictionary α) (key : String) : Bool :=
  (get? entries key).isSome

/-- Applies a function to the value of a key, `none` for a new one at the end. -/
def alter (key : String) (change : Option α → α) : Dictionary α → Dictionary α
  | [] => [(key, change none)]
  | (other, value) :: rest =>
      if other == key then (other, change (some value)) :: rest
      else (other, value) :: alter key change rest

def insert (entries : Dictionary α) (key : String) (value : α) : Dictionary α :=
  alter key (fun _ => value) entries

def erase (entries : Dictionary α) (key : String) : Dictionary α :=
  entries.filter fun entry => entry.1 != key

def ofEntries (entries : List (String × α)) : Dictionary α :=
  entries.foldl (fun built entry => insert built entry.1 entry.2) []

/-- Adds values to the end of the list that a key stands for. -/
def append (entries : Dictionary (List α)) (key : String) (values : List α) :
    Dictionary (List α) :=
  alter key (fun present => present.getD [] ++ values) entries

theorem get?_alter (key other : String) (change : Option α → α) (entries : Dictionary α) :
    get? (alter key change entries) other =
      if other = key then some (change (get? entries key)) else get? entries other := by
  induction entries with
  | nil =>
      by_cases same : other = key
      · subst same
        simp [alter, get?, List.lookup_nil]
      · simp [alter, get?, List.lookup_nil, same]
  | cons entry rest hypothesis =>
      obtain ⟨present, value⟩ := entry
      simp only [get?] at hypothesis ⊢
      by_cases found : present = key
      · subst found
        by_cases same : other = present
        · subst same
          simp [alter]
        · simp [alter, List.lookup_cons, same, beq_eq_false_iff_ne.2 same]
      · have differs : (present == key) = false := beq_eq_false_iff_ne.2 found
        simp only [alter, differs, Bool.false_eq_true, if_false]
        by_cases same : other = present
        · subst same
          simp [found]
        · by_cases wanted : other = key
          · subst wanted
            simp [List.lookup_cons, beq_eq_false_iff_ne.2 same, hypothesis]
          · simp [List.lookup_cons, beq_eq_false_iff_ne.2 same, hypothesis, wanted]

@[simp]
theorem get?_insert (entries : Dictionary α) (key other : String) (value : α) :
    get? (insert entries key value) other =
      if other = key then some value else get? entries other :=
  get?_alter key other (fun _ => value) entries

@[simp]
theorem get?_erase (entries : Dictionary α) (key other : String) :
    get? (erase entries key) other = if other = key then none else get? entries other := by
  induction entries with
  | nil => simp [erase, get?, List.lookup_nil]
  | cons entry rest hypothesis =>
      obtain ⟨present, value⟩ := entry
      simp only [get?, erase] at hypothesis ⊢
      by_cases found : present = key
      · subst found
        by_cases same : other = present
        · simpa [same] using hypothesis
        · simpa [List.lookup_cons, same, beq_eq_false_iff_ne.2 same] using hypothesis
      · by_cases same : other = present
        · subst same
          simp [found]
        · simpa [List.lookup_cons, found, beq_eq_false_iff_ne.2 same] using hypothesis

theorem contains_eq_true_iff (entries : Dictionary α) (key : String) :
    contains entries key = true ↔ key ∈ entries.map Prod.fst := by
  induction entries with
  | nil => simp [contains, get?, List.lookup_nil]
  | cons entry rest hypothesis =>
      obtain ⟨present, value⟩ := entry
      simp only [contains, get?] at hypothesis ⊢
      by_cases same : key = present
      · subst same
        simp
      · simp [List.lookup_cons, beq_eq_false_iff_ne.2 same, hypothesis, same]

theorem keys_alter (key : String) (change : Option α → α) (entries : Dictionary α) :
    (alter key change entries).map Prod.fst =
      if key ∈ entries.map Prod.fst then entries.map Prod.fst
      else entries.map Prod.fst ++ [key] := by
  induction entries with
  | nil => simp [alter]
  | cons entry rest hypothesis =>
      obtain ⟨present, value⟩ := entry
      by_cases same : present = key
      · subst same
        simp [alter]
      · have differs : (present == key) = false := beq_eq_false_iff_ne.2 same
        have differs' : ¬key = present := fun equal => same equal.symm
        simp only [alter, differs, Bool.false_eq_true, if_false, List.map_cons, hypothesis,
          List.mem_cons, differs', false_or]
        split <;> simp

end Dictionary

end SchemaQuery
