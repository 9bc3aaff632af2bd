import Mathlib.Data.List.Induction
import SchemaQuery.Proofs.DictionaryEntries

/-!
# Dictionaries that gather items

A request is read by gathering its parts under their keys, one part after another.  However the
parts are mixed, the dictionary comes out as if each key had been met once, in the order in which
the keys first occur, and as if the parts of a key had gone into its value without any others
between them.  This file shows that, and what follows for parts that are left out, split up or
put in in another way.
-/

namespace SchemaQuery

namespace Keyed

variable {κ α : Type} [BEq κ] [LawfulBEq κ]

theorem eraseDups_append_singleton (names : List κ) (name : κ) :
    (names ++ [name]).eraseDups =
      if name ∈ names then names.eraseDups else names.eraseDups ++ [name] := by
  rw [List.eraseDups_append]
  by_cases present : name ∈ names
  · simp [List.removeAll, present]
  · simp [List.removeAll, present, List.eraseDups_cons]

theorem nodup_eraseDups (names : List κ) : names.eraseDups.Nodup := by
  induction names using List.reverseRecOn with
  | nil => simp
  | append_singleton names name hypothesis =>
      rw [eraseDups_append_singleton]
      split
      · exact hypothesis
      · rename_i absent
        refine List.nodup_append.2 ⟨hypothesis, by simp, ?_⟩
        rintro other isOther _ added rfl
        rw [List.mem_singleton.1 added, List.mem_eraseDups] at isOther
        exact absent isOther

/-- Pieces that belong to different names are told apart by the name. -/
theorem filter_flatMap_eq {names : List κ} (nodup : names.Nodup) {keyOf : α → κ}
    {pieces : κ → List α} (keyed : ∀ name ∈ names, ∀ item ∈ pieces name, keyOf item = name)
    (name : κ) :
    (names.flatMap pieces).filter (fun item => keyOf item == name) =
      if name ∈ names then pieces name else [] := by
  induction names with
  | nil => rfl
  | cons first rest hypothesis =>
      obtain ⟨fresh, restNodup⟩ := List.nodup_cons.1 nodup
      obtain ⟨firstKeyed, restKeyed⟩ := List.forall_mem_cons.1 keyed
      rw [List.flatMap_cons, List.filter_append, hypothesis restNodup restKeyed]
      by_cases here : name = first
      · subst here
        have own : (pieces name).filter (fun item => keyOf item == name) = pieces name :=
          List.filter_eq_self.2 fun item isItem => beq_iff_eq.2 (firstKeyed item isItem)
        simp [own, fresh]
      · have none : (pieces first).filter (fun item => keyOf item == name) = [] := by
          rw [List.filter_eq_nil_iff]
          intro item isItem same
          exact here ((beq_iff_eq.1 same).symm.trans (firstKeyed item isItem))
        simp [none, here]

/-- Lists are permutations if they have the same items of every key in the same order. -/
theorem perm_of_filter_eq {keyOf : α → κ} {left right : List α}
    (alike : ∀ key, left.filter (fun item => keyOf item == key) =
      right.filter (fun item => keyOf item == key)) : left.Perm right := by
  classical
  rw [List.perm_iff_count]
  intro item
  have counted (items : List α) :
      items.count item = (items.filter fun other => keyOf other == keyOf item).count item := by
    rw [List.count_filter (by simp)]
  rw [counted left, counted right, alike]

end Keyed

namespace Dictionary

variable {α β ι μ : Type}

theorem alter_alter (key : String) (change other : Option α → α) (entries : Dictionary α) :
    alter key change (alter key other entries) =
      alter key (fun present => change (some (other present))) entries := by
  induction entries with
  | nil => simp [alter]
  | cons entry rest hypothesis =>
      by_cases here : (entry.1 == key) = true
      · simp [alter, here]
      · simp [alter, here, hypothesis]

theorem append_append (entries : Dictionary (List α)) (key : String) (first second : List α) :
    append (append entries key first) key second = append entries key (first ++ second) := by
  unfold append
  rw [alter_alter]
  simp

/-- Values that are added to a key one after another are added together. -/
theorem foldl_append {key : ι → String} {items : List ι} (someItems : items ≠ []) {name : String}
    (keyed : ∀ item ∈ items, key item = name) (value : ι → α) (entries : Dictionary (List α)) :
    items.foldl (fun gathered item => gathered.append (key item) [value item]) entries =
      entries.append name (items.map value) := by
  induction items generalizing entries with
  | nil => contradiction
  | cons first rest hypothesis =>
      obtain ⟨named, restKeyed⟩ := List.forall_mem_cons.1 keyed
      rw [List.foldl_cons, named]
      cases rest with
      | nil => rfl
      | cons second rest =>
          rw [hypothesis (List.cons_ne_nil _ _) restKeyed, append_append]
          rfl

theorem filter_alter (keep : String → Bool) (key : String) (change : Option α → α)
    (entries : Dictionary α) :
    (alter key change entries).filter (fun entry => keep entry.1) =
      if keep key then alter key change (entries.filter fun entry => keep entry.1)
      else entries.filter fun entry => keep entry.1 := by
  induction entries with
  | nil => cases kept : keep key <;> simp [alter, kept]
  | cons entry rest hypothesis =>
      obtain ⟨present, value⟩ := entry
      by_cases here : present = key
      · subst here
        cases kept : keep present <;> simp [alter, kept]
      · cases kept : keep present <;> cases wanted : keep key <;>
          simp [alter, kept, wanted, here, hypothesis]

theorem alter_of_not_mem {key : String} {entries : Dictionary α}
    (absent : key ∉ entries.map Prod.fst) (change : Option α → α) :
    alter key change entries = entries ++ [(key, change none)] := by
  induction entries with
  | nil => rfl
  | cons entry rest hypothesis =>
      rw [List.map_cons, List.mem_cons, not_or] at absent
      simp [alter, Ne.symm absent.1, hypothesis absent.2]

theorem alter_map (names : List String) (nodup : names.Nodup) (value : String → α)
    (key : String) (change : Option α → α) :
    alter key change (names.map fun name => (name, value name)) =
      if key ∈ names then
        names.map fun name => (name, if name = key then change (some (value name)) else value name)
      else (names.map fun name => (name, value name)) ++ [(key, change none)] := by
  induction names with
  | nil => rfl
  | cons first rest hypothesis =>
      obtain ⟨fresh, restNodup⟩ := List.nodup_cons.1 nodup
      by_cases here : first = key
      · subst here
        have kept : (rest.map fun name =>
            (name, if name = first then change (some (value name)) else value name)) =
            rest.map fun name => (name, value name) := by
          apply List.map_congr_left
          rintro name isName
          rw [if_neg]
          rintro rfl
          exact fresh isName
        simp [alter, kept]
      · have differs : key ≠ first := Ne.symm here
        simp only [List.map_cons, alter, beq_eq_false_iff_ne.2 here, Bool.false_eq_true, if_false,
          hypothesis restNodup, List.mem_cons, differs, false_or]
        split <;> simp

/-- Gathers items under their keys, each added to the value there. -/
def gather (key : ι → String) (add : α → ι → α) (start : α) (items : List ι) : Dictionary α :=
  items.foldl
    (fun gathered item =>
      gathered.alter (key item) fun present => add (present.getD start) item)
    []

variable {key : ι → String} {add : α → ι → α} {start : α}

theorem gather_append_singleton (items : List ι) (item : ι) :
    gather key add start (items ++ [item]) =
      (gather key add start items).alter (key item) fun present =>
        add (present.getD start) item := by
  simp [gather]

/-- Each key stands once, where it occurs first, with its own items alone. -/
theorem gather_eq (key : ι → String) (add : α → ι → α) (start : α) (items : List ι) :
    gather key add start items =
      (items.map key).eraseDups.map fun name =>
        (name, (items.filter fun item => key item == name).foldl add start) := by
  induction items using List.reverseRecOn with
  | nil => rfl
  | append_singleton items item hypothesis =>
      rw [gather_append_singleton, hypothesis, alter_map _ (Keyed.nodup_eraseDups _),
        List.map_append, List.map_singleton, Keyed.eraseDups_append_singleton]
      simp only [List.mem_eraseDups]
      split
      · apply List.map_congr_left
        intro name _
        by_cases here : key item = name
        · subst here
          simp [List.filter_append]
        · simp [List.filter_append, here, Ne.symm here]
      · rename_i absent
        rw [List.map_append, List.map_singleton]
        congr 1
        · apply List.map_congr_left
          intro name isName
          have differs : key item ≠ name := by
            rintro rfl
            exact absent (List.mem_eraseDups.1 isName)
          simp [List.filter_append, differs]
        · have none : items.filter (fun other => key other == key item) = [] := by
            rw [List.filter_eq_nil_iff]
            intro other isOther same
            exact absent (List.mem_map.2 ⟨other, isOther, beq_iff_eq.1 same⟩)
          simp [List.filter_append, none]

theorem filter_gather (keep : String → Bool) (items : List ι) :
    (gather key add start items).filter (fun entry => keep entry.1) =
      gather key add start (items.filter fun item => keep (key item)) := by
  induction items using List.reverseRecOn with
  | nil => rfl
  | append_singleton items item hypothesis =>
      rw [gather_append_singleton, filter_alter, hypothesis, List.filter_append]
      cases kept : keep (key item) with
      | true => rw [if_pos rfl, List.filter_singleton, kept, cond_true, gather_append_singleton]
      | false => simp [kept]

/-- Items with keys of their own have values of their own. -/
theorem foldl_alter_of_nodup {change : ι → Option α → α} {items : List ι}
    (nodup : (items.map key).Nodup) :
    items.foldl (fun gathered item => alter (key item) (change item) gathered) [] =
      items.map fun item => (key item, change item none) := by
  induction items using List.reverseRecOn with
  | nil => rfl
  | append_singleton items item hypothesis =>
      rw [List.map_append, List.nodup_append] at nodup
      obtain ⟨restNodup, _, apart⟩ := nodup
      have absent : key item ∉ items.map key := fun present =>
        apart _ present _ (List.mem_singleton_self _) rfl
      rw [List.foldl_append, hypothesis restNodup, List.map_append, List.map_singleton]
      exact alter_of_not_mem (by simpa using absent) (change item)

theorem ofEntries_of_nodup {entries : List (String × α)} (nodup : (entries.map Prod.fst).Nodup) :
    ofEntries entries = entries := by
  have built : ofEntries entries = entries.map fun entry => (entry.1, entry.2) :=
    foldl_alter_of_nodup nodup
  rw [built, List.map_id']

/-- Dictionaries are the same if they are for the items of each key. -/
theorem gather_congr {other : α → ι → α} {items : List ι}
    (alike : ∀ name, (items.filter fun item => key item == name).foldl add start =
      (items.filter fun item => key item == name).foldl other start) :
    gather key add start items = gather key other start items := by
  rw [gather_eq, gather_eq]
  apply List.map_congr_left
  intro name _
  rw [alike]

/-- Items that go under one key one after another go there together. -/
theorem foldl_alter {items : List ι} (someItems : items ≠ []) {name : String}
    (keyed : ∀ item ∈ items, key item = name) (entries : Dictionary α) :
    items.foldl
        (fun gathered item =>
          gathered.alter (key item) fun present => add (present.getD start) item)
        entries =
      entries.alter name fun present => items.foldl add (present.getD start) := by
  induction items generalizing entries with
  | nil => contradiction
  | cons first rest hypothesis =>
      obtain ⟨named, restKeyed⟩ := List.forall_mem_cons.1 keyed
      rw [List.foldl_cons, named]
      cases rest with
      | nil => rfl
      | cons second rest =>
          rw [hypothesis (List.cons_ne_nil _ _) restKeyed, alter_alter]
          rfl

theorem gather_of_eq {items : List ι} (someItems : items ≠ []) {name : String}
    (keyed : ∀ item ∈ items, key item = name) :
    gather key add start items = [(name, items.foldl add start)] :=
  foldl_alter someItems keyed []

/-- Items may be split into parts that have their keys. -/
theorem gather_flatMap {partKey : μ → String} {addPart : α → μ → α} {parts : ι → List μ}
    {items : List ι} (someParts : ∀ item ∈ items, parts item ≠ [])
    (keyed : ∀ item ∈ items, ∀ part ∈ parts item, partKey part = key item) :
    gather partKey addPart start (items.flatMap parts) =
      gather key (fun value item => (parts item).foldl addPart value) start items := by
  unfold gather
  rw [List.foldl_flatMap]
  apply List.foldl_ext
  intro gathered item isItem
  exact foldl_alter (someParts item isItem) (keyed item isItem) gathered

end Dictionary
end SchemaQuery
