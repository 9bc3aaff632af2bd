import SchemaQuery.Dictionary
import SchemaQuery.Proofs.Success

/-!
# What a dictionary holds

The entries of a dictionary and what it answers for a key belong together as long as each key
has one entry.  This file says which entries and which keys there are after a dictionary has
been changed, or has been made of a list of entries, and what work on each entry does to it.
-/

namespace SchemaQuery
namespace Dictionary

variable {α β ε : Type}

theorem mem_of_get? {entries : Dictionary α} {key : String} {value : α}
    (found : get? entries key = some value) : (key, value) ∈ entries := by
  induction entries with
  | nil => simp [get?] at found
  | cons entry rest hypothesis =>
      obtain ⟨present, here⟩ := entry
      unfold get? at found hypothesis
      rw [List.lookup_cons] at found
      cases same : key == present with
      | true =>
          rw [same] at found
          obtain rfl := eq_of_beq same
          obtain rfl := Option.some.inj found
          exact List.mem_cons_self
      | false =>
          rw [same] at found
          exact List.mem_cons_of_mem _ (hypothesis found)

theorem exists_get? {entries : Dictionary α} {key : String}
    (member : key ∈ entries.map Prod.fst) : ∃ value, get? entries key = some value := by
  rw [← contains_eq_true_iff, contains, Option.isSome_iff_exists] at member
  exact member

theorem get?_of_mem {entries : Dictionary α} (nodup : (entries.map Prod.fst).Nodup)
    {key : String} {value : α} (member : (key, value) ∈ entries) :
    get? entries key = some value := by
  induction entries with
  | nil => simp at member
  | cons entry rest hypothesis =>
      obtain ⟨fresh, restNodup⟩ := List.nodup_cons.1 nodup
      unfold get? at hypothesis ⊢
      rw [List.lookup_cons]
      rcases List.mem_cons.1 member with rfl | later
      · rw [beq_self_eq_true]
      · have differs : key ≠ entry.1 := by
          rintro rfl
          exact fresh (List.mem_map.2 ⟨_, later, rfl⟩)
        rw [beq_eq_false_iff_ne.2 differs]
        exact hypothesis restNodup later

theorem mem_alter {key : String} {change : Option α → α} {entries : Dictionary α}
    {entry : String × α} (member : entry ∈ alter key change entries) :
    entry ∈ entries ∨ entry.1 = key ∧ ∃ present, entry.2 = change present := by
  induction entries with
  | nil =>
      rw [alter, List.mem_singleton] at member
      exact Or.inr ⟨by rw [member], none, by rw [member]⟩
  | cons first rest hypothesis =>
      rw [alter] at member
      split at member
      · rename_i found
        rcases List.mem_cons.1 member with rfl | later
        · exact Or.inr ⟨by simpa using found, some first.2, rfl⟩
        · exact Or.inl (List.mem_cons_of_mem first later)
      · rcases List.mem_cons.1 member with rfl | later
        · exact Or.inl List.mem_cons_self
        · rcases hypothesis later with there | changed
          · exact Or.inl (List.mem_cons_of_mem first there)
          · exact Or.inr changed

theorem mem_insert {entries : Dictionary α} {key : String} {value : α} {entry : String × α}
    (member : entry ∈ insert entries key value) : entry ∈ entries ∨ entry = (key, value) := by
  rcases mem_alter member with there | ⟨named, _, valued⟩
  · exact Or.inl there
  · exact Or.inr (Prod.ext named valued)

theorem mem_keys_insert (entries : Dictionary α) (key other : String) (value : α) :
    other ∈ (insert entries key value).map Prod.fst ↔
      other ∈ entries.map Prod.fst ∨ other = key := by
  unfold insert
  rw [keys_alter]
  split
  · rename_i present
    constructor
    · exact Or.inl
    · rintro (there | rfl)
      · exact there
      · exact present
  · rw [List.mem_append, List.mem_singleton]

theorem contains_insert {entries : Dictionary α} {key : String}
    (there : contains entries key = true) (other : String) (value : α) :
    contains (insert entries other value) key = true := by
  rw [contains_eq_true_iff] at there ⊢
  exact (mem_keys_insert _ _ _ _).2 (Or.inl there)

theorem nodup_keys_insert {entries : Dictionary α} (nodup : (entries.map Prod.fst).Nodup)
    (key : String) (value : α) : ((insert entries key value).map Prod.fst).Nodup := by
  unfold insert
  rw [keys_alter]
  split
  · exact nodup
  · rename_i absent
    rw [List.nodup_append]
    refine ⟨nodup, by simp, ?_⟩
    rintro present member _ added rfl
    rw [List.mem_singleton.1 added] at member
    exact absent member

theorem mem_ofEntries {entries : List (String × α)} {entry : String × α}
    (member : entry ∈ ofEntries entries) : entry ∈ entries := by
  suffices general : ∀ built : Dictionary α,
      entry ∈ entries.foldl (fun built entry => insert built entry.1 entry.2) built →
        entry ∈ built ∨ entry ∈ entries by
    exact (general [] member).resolve_left List.not_mem_nil
  clear member
  induction entries with
  | nil => exact fun _ => Or.inl
  | cons first rest hypothesis =>
      intro built member
      rw [List.mem_cons]
      rcases hypothesis _ member with inserted | later
      · rcases mem_insert inserted with there | rfl
        · exact Or.inl there
        · exact Or.inr (Or.inl rfl)
      · exact Or.inr (Or.inr later)

theorem get?_foldl_insert_of_not_mem {entries : List (String × α)} {key : String}
    (built : Dictionary α) (absent : key ∉ entries.map Prod.fst) :
    get? (entries.foldl (fun built entry => insert built entry.1 entry.2) built) key =
      get? built key := by
  induction entries generalizing built with
  | nil => rfl
  | cons entry rest hypothesis =>
      rw [List.map_cons, List.mem_cons, not_or] at absent
      rw [List.foldl_cons, hypothesis _ absent.2, get?_insert, if_neg absent.1]

/-- A dictionary from entries gives every key of theirs one of its values. -/
theorem exists_get?_ofEntries {entries : List (String × α)} {key : String}
    (member : key ∈ entries.map Prod.fst) :
    ∃ value, (key, value) ∈ entries ∧ get? (ofEntries entries) key = some value := by
  suffices general : ∀ built : Dictionary α,
      ∃ value, (key, value) ∈ entries ∧
        get? (entries.foldl (fun built entry => insert built entry.1 entry.2) built) key =
          some value by
    exact general []
  induction entries with
  | nil => simp at member
  | cons entry rest hypothesis =>
      intro built
      by_cases later : key ∈ rest.map Prod.fst
      · obtain ⟨value, valueMember, found⟩ := hypothesis later (insert built entry.1 entry.2)
        exact ⟨value, List.mem_cons_of_mem entry valueMember, found⟩
      · have first : key = entry.1 := by
          rcases List.mem_cons.1 member with here | there
          · exact here
          · exact absurd there later
        refine ⟨entry.2, by rw [first]; exact List.mem_cons_self, ?_⟩
        rw [List.foldl_cons, get?_foldl_insert_of_not_mem _ later, get?_insert, if_pos first]

theorem erase_of_not_mem {entries : Dictionary α} {key : String}
    (absent : key ∉ entries.map Prod.fst) : erase entries key = entries := by
  unfold erase
  rw [List.filter_eq_self]
  intro entry member
  rw [bne_iff_ne]
  rintro rfl
  exact absent (List.mem_map_of_mem member)

/-- Work on entries that keeps keys answers for each key by its entry. -/
theorem get?_mapM {work : String × α → Except ε (String × β)}
    (keeps : ∀ entry result, work entry = .ok result → result.1 = entry.1)
    {entries : Dictionary α} {results : Dictionary β} (made : entries.mapM work = .ok results)
    (key : String) (value : β) :
    get? results key = some value ↔
      ∃ present, get? entries key = some present ∧ work (key, present) = .ok (key, value) := by
  induction entries generalizing results with
  | nil =>
      obtain rfl := Except.ok.inj made
      simp [get?]
  | cons entry rest hypothesis =>
      obtain ⟨result, others, resultMade, othersMade, rfl⟩ :=
        (Success.mapM_cons_eq_ok _ _ _ _).1 made
      obtain ⟨first, present⟩ := entry
      obtain ⟨named, found⟩ := result
      obtain rfl : named = first := keeps _ _ resultMade
      have behind := hypothesis othersMade
      unfold get? at behind ⊢
      rw [List.lookup_cons, List.lookup_cons]
      cases same : key == named with
      | true =>
          obtain rfl := eq_of_beq same
          simp [resultMade]
      | false => exact behind

end Dictionary
end SchemaQuery
