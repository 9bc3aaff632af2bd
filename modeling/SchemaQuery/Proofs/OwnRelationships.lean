import SchemaQuery.Proofs.LoadedTree

/-!
# What a loaded entity carries itself

While an entity is loaded, its attributes are expanded one after another, and each of them may
expand join tables far down in its tree.  A junction whose table has been expanded there stays
unexpanded, even if it belongs to the entity itself.  This file proves that nothing else keeps an
attribute of the entity from being expanded, and that loading what has been loaded changes nothing
only if no attribute has been left out.
-/

namespace SchemaQuery

/-- An attribute that is not loaded is a junction left as it was. -/
theorem LoadedAttribute.ExpandedIn.isLoaded_or_plain
    {known : Catalog.Definitions} {owner : String} {visited : List String}
    {member : LoadedAttribute} (expanded : member.ExpandedIn known owner visited) :
    member.isLoaded = true ∨ member.dataType = .junction ∧ member.relation = .unexpanded := by
  cases expanded with
  | scalar isScalar plain =>
      rw [LoadedAttribute.isLoaded_of_plain plain, isScalar]
      exact Or.inl rfl
  | lookup isLookup named found carries =>
      exact Or.inl (by simp [LoadedAttribute.isLoaded, isLookup, carries])
  | junction isJunction named found tableName columns carries =>
      exact Or.inl (by simp [LoadedAttribute.isLoaded, isJunction, carries])
  | visitedBefore isJunction named isVisited plain => exact Or.inr ⟨isJunction, plain⟩

namespace Catalog

variable {known : Definitions} {expandTarget : Expansion} {owner : String}
  {member : LoadedAttribute} {visited : List String} {catalog : Catalog}

theorem junctionTable?_eq_some_iff {declared : Attribute} {table : String} :
    declared.junctionTable? owner = some table ↔
      declared.dataType = .junction ∧ ∃ target, declared.targetName? = some target ∧
        junctionTableName owner target declared.field = table := by
  unfold Attribute.junctionTable?
  split
  · rename_i isJunction
    simp [isJunction]
  · rename_i notJunction
    simp [notJunction]

/-- An attribute is left unexpanded just if it is a junction whose join table has been visited. -/
theorem isLoaded_expandAttribute_iff
    (consults : ∀ entity visited, Consults (expandTarget entity visited))
    (plain : member.relation = .unexpanded) {result : LoadedAttribute × List String}
    (expanded : answer (expandAttribute expandTarget owner member visited) catalog =
      .ok result) :
    result.1.isLoaded = false ↔
      ∃ table ∈ visited, result.1.junctionTable? owner = some table := by
  simp only [junctionTable?_eq_some_iff]
  unfold expandAttribute at expanded
  split at expanded
  · rename_i isLookup
    obtain ⟨found, made, same⟩ := (answer_bind_eq_ok _ _ _ _).1 expanded
    obtain rfl := Except.ok.inj same
    obtain ⟨target, stored, _, _, rfl⟩ := (expandLookup_eq_ok plain found).1 made
    simp [LoadedAttribute.isLoaded, isLookup]
  · rename_i isJunction
    obtain ⟨target, named, ⟨isVisited, rfl⟩ | ⟨isNew, stored, expandedTarget, _, _, rfl⟩⟩ :=
      (expandJunction_eq_ok consults plain result).1 expanded
    · have notLoaded : member.isLoaded = false := by
        rw [LoadedAttribute.isLoaded_of_plain plain, isJunction]
        rfl
      exact iff_of_true notLoaded ⟨_, isVisited, isJunction, target, named, rfl⟩
    · refine iff_of_false (by simp [LoadedAttribute.isLoaded, isJunction]) ?_
      rintro ⟨table, isVisited, _, other, otherNamed, rfl⟩
      obtain rfl := Option.some.inj (named.symm.trans otherNamed)
      exact isNew isVisited
  · rename_i notLookup notJunction
    obtain rfl := Except.ok.inj expanded
    refine iff_of_false ?_ ?_
    · rw [LoadedAttribute.isLoaded_of_plain plain]
      cases isType : member.dataType <;> simp_all [DataType.isCompound]
    · rintro ⟨_, _, isJunction, _⟩
      exact notJunction isJunction

/-- Of several attributes those are left whose join tables have been expanded behind the ones before
them, or visited before all of them. -/
theorem isLoaded_expandAttributes_iff (named : known.Named)
    (consults : ∀ entity visited, Consults (expandTarget entity visited))
    (makesTrees : expandTarget.MakesTrees known) (defined : catalog.definitions = known)
    {members : List LoadedAttribute} (plain : ∀ member ∈ members, member.relation = .unexpanded)
    (declared : ∀ member ∈ members, TreeMember.IsDeclared known ⟨owner, member⟩)
    {result : List LoadedAttribute × List String}
    (expanded : answer (expandAttributes expandTarget owner members visited) catalog =
      .ok result) {before behind : List LoadedAttribute}
    (placed : result.1 = before ++ member :: behind) :
    member.isLoaded = false ↔
      ∃ table ∈ expandedTables (treeOfEach owner before) ++ visited,
        member.junctionTable? owner = some table := by
  induction members generalizing visited result before with
  | nil =>
      obtain rfl := Except.ok.inj expanded
      exact absurd placed.symm (by simp)
  | cons first rest hypothesis =>
      obtain ⟨firstResult, others, firstMade, othersMade, rfl⟩ :=
        (expandAttributes_cons_eq_ok consults rest result).1 expanded
      have firstPlain := plain first List.mem_cons_self
      cases before with
      | nil =>
          obtain ⟨rfl, _⟩ := List.cons.inj placed
          exact isLoaded_expandAttribute_iff consults firstPlain firstMade
      | cons earlier before =>
          obtain ⟨rfl, placedBehind⟩ := List.cons.inj placed
          have behindFirst := hypothesis
            (fun other isOther => plain other (List.mem_cons_of_mem _ isOther))
            (fun other isOther => declared other (List.mem_cons_of_mem _ isOther))
            othersMade placedBehind
          obtain ⟨_, expandsFirst⟩ := expandsTree_expandAttribute named consults makesTrees
            defined firstPlain (declared first List.mem_cons_self) firstMade
          -- What has been visited then is what stands behind the first attribute, and more before.
          have sameTables (table : String) :
              table ∈ expandedTables (treeOfEach owner before) ++ firstResult.2 ↔
                table ∈ expandedTables (treeOfEach owner (firstResult.1 :: before)) ++ visited := by
            have tree : treeOfEach owner (firstResult.1 :: before) =
                (⟨owner, firstResult.1⟩ :: firstResult.1.treeBehind) ++ treeOfEach owner before :=
              rfl
            rw [tree, expandedTables_append, List.mem_append, List.mem_append, List.mem_append,
              expandsFirst.visited_perm.mem_iff, List.mem_append]
            tauto
          simp only [behindFirst, sameTables]

theorem answer_expandAttribute_of_isLoaded (expandTarget : Expansion) (owner : String)
    (visited : List String) (isLoaded : member.isLoaded = true) :
    answer (expandAttribute expandTarget owner member visited) catalog =
      .ok (member, visited) := by
  unfold LoadedAttribute.isLoaded at isLoaded
  unfold expandAttribute
  split at isLoaded
  · rename_i isLookup carries
    rw [isLookup]
    dsimp only
    unfold expandLookup
    rw [carries]
    rfl
  · exact absurd isLoaded (by decide)
  · rename_i isJunction carries
    rw [isJunction]
    dsimp only
    unfold expandJunction
    rw [carries]
    rfl
  · exact absurd isLoaded (by decide)
  · rename_i notLookup _ notJunction _
    split
    · rename_i isLookup
      simp_all
    · rename_i isJunction
      simp_all
    · rfl

/-- Expanding attributes again changes the first that is not expanded, if there is any. -/
theorem expandAttributes_eq_self_iff
    (consults : ∀ entity visited, Consults (expandTarget entity visited))
    {members : List LoadedAttribute}
    (ready : ∀ member ∈ members, member.isLoaded = true ∨
      member.dataType = .junction ∧ member.relation = .unexpanded) :
    (∃ visited, answer (expandAttributes expandTarget owner members []) catalog =
        .ok (members, visited)) ↔
      ∀ member ∈ members, member.isLoaded = true := by
  induction members with
  | nil => exact iff_of_true ⟨[], rfl⟩ nofun
  | cons first rest hypothesis =>
      have behindFirst := hypothesis fun other isOther =>
        ready other (List.mem_cons_of_mem _ isOther)
      rw [List.forall_mem_cons, ← behindFirst]
      simp only [expandAttributes_cons_eq_ok consults, Prod.mk.injEq, List.cons.injEq]
      constructor
      · rintro ⟨visited, ⟨expanded, between⟩, ⟨others, last⟩, firstMade, othersMade, same⟩
        obtain ⟨⟨rfl, rfl⟩, rfl⟩ := same
        have isLoaded : first.isLoaded = true := by
          rcases ready first List.mem_cons_self with isLoaded | ⟨_, plain⟩
          · exact isLoaded
          · rw [← Bool.not_eq_false, isLoaded_expandAttribute_iff consults plain firstMade]
            simp
        rw [answer_expandAttribute_of_isLoaded expandTarget owner [] isLoaded] at firstMade
        obtain ⟨_, rfl⟩ := Prod.mk.inj (Except.ok.inj firstMade)
        exact ⟨isLoaded, visited, othersMade⟩
      · rintro ⟨isLoaded, visited, othersMade⟩
        exact ⟨visited, (first, []), (rest, visited),
          answer_expandAttribute_of_isLoaded expandTarget owner [] isLoaded, othersMade,
          ⟨rfl, rfl⟩, rfl⟩

theorem answer_expand_eq_self_iff {loaded : LoadedEntity}
    (ready : ∀ member ∈ loaded.attributes, member.isLoaded = true ∨
      member.dataType = .junction ∧ member.relation = .unexpanded) :
    answer (expand loaded) catalog = .ok loaded ↔
      ∀ member ∈ loaded.attributes, member.isLoaded = true := by
  have allowed := card_junctionTables_lt_depthBound catalog loaded
  obtain ⟨depth, isDepth⟩ := Nat.exists_eq_add_of_le' (Nat.zero_lt_of_lt allowed)
  have again := @expandAttributes_eq_self_iff _ loaded.name catalog (consults_expandWithin depth) _
    ready
  rw [← again]
  unfold expand
  change answer (expandWithin (depthBound catalog loaded) loaded [] >>= _) catalog = _ ↔ _
  rw [isDepth]
  constructor
  · intro made
    obtain ⟨⟨expanded, visited⟩, expandMade, same⟩ := (answer_bind_eq_ok _ _ _ _).1 made
    obtain rfl := Except.ok.inj same
    obtain ⟨⟨attributes, tables⟩, attributesMade, same⟩ :=
      (answer_bind_eq_ok _ _ _ _).1 expandMade
    have sameAttributes : attributes = expanded.attributes :=
      congrArg (fun result => result.1.attributes) (Except.ok.inj same)
    exact ⟨tables, sameAttributes ▸ attributesMade⟩
  · rintro ⟨visited, made⟩
    exact (answer_bind_eq_ok _ _ _ _).2
      ⟨(loaded, visited), (answer_bind_eq_ok _ _ _ _).2 ⟨_, made, rfl⟩, rfl⟩

/-- A loaded entity has the attributes of the stored one, expanded in order. -/
theorem exists_expandAttributes_of_loadedEntity {name : String} {loaded : LoadedEntity}
    (made : answer (loadedEntity name) catalog = .ok loaded) :
    ∃ stored depth visited, catalog.definitions name = .ok stored ∧ loaded.name = stored.name ∧
      answer (expandAttributes (expandEntity^[depth] refuse) stored.name stored.load.attributes [])
        catalog = .ok (loaded.attributes, visited) := by
  rw [← answer_loadedAbove refuse (Nat.lt_succ_self _)] at made
  obtain ⟨stored, found, made⟩ := (answer_bind_eq_ok _ _ _ _).1 made
  rw [Function.iterate_succ_apply'] at made
  obtain ⟨⟨expanded, visited⟩, expandMade, same⟩ := (answer_bind_eq_ok _ _ _ _).1 made
  obtain rfl := Except.ok.inj same
  obtain ⟨⟨attributes, tables⟩, attributesMade, same⟩ := (answer_bind_eq_ok _ _ _ _).1 expandMade
  obtain ⟨rfl, rfl⟩ := Prod.mk.inj (Except.ok.inj same)
  rw [(consults_entity name).answer_after
    (consults_expandAttributes (consults_iterate_refuse _) _ _ _)] at attributesMade
  exact ⟨stored, _, tables, found, rfl, attributesMade⟩

/-- Each attribute of a loaded entity is expanded, unless it is a junction whose join table has been
expanded in the tree of one before it. Loading again expands that. -/
theorem loaded_unless_expanded_before (keyed : catalog.store.KeyedByName) {name : String}
    {loaded : LoadedEntity} (made : answer (loadedEntity name) catalog = .ok loaded) :
    (∀ before member behind, loaded.attributes = before ++ member :: behind →
      (member.isLoaded = false ↔
        ∃ table ∈ expandedTables (treeOfEach loaded.name before),
          member.junctionTable? loaded.name = some table)) ∧
    (answer (expand loaded) (after (loadedEntity name) catalog) = .ok loaded ↔
      ∀ member ∈ loaded.attributes, member.isLoaded = true) := by
  have named := named_definitions keyed
  constructor
  · intro before member behind placed
    obtain ⟨stored, depth, visited, found, sameName, expanded⟩ :=
      exists_expandAttributes_of_loadedEntity made
    have order := isLoaded_expandAttributes_iff named (consults_iterate_refuse depth)
      (makesTrees_iterate_refuse named depth) rfl
      (fun _ isMember => Entity.relation_of_mem_load isMember)
      (fun _ isMember => isDeclared_of_mem_load named found isMember) expanded placed
    rw [List.append_nil] at order
    rw [sameName]
    exact order
  · obtain ⟨visited, _, expands⟩ := loadedEntity_spec keyed made
    apply answer_expand_eq_self_iff
    intro member isMember
    have inTree := Entity.subset_tree isMember List.mem_cons_self
    exact (expands.expanded _ inTree).isLoaded_or_plain

theorem isLoaded_forum_post {loaded : LoadedEntity}
    (made : answer (loadedEntity "Post") forum = .ok loaded) :
    loaded.attributes.map (fun member => (member.field, member.isLoaded)) =
      [("id", true), ("author", true), ("tags", true), ("replies", false)] := by
  have shown : (answer (loadedEntity "Post") forum).toOption.map
      (fun loaded => loaded.attributes.map fun member => (member.field, member.isLoaded)) =
        some [("id", true), ("author", true), ("tags", true), ("replies", false)] := by
    decide +kernel
  rw [made] at shown
  exact Option.some.inj shown

theorem exists_loaded_forum_post :
    ∃ loaded, answer (loadedEntity "Post") forum = .ok loaded := by
  have succeeds : (answer (loadedEntity "Post") forum).isOk = true := by decide +kernel
  cases made : answer (loadedEntity "Post") forum with
  | error refusal => simp [made, Except.isOk, Except.toBool] at succeeds
  | ok loaded => exact ⟨loaded, rfl⟩

/-- The replies of a post are left out, because the posts of its tags have replies too. -/
theorem forum_post_leaves_out_replies :
    ∃ loaded, answer (loadedEntity "Post") forum = .ok loaded ∧
      ¬∀ member ∈ loaded.attributes, member.isLoaded = true := by
  obtain ⟨loaded, made⟩ := exists_loaded_forum_post
  refine ⟨loaded, made, ?_⟩
  intro allLoaded
  have isListed : ("replies", false) ∈
      loaded.attributes.map fun member => (member.field, member.isLoaded) := by
    rw [isLoaded_forum_post made]
    decide
  obtain ⟨member, isMember, same⟩ := List.mem_map.1 isListed
  have notLoaded : member.isLoaded = false := (Prod.mk.inj same).2
  exact absurd ((allLoaded member isMember).symm.trans notLoaded) (by decide)

/-- The replies are expanded when the post is loaded again. -/
theorem forum_post_expands_replies_before :
    ∃ loaded, answer (loadedEntity "Post") forum = .ok loaded ∧
      (∃ before member, loaded.attributes = before ++ [member] ∧ member.isLoaded = false ∧
        ∃ table ∈ expandedTables (treeOfEach loaded.name before),
          member.junctionTable? loaded.name = some table) ∧
      answer (expand loaded) (after (loadedEntity "Post") forum) ≠ .ok loaded := by
  obtain ⟨loaded, made⟩ := exists_loaded_forum_post
  obtain ⟨inOrder, again⟩ := loaded_unless_expanded_before keyedByName_forum made
  have shown := isLoaded_forum_post made
  obtain ⟨before, member, placed⟩ : ∃ before member, loaded.attributes = before ++ [member] := by
    rcases List.eq_nil_or_concat loaded.attributes with none | some
    · simp [none] at shown
    · simpa using some
  have notLoaded : member.isLoaded = false := by
    rw [placed, List.map_append] at shown
    have last := congrArg List.getLast? shown
    rw [List.map_singleton, List.getLast?_concat] at last
    exact (Prod.mk.inj (Option.some.inj last)).2
  refine ⟨loaded, made, ⟨before, member, placed, notLoaded, ?_⟩, ?_⟩
  · exact (inOrder before member [] placed).1 notLoaded
  · rw [Ne, again]
    intro allLoaded
    have isMember : member ∈ loaded.attributes := by simp [placed]
    exact absurd ((allLoaded member isMember).symm.trans notLoaded) (by decide)

end Catalog
end SchemaQuery
