import SchemaQuery.Proofs.ExpansionDepth

/-!
# What loading makes of an entity

Stores are keyed by the names of their entities.  Where that is so, the tree of a loaded entity
holds each join table once, however the junctions of the schema lead back to each other.
-/

namespace SchemaQuery

namespace Store

def KeyedByName (store : Store) : Prop :=
  ∀ entry ∈ store.entities, entry.2.name = entry.1

theorem keyedByName_save {store : Store} (keyed : store.KeyedByName) (entity : StoredEntity) :
    (store.save entity).KeyedByName := by
  intro entry member
  rcases Dictionary.mem_insert member with there | rfl
  · exact keyed entry there
  · rfl

theorem keyedByName_delete {store : Store} (keyed : store.KeyedByName) (name : String) :
    (store.delete name).2.KeyedByName := by
  intro entry member
  exact keyed entry (List.mem_of_mem_filter member)

theorem keyedByName_ofEntities (entities : List StoredEntity) :
    (ofEntities entities).KeyedByName := by
  intro entry member
  obtain ⟨entity, _, rfl⟩ := List.mem_map.1 (Dictionary.mem_ofEntries member)
  rfl

end Store

namespace Catalog

/-- Whether each entity that is defined has the name that it is defined for. -/
def Definitions.Named (known : Definitions) : Prop :=
  ∀ ⦃name stored⦄, known name = .ok stored → stored.name = name

theorem named_definitions {catalog : Catalog} (keyed : catalog.store.KeyedByName) :
    catalog.definitions.Named := by
  intro name stored found
  rw [definitions_eq] at found
  split at found
  · simp at found
  · cases inSnapshot : (snapshot catalog).1.find? fun candidate => candidate.name == name with
    | some first =>
        rw [inSnapshot] at found
        obtain rfl := Except.ok.inj found
        simpa using List.find?_some inSnapshot
    | none =>
        rw [inSnapshot] at found
        dsimp only at found
        cases inStore : catalog.store.entities.get? name with
        | none => simp [inStore] at found
        | some first =>
            rw [inStore] at found
            obtain rfl := Except.ok.inj found
            exact keyed _ (Dictionary.mem_of_get? inStore)

/-- Whether a way to expand makes trees of the entities that are defined. -/
def Expansion.MakesTrees (known : Definitions) (expansion : Expansion) : Prop :=
  ∀ ⦃catalog name stored visited result⦄, catalog.definitions = known →
    known name = .ok stored → answer (expansion stored.load visited) catalog = .ok result →
    result.1.declared = stored ∧ ExpandsTree known visited result.1.tree result.2

theorem isDeclared_of_mem_load {known : Definitions} (named : known.Named) {name : String}
    {stored : StoredEntity} (found : known name = .ok stored) {member : LoadedAttribute}
    (isMember : member ∈ stored.load.attributes) :
    TreeMember.IsDeclared known ⟨stored.load.name, member⟩ := by
  obtain ⟨declared, isDeclared, rfl⟩ := List.mem_map.1 isMember
  refine ⟨stored, ?_, rfl, isDeclared⟩
  rw [← found]
  exact congrArg known (named found)

section Expanding

variable {known : Definitions} {expandTarget : Expansion} (named : known.Named)
  (consults : ∀ entity visited, Consults (expandTarget entity visited))
  (makesTrees : expandTarget.MakesTrees known)

include named consults makesTrees

/-- Expanding an attribute keeps its declaration, and visits the tables behind it. -/
theorem expandsTree_expandAttribute {owner : String} {member : LoadedAttribute}
    {visited : List String} {catalog : Catalog} (defined : catalog.definitions = known)
    (plain : member.relation = .unexpanded)
    (declared : TreeMember.IsDeclared known ⟨owner, member⟩)
    {result : LoadedAttribute × List String}
    (expanded : answer (expandAttribute expandTarget owner member visited) catalog =
      .ok result) :
    result.1.toAttribute = member.toAttribute ∧
      ExpandsTree known visited (⟨owner, result.1⟩ :: result.1.treeBehind) result.2 := by
  have noLink := LoadedAttribute.link?_of_unexpanded plain
  unfold expandAttribute at expanded
  split at expanded
  · rename_i isLookup
    obtain ⟨found, made, same⟩ := (answer_bind_eq_ok _ _ _ _).1 expanded
    obtain rfl := Except.ok.inj same
    obtain ⟨target, stored, targetNamed, targetFound, rfl⟩ :=
      (expandLookup_eq_ok plain found).1 made
    rw [defined] at targetFound
    exact ⟨rfl, ExpandsTree.single rfl declared (.lookup isLookup targetNamed targetFound rfl)⟩
  · rename_i isJunction
    obtain ⟨target, targetNamed, ⟨isVisited, rfl⟩ | ⟨isNew, stored, expandedTarget, found, made,
      rfl⟩⟩ := (expandJunction_eq_ok consults plain result).1 expanded
    · refine ⟨rfl, ExpandsTree.single noLink declared ?_⟩
      exact .visitedBefore isJunction targetNamed isVisited plain
    · rw [defined] at found
      obtain ⟨targetDeclared, expands⟩ := makesTrees defined found made
      have targetName : expandedTarget.1.name = target :=
        (congrArg Entity.name targetDeclared).trans (named found)
      have tableName :
          (Junction.between owner expandedTarget.1 member.field).tableName =
            junctionTableName owner target member.field := by
        unfold Junction.between
        rw [targetName]
      have columns :
          ((Junction.between owner expandedTarget.1 member.field).sourceColumn,
            (Junction.between owner expandedTarget.1 member.field).targetColumn) =
              Junction.columnsBetween owner target := by
        unfold Junction.between
        rw [targetName]
      refine ⟨rfl, ExpandsTree.link rfl (tableName ▸ isNew) (tableName ▸ expands) declared ?_⟩
      exact .junction isJunction targetNamed (targetDeclared ▸ found) tableName columns rfl
  · rename_i notLookup notJunction
    obtain rfl := Except.ok.inj expanded
    refine ⟨rfl, ExpandsTree.single noLink declared (.scalar ?_ plain)⟩
    cases isType : member.dataType <;> simp_all [DataType.isCompound]

theorem expandsTree_expandAttributes {owner : String} {members : List LoadedAttribute}
    {visited : List String} {catalog : Catalog} (defined : catalog.definitions = known)
    (plain : ∀ member ∈ members, member.relation = .unexpanded)
    (declared : ∀ member ∈ members, TreeMember.IsDeclared known ⟨owner, member⟩)
    {result : List LoadedAttribute × List String}
    (expanded : answer (expandAttributes expandTarget owner members visited) catalog =
      .ok result) :
    result.1.map (·.toAttribute) = members.map (·.toAttribute) ∧
      ExpandsTree known visited (treeOfEach owner result.1) result.2 := by
  induction members generalizing visited result with
  | nil =>
      obtain rfl := Except.ok.inj expanded
      exact ⟨rfl, ExpandsTree.nil⟩
  | cons member rest hypothesis =>
      obtain ⟨first, others, firstMade, othersMade, rfl⟩ :=
        (expandAttributes_cons_eq_ok consults rest result).1 expanded
      obtain ⟨firstDeclared, firstExpands⟩ := expandsTree_expandAttribute named consults
        makesTrees defined (plain member List.mem_cons_self) (declared member List.mem_cons_self)
        firstMade
      obtain ⟨othersDeclared, othersExpand⟩ := hypothesis
        (fun other isOther => plain other (List.mem_cons_of_mem _ isOther))
        (fun other isOther => declared other (List.mem_cons_of_mem _ isOther)) othersMade
      refine ⟨?_, firstExpands.append othersExpand⟩
      rw [List.map_cons, List.map_cons, firstDeclared, othersDeclared]

theorem makesTrees_expandEntity : (expandEntity expandTarget).MakesTrees known := by
  intro catalog name stored visited result defined found expanded
  obtain ⟨attributes, made, same⟩ := (answer_bind_eq_ok _ _ _ _).1 expanded
  obtain rfl := Except.ok.inj same
  obtain ⟨declared, expands⟩ := expandsTree_expandAttributes named consults makesTrees defined
    (fun _ isMember => Entity.relation_of_mem_load isMember)
    (fun _ isMember => isDeclared_of_mem_load named found isMember) made
  refine ⟨?_, ?_⟩
  · calc
      _ = stored.load.declared := by
        unfold Entity.declared
        rw [declared]
      _ = stored := Entity.declared_load stored
  · rw [Entity.tree_eq]
    exact expands

end Expanding

def refuse : Expansion := fun _ _ => throw .entityNameMissing

theorem consults_iterate_refuse (depth : Nat) (entity : LoadedEntity) (visited : List String) :
    Consults ((expandEntity^[depth] refuse) entity visited) := by
  induction depth generalizing entity visited with
  | zero => exact Consults.throw _
  | succ depth hypothesis =>
      rw [Function.iterate_succ_apply']
      exact consults_expandEntity hypothesis entity visited

theorem makesTrees_iterate_refuse {known : Definitions} (named : known.Named) (depth : Nat) :
    (expandEntity^[depth] refuse).MakesTrees known := by
  induction depth with
  | zero =>
      intro catalog name stored visited result _ _ expanded
      simp [refuse] at expanded
  | succ depth hypothesis =>
      rw [Function.iterate_succ_apply']
      exact makesTrees_expandEntity named (consults_iterate_refuse depth) hypothesis

/-- A loaded entity is declared as it is stored, and expanded from nothing. -/
theorem loadedEntity_spec {catalog : Catalog} (keyed : catalog.store.KeyedByName) {name : String}
    {loaded : LoadedEntity} (made : answer (loadedEntity name) catalog = .ok loaded) :
    ∃ visited, catalog.definitions name = .ok loaded.declared ∧
      ExpandsTree catalog.definitions [] loaded.tree visited := by
  rw [← answer_loadedAbove refuse (Nat.lt_succ_self _)] at made
  obtain ⟨stored, found, made⟩ := (answer_bind_eq_ok _ _ _ _).1 made
  obtain ⟨⟨expanded, visited⟩, expandMade, same⟩ := (answer_bind_eq_ok _ _ _ _).1 made
  obtain rfl := Except.ok.inj same
  have kept := (consults_entity name).keeps catalog
  obtain ⟨declared, expands⟩ :=
    makesTrees_iterate_refuse (named_definitions keyed) _ kept found expandMade
  exact ⟨visited, declared ▸ found, expands⟩

/-- An attribute expanded on its own is declared as before, and expanded from nothing. -/
theorem expandOne_spec {catalog : Catalog} (keyed : catalog.store.KeyedByName)
    {entity : LoadedEntity} {member : LoadedAttribute} (plain : member.relation = .unexpanded)
    (declared : TreeMember.IsDeclared catalog.definitions ⟨entity.name, member⟩)
    {result : LoadedAttribute} (made : answer (expandOne entity member) catalog = .ok result) :
    ∃ visited, result.toAttribute = member.toAttribute ∧
      ExpandsTree catalog.definitions [] (⟨entity.name, result⟩ :: result.treeBehind) visited := by
  rw [← (sameOn_expandOne refuse (Nat.lt_succ_self _) entity member).answer_eq] at made
  obtain ⟨expanded, expandMade, same⟩ := (answer_bind_eq_ok _ _ _ _).1 made
  obtain rfl := Except.ok.inj same
  have named := named_definitions keyed
  exact ⟨expanded.2, expandsTree_expandAttribute named (consults_iterate_refuse _)
    (makesTrees_iterate_refuse named _) rfl plain declared expandMade⟩

/-- The tables in a tree are join tables of the entities that are defined. -/
theorem mem_of_mem_expandedTables {known : Definitions} {before behind : List String}
    {tree : List TreeMember} (expands : ExpandsTree known before tree behind)
    {tables : Finset String} (inTables : known.JunctionsIn tables) {table : String}
    (isTable : table ∈ expandedTables tree) : table ∈ tables := by
  obtain ⟨member, isMember, target, isJunction, _, targetNamed, rfl⟩ :=
    expands.exists_junction isTable
  obtain ⟨stored, found, named, isDeclared⟩ := expands.declared member isMember
  apply inTables found
  refine List.mem_filterMap.2 ⟨_, isDeclared, ?_⟩
  simp [Attribute.junctionTable?, isJunction, targetNamed, named]

/-- Loading an entity makes a tree in which no join table is expanded twice, and each relationship
carries its target, unless its join table is expanded elsewhere in the tree. -/
theorem loading_expands_each_table_once (catalog : Catalog)
    (keyed : catalog.store.KeyedByName) (name : String) :
    (∀ (below : Expansion) (depth : Nat), catalog.junctionTables.card < depth →
      answer (loadedAbove below depth name) catalog = answer (loadedEntity name) catalog) ∧
    ∀ loaded, answer (loadedEntity name) catalog = .ok loaded →
      (expandedTables loaded.tree).Nodup ∧
      (∀ member ∈ loaded.tree, member.loaded.ExpandedIn catalog.definitions member.owner
        (expandedTables loaded.tree)) ∧
      (expandedTables loaded.tree).length ≤ catalog.junctionTables.card := by
  refine ⟨fun below depth enough => answer_loadedAbove below enough name, ?_⟩
  intro loaded made
  obtain ⟨visited, _, expands⟩ := loadedEntity_spec keyed made
  have visitedPerm := expands.visited_perm
  rw [List.append_nil] at visitedPerm
  have nodup := visitedPerm.nodup_iff.1 (expands.nodup List.nodup_nil)
  refine ⟨nodup, ?_, ?_⟩
  · intro member isMember
    exact (expands.expanded member isMember).mono visitedPerm.subset
  · rw [← List.toFinset_card_of_nodup nodup]
    apply Finset.card_le_card
    intro table isTable
    exact mem_of_mem_expandedTables expands (junctionsIn_junctionTables catalog)
      (List.mem_toFinset.1 isTable)

def post : StoredEntity where
  name := "Post"
  attributes :=
    [.ofColumn "id" .int,
     { field := "author", dataType := .lookup, options := "User" },
     { field := "tags", dataType := .junction, options := "Tag" },
     { field := "replies", dataType := .junction, options := "Post" }]

def tag : StoredEntity where
  name := "Tag"
  attributes :=
    [.ofColumn "id" .int,
     { field := "posts", dataType := .junction, options := "Post" }]

def user : StoredEntity where
  name := "User"
  attributes := [.ofColumn "id" .int]

def forum : Catalog where
  store := .ofEntities [post, tag, user]

theorem keyedByName_forum : forum.store.KeyedByName :=
  Store.keyedByName_ofEntities _

/-- A post is loaded with its tags, their posts, and the replies of these. -/
theorem forum_post_expands_three_tables :
    ∃ loaded, answer (loadedEntity "Post") forum = .ok loaded ∧
      answer (loadedAbove refuse 4 "Post") forum = .ok loaded ∧
      expandedTables loaded.tree = ["post_tag_tags", "tag_post_posts", "post_post_replies"] ∧
      (expandedTables loaded.tree).Nodup ∧
      (∀ member ∈ loaded.tree, member.loaded.ExpandedIn forum.definitions member.owner
        (expandedTables loaded.tree)) ∧
      (expandedTables loaded.tree).length ≤ forum.junctionTables.card := by
  obtain ⟨terminates, succeeds⟩ :=
    loading_expands_each_table_once forum keyedByName_forum "Post"
  have expanded : (answer (loadedEntity "Post") forum).toOption.map
      (fun loaded => expandedTables loaded.tree) =
        some ["post_tag_tags", "tag_post_posts", "post_post_replies"] := by decide +kernel
  have threeTables : forum.junctionTables.card < 4 := by decide +kernel
  cases made : answer (loadedEntity "Post") forum with
  | error refusal => simp [made, Except.toOption] at expanded
  | ok loaded =>
      rw [made] at expanded
      refine ⟨loaded, rfl, ?_, Option.some.inj expanded, succeeds loaded made⟩
      rw [terminates refuse 4 threeTables, made]

end Catalog
end SchemaQuery
