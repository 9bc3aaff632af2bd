import SchemaQuery.Proofs.CatalogDefinitions
import SchemaQuery.Proofs.DictionaryEntries

/-!
# What loading makes of an entity

A loaded entity is a tree: behind an expanded junction stand the attributes of its target.  This
file says what expanding a stored entity makes of it.  The declarations stay as they are.  Each
lookup carries its target as that is stored.  Each junction carries its join table and an
expanded target, or else its join table has been visited; and the tables that have been visited
are those of the tree together with those that had been visited before, each of them once.
-/

namespace SchemaQuery

namespace Entity

/-- The declaration of a loaded entity, without what its attributes carry. -/
def declared (entity : LoadedEntity) : StoredEntity :=
  { entity with attributes := entity.attributes.map (·.toAttribute) }

@[simp]
theorem declared_load (stored : StoredEntity) : stored.load.declared = stored := by
  have same : stored.load.attributes.map (·.toAttribute) = stored.attributes := by
    simp [load, Attribute.load, Function.comp_def]
  unfold declared
  rw [same]
  rfl

theorem relation_of_mem_load {stored : StoredEntity} {member : LoadedAttribute}
    (isMember : member ∈ stored.load.attributes) : member.relation = .unexpanded := by
  obtain ⟨_, _, rfl⟩ := List.mem_map.1 isMember
  rfl

end Entity

theorem LoadedAttribute.isLoaded_of_plain {loaded : LoadedAttribute}
    (plain : loaded.relation = .unexpanded) :
    loaded.isLoaded = !loaded.dataType.isCompound := by
  unfold isLoaded
  rw [plain]
  cases loaded.dataType <;> rfl

/-- An attribute in a tree, with the name of its own entity. -/
structure TreeMember where
  owner : String
  loaded : LoadedAttribute

mutual

/-- The attributes in the tree behind a junction. -/
def LoadedAttribute.treeBehind : LoadedAttribute → List TreeMember
  | ⟨_, _, relation⟩ => Relation.treeBehind relation

def Relation.treeBehind : Relation LoadedAttribute → List TreeMember
  | .unexpanded => []
  | .lookup _ => []
  | .junction link => Junction.treeBehind link

def Junction.treeBehind : Junction LoadedAttribute → List TreeMember
  | ⟨_, _, _, _, target⟩ => Entity.tree target

/-- The attributes of a loaded entity and of all targets of junctions in it. -/
def Entity.tree : LoadedEntity → List TreeMember
  | ⟨name, _, _, _, _, attributes⟩ => treeOfEach name attributes

def treeOfEach : String → List LoadedAttribute → List TreeMember
  | _, [] => []
  | owner, loaded :: rest =>
      ⟨owner, loaded⟩ :: (loaded.treeBehind ++ treeOfEach owner rest)

end

theorem Entity.tree_eq (entity : LoadedEntity) :
    entity.tree = treeOfEach entity.name entity.attributes := by
  cases entity
  rfl

theorem LoadedAttribute.link?_of_junction {loaded : LoadedAttribute}
    {link : Junction LoadedAttribute} (carries : loaded.relation = .junction link) :
    loaded.link? = some link := by
  unfold link?
  rw [carries]

theorem LoadedAttribute.link?_of_unexpanded {loaded : LoadedAttribute}
    (plain : loaded.relation = .unexpanded) : loaded.link? = none := by
  unfold link?
  rw [plain]

theorem LoadedAttribute.treeBehind_of_link {loaded : LoadedAttribute}
    {link : Junction LoadedAttribute} (carries : loaded.relation = .junction link) :
    loaded.treeBehind = link.target.tree := by
  obtain ⟨declared, tableName, relation⟩ := loaded
  obtain ⟨table, source, sourceColumn, targetColumn, target⟩ := link
  obtain rfl := carries
  rfl

theorem LoadedAttribute.treeBehind_of_noLink {loaded : LoadedAttribute}
    (carries : loaded.link? = none) : loaded.treeBehind = [] := by
  obtain ⟨declared, tableName, relation⟩ := loaded
  cases relation with
  | unexpanded => rfl
  | lookup target => rfl
  | junction link => simp [link?] at carries

/-- The tree of an entity holds what stands behind each of its attributes. -/
theorem Entity.subset_tree {entity : LoadedEntity} {loaded : LoadedAttribute}
    (isMember : loaded ∈ entity.attributes) :
    ⟨entity.name, loaded⟩ :: loaded.treeBehind ⊆ entity.tree := by
  rw [Entity.tree_eq]
  generalize entity.attributes = members at isMember
  intro inner isInner
  induction members with
  | nil => exact absurd isMember List.not_mem_nil
  | cons first rest hypothesis =>
      unfold treeOfEach
      rw [← List.cons_append, List.mem_append]
      rcases List.mem_cons.1 isMember with rfl | later
      · exact Or.inl isInner
      · exact Or.inr (hypothesis later)

theorem Entity.tree_load (stored : StoredEntity) :
    stored.load.tree = stored.load.attributes.map (TreeMember.mk stored.load.name) := by
  rw [Entity.tree_eq]
  have plain : ∀ loaded ∈ stored.load.attributes, loaded.relation = .unexpanded :=
    fun _ isMember => relation_of_mem_load isMember
  generalize stored.load.attributes = members at plain
  induction members with
  | nil => rfl
  | cons first rest hypothesis =>
      have noLink := LoadedAttribute.link?_of_unexpanded (plain first List.mem_cons_self)
      unfold treeOfEach
      rw [LoadedAttribute.treeBehind_of_noLink noLink, List.nil_append,
        hypothesis fun loaded isMember => plain loaded (List.mem_cons_of_mem _ isMember)]
      rfl

/-- The join tables of the expanded junctions in a tree. -/
def expandedTables (tree : List TreeMember) : List String :=
  tree.filterMap fun member => member.loaded.link?.map (·.tableName)

@[simp]
theorem expandedTables_append (first second : List TreeMember) :
    expandedTables (first ++ second) = expandedTables first ++ expandedTables second :=
  List.filterMap_append

theorem expandedTables_cons_of_link {owner : String} {loaded : LoadedAttribute}
    {link : Junction LoadedAttribute} (carries : loaded.relation = .junction link)
    (rest : List TreeMember) :
    expandedTables (⟨owner, loaded⟩ :: rest) = link.tableName :: expandedTables rest := by
  simp [expandedTables, LoadedAttribute.link?, carries]

theorem expandedTables_cons_of_noLink {owner : String} {loaded : LoadedAttribute}
    (carries : loaded.link? = none) (rest : List TreeMember) :
    expandedTables (⟨owner, loaded⟩ :: rest) = expandedTables rest := by
  simp [expandedTables, carries]

open Catalog (Definitions Consults Expansion answer)

/-- Whether an attribute is expanded as far as it should be behind visited tables. -/
inductive LoadedAttribute.ExpandedIn (known : Definitions) (owner : String)
    (visited : List String) (loaded : LoadedAttribute) : Prop
  | scalar (isScalar : loaded.dataType.isCompound = false)
      (plain : loaded.relation = .unexpanded)
  | lookup {target : String} {stored : StoredEntity} (isLookup : loaded.dataType = .lookup)
      (named : loaded.targetName? = some target) (found : known target = .ok stored)
      (carries : loaded.relation = .lookup stored.load)
  | junction {target : String} {link : Junction LoadedAttribute}
      (isJunction : loaded.dataType = .junction)
      (named : loaded.targetName? = some target)
      (found : known target = .ok link.target.declared)
      (tableName : link.tableName = junctionTableName owner target loaded.field)
      (columns : (link.sourceColumn, link.targetColumn) = Junction.columnsBetween owner target)
      (carries : loaded.relation = .junction link)
  | visitedBefore {target : String} (isJunction : loaded.dataType = .junction)
      (named : loaded.targetName? = some target)
      (isVisited : junctionTableName owner target loaded.field ∈ visited)
      (plain : loaded.relation = .unexpanded)

theorem LoadedAttribute.ExpandedIn.mono {known : Definitions} {owner : String}
    {first second : List String} {loaded : LoadedAttribute}
    (expanded : loaded.ExpandedIn known owner first) (grows : first ⊆ second) :
    loaded.ExpandedIn known owner second := by
  cases expanded with
  | scalar isScalar plain => exact .scalar isScalar plain
  | lookup isLookup named found carries => exact .lookup isLookup named found carries
  | junction isJunction named found tableName columns carries =>
      exact .junction isJunction named found tableName columns carries
  | visitedBefore isJunction named isVisited plain =>
      exact .visitedBefore isJunction named (grows isVisited) plain

/-- A compound attribute is expanded, unless it is a junction with a visited table. -/
theorem LoadedAttribute.ExpandedIn.isLoaded_or_visited {known : Definitions} {owner : String}
    {visited : List String} {loaded : LoadedAttribute}
    (expanded : loaded.ExpandedIn known owner visited)
    (isCompound : loaded.dataType.isCompound = true) :
    loaded.isLoaded = true ∨ loaded.relation = .unexpanded ∧
      ∃ target, junctionTableName owner target loaded.field ∈ visited := by
  cases expanded with
  | scalar isScalar plain => exact absurd (isScalar.symm.trans isCompound) (by decide)
  | lookup isLookup named found carries => exact Or.inl (by simp [isLoaded, isLookup, carries])
  | junction isJunction named found tableName columns carries =>
      exact Or.inl (by simp [isLoaded, isJunction, carries])
  | visitedBefore isJunction named isVisited plain => exact Or.inr ⟨plain, _, isVisited⟩

/-- Whether an attribute in a tree is declared in the entity that it belongs to. -/
def TreeMember.IsDeclared (known : Definitions) (member : TreeMember) : Prop :=
  ∃ stored, known member.owner = .ok stored ∧ stored.name = member.owner ∧
    member.loaded.toAttribute ∈ stored.attributes

/-- Expanding a part of a tree visits just the join tables of the part. -/
structure ExpandsTree (known : Definitions) (before : List String) (tree : List TreeMember)
    (behind : List String) : Prop where
  visited_perm : behind.Perm (expandedTables tree ++ before)
  nodup : before.Nodup → behind.Nodup
  declared : ∀ member ∈ tree, member.IsDeclared known
  expanded : ∀ member ∈ tree, member.loaded.ExpandedIn known member.owner behind

namespace ExpandsTree

variable {known : Definitions} {before between behind : List String}
  {first second : List TreeMember}

theorem nil : ExpandsTree known before [] before where
  visited_perm := List.Perm.refl before
  nodup given := given
  declared := by simp
  expanded := by simp

theorem subset (expands : ExpandsTree known before first behind) : before ⊆ behind := by
  intro table visited
  exact expands.visited_perm.mem_iff.2 (List.mem_append_right _ visited)

theorem append (expandsFirst : ExpandsTree known before first between)
    (expandsSecond : ExpandsTree known between second behind) :
    ExpandsTree known before (first ++ second) behind where
  visited_perm := by
    have reordered : (expandedTables second ++ (expandedTables first ++ before)).Perm
        (expandedTables first ++ expandedTables second ++ before) := by
      rw [← List.append_assoc]
      exact List.perm_append_comm.append_right before
    rw [expandedTables_append]
    exact (expandsSecond.visited_perm.trans
      (expandsFirst.visited_perm.append_left _)).trans reordered
  nodup given := expandsSecond.nodup (expandsFirst.nodup given)
  declared member isMember := by
    rcases List.mem_append.1 isMember with inFirst | inSecond
    · exact expandsFirst.declared member inFirst
    · exact expandsSecond.declared member inSecond
  expanded member isMember := by
    rcases List.mem_append.1 isMember with inFirst | inSecond
    · exact (expandsFirst.expanded member inFirst).mono expandsSecond.subset
    · exact expandsSecond.expanded member inSecond

/-- An attribute that carries no junction visits nothing. -/
theorem single {owner : String} {loaded : LoadedAttribute}
    (carries : loaded.link? = none) (declared : TreeMember.IsDeclared known ⟨owner, loaded⟩)
    (expanded : loaded.ExpandedIn known owner before) :
    ExpandsTree known before (⟨owner, loaded⟩ :: loaded.treeBehind) before where
  visited_perm := by
    rw [LoadedAttribute.treeBehind_of_noLink carries, expandedTables_cons_of_noLink carries]
    exact List.Perm.refl before
  nodup given := given
  declared member isMember := by
    rw [LoadedAttribute.treeBehind_of_noLink carries, List.mem_singleton] at isMember
    exact isMember ▸ declared
  expanded member isMember := by
    rw [LoadedAttribute.treeBehind_of_noLink carries, List.mem_singleton] at isMember
    exact isMember ▸ expanded

/-- A junction visits its join table, and then what its target does. -/
theorem link {owner : String} {loaded : LoadedAttribute} {link : Junction LoadedAttribute}
    (carries : loaded.relation = .junction link) (isNew : link.tableName ∉ before)
    (expands : ExpandsTree known (link.tableName :: before) link.target.tree behind)
    (declared : TreeMember.IsDeclared known ⟨owner, loaded⟩)
    (expanded : loaded.ExpandedIn known owner behind) :
    ExpandsTree known before (⟨owner, loaded⟩ :: loaded.treeBehind) behind where
  visited_perm := by
    rw [LoadedAttribute.treeBehind_of_link carries, expandedTables_cons_of_link carries]
    exact expands.visited_perm.trans List.perm_middle
  nodup given := expands.nodup (List.nodup_cons.2 ⟨isNew, given⟩)
  declared member isMember := by
    rw [LoadedAttribute.treeBehind_of_link carries] at isMember
    rcases List.mem_cons.1 isMember with rfl | inTarget
    · exact declared
    · exact expands.declared member inTarget
  expanded member isMember := by
    rw [LoadedAttribute.treeBehind_of_link carries] at isMember
    rcases List.mem_cons.1 isMember with rfl | inTarget
    · exact expanded
    · exact expands.expanded member inTarget

/-- Each join table in a tree is that of an expanded junction there. -/
theorem exists_junction (expands : ExpandsTree known before first behind) {table : String}
    (isTable : table ∈ expandedTables first) :
    ∃ member ∈ first, ∃ target, member.loaded.dataType = .junction ∧
      member.loaded.isLoaded = true ∧ member.loaded.targetName? = some target ∧
      junctionTableName member.owner target member.loaded.field = table := by
  obtain ⟨member, isMember, carried⟩ := List.mem_filterMap.1 isTable
  obtain ⟨link, carries, sameTable⟩ := Option.map_eq_some_iff.1 carried
  cases expands.expanded member isMember with
  | scalar isScalar plain => simp [LoadedAttribute.link?, plain] at carries
  | lookup isLookup named found relation => simp [LoadedAttribute.link?, relation] at carries
  | visitedBefore isJunction named isVisited plain =>
      simp [LoadedAttribute.link?, plain] at carries
  | junction isJunction named found tableName columns relation =>
      obtain rfl : _ = link := by simpa [LoadedAttribute.link?, relation] using carries
      have isLoaded : member.loaded.isLoaded = true := by
        simp [LoadedAttribute.isLoaded, isJunction, relation]
      exact ⟨member, isMember, _, isJunction, isLoaded, named, tableName.symm.trans sameTable⟩

end ExpandsTree

namespace Catalog

variable {expandTarget : Expansion} {owner : String} {member : LoadedAttribute}
  {visited : List String} {catalog : Catalog}

theorem consults_expandLookup (member : LoadedAttribute) : Consults (expandLookup member) := by
  unfold expandLookup
  split
  · exact Consults.pure member
  · split
    · exact Consults.throw _
    · exact Consults.bind ((consults_entity _).adapt _) fun _ => Consults.pure _

section Consulting

variable (consults : ∀ entity visited, Consults (expandTarget entity visited))

include consults

theorem consults_expandJunction (owner : String) (member : LoadedAttribute)
    (visited : List String) :
    Consults (expandJunction expandTarget owner member visited) := by
  unfold expandJunction
  split
  · exact Consults.pure _
  · split
    · exact Consults.throw _
    · dsimp only
      split
      · exact Consults.pure _
      · apply Consults.bind ((consults_entity _).adapt _)
        intro stored
        exact Consults.bind (consults _ _) fun _ => Consults.pure _

theorem consults_expandAttribute (owner : String) (member : LoadedAttribute)
    (visited : List String) :
    Consults (expandAttribute expandTarget owner member visited) := by
  unfold expandAttribute
  split
  · exact Consults.bind (consults_expandLookup member) fun _ => Consults.pure _
  · exact consults_expandJunction consults owner member visited
  · exact Consults.pure _

theorem consults_expandAttributes (owner : String) (members : List LoadedAttribute)
    (visited : List String) :
    Consults (expandAttributes expandTarget owner members visited) := by
  induction members generalizing visited with
  | nil => exact Consults.pure _
  | cons member rest hypothesis =>
      unfold expandAttributes
      apply Consults.bind (consults_expandAttribute consults owner member visited)
      intro expanded
      exact Consults.bind (hypothesis _) fun _ => Consults.pure _

end Consulting

theorem expandLookup_eq_ok (plain : member.relation = .unexpanded) (result : LoadedAttribute) :
    answer (expandLookup member) catalog = .ok result ↔
      ∃ target stored, member.targetName? = some target ∧
        catalog.definitions target = .ok stored ∧
        result = { member with relation := .lookup stored.load } := by
  unfold expandLookup
  rw [plain]
  cases member.targetName? with
  | none => simp
  | some target =>
      simp only [answer_bind_eq_ok, answer_adapt, Success.mapError_eq_ok, answer_pure,
        Except.ok.injEq]
      simp [definitions, eq_comm]

theorem expandJunction_eq_ok (consults : ∀ entity visited, Consults (expandTarget entity visited))
    (plain : member.relation = .unexpanded) (result : LoadedAttribute × List String) :
    answer (expandJunction expandTarget owner member visited) catalog = .ok result ↔
      ∃ target, member.targetName? = some target ∧
        (junctionTableName owner target member.field ∈ visited ∧ result = (member, visited) ∨
          junctionTableName owner target member.field ∉ visited ∧
            ∃ stored expanded, catalog.definitions target = .ok stored ∧
              answer (expandTarget stored.load
                (junctionTableName owner target member.field :: visited)) catalog =
                  .ok expanded ∧
              result =
                ({ member with relation := .junction (.between owner expanded.1 member.field) },
                  expanded.2)) := by
  unfold expandJunction
  rw [plain]
  cases member.targetName? with
  | none => simp
  | some target =>
      dsimp only
      by_cases isVisited : junctionTableName owner target member.field ∈ visited
      · rw [if_pos isVisited]
        simp [isVisited, eq_comm]
      · rw [if_neg isVisited, Consults.answer_bind ((consults_entity _).adapt _) fun stored =>
          Consults.bind (consults _ _) fun _ => Consults.pure _]
        simp only [Success.bind_eq_ok, answer_adapt, Success.mapError_eq_ok, answer_bind_eq_ok]
        simp [definitions, isVisited, eq_comm]

theorem expandAttributes_cons_eq_ok
    (consults : ∀ entity visited, Consults (expandTarget entity visited))
    (rest : List LoadedAttribute) (result : List LoadedAttribute × List String) :
    answer (expandAttributes expandTarget owner (member :: rest) visited) catalog = .ok result ↔
      ∃ first others,
        answer (expandAttribute expandTarget owner member visited) catalog = .ok first ∧
        answer (expandAttributes expandTarget owner rest first.2) catalog = .ok others ∧
        result = (first.1 :: others.1, others.2) := by
  rw [expandAttributes, Consults.answer_bind (consults_expandAttribute consults _ _ _)
    fun first => Consults.bind (consults_expandAttributes consults _ _ _) fun _ =>
      Consults.pure _]
  simp only [Success.bind_eq_ok, answer_bind_eq_ok]
  simp [eq_comm]

end Catalog
end SchemaQuery
