import Mathlib.Data.Finset.Card
import Mathlib.Logic.Function.Iterate
import SchemaQuery.Path
import SchemaQuery.Proofs.ExpansionTree

/-!
# How deep expanding goes

Each step down to the target of a junction visits a join table that has not been visited before.
So expanding goes no deeper than there are join tables in the schema, and what it does depends
neither on the depth that it is allowed, as long as that is more, nor on what would be done
further down.  Expanding and resolving paths therefore consult definitions alone, although the
depth that they allow is counted from everything that the catalog holds.
-/

namespace SchemaQuery

def Attribute.junctionTable? (owner : String) (declared : Attribute) : Option String :=
  if declared.dataType = .junction then
    declared.targetName?.map fun target => junctionTableName owner target declared.field
  else none

def Entity.junctionTables (entity : StoredEntity) : List String :=
  entity.attributes.filterMap (Attribute.junctionTable? entity.name)

theorem Entity.length_junctionTables_le (entity : StoredEntity) :
    entity.junctionTables.length ≤ Catalog.junctionCount entity := by
  unfold junctionTables Catalog.junctionCount
  rw [List.length_filterMap_eq_countP]
  apply List.countP_mono_left
  intro member _ hasTable
  by_cases isJunction : member.dataType = .junction
  · simp [Declared.declaration, isJunction]
  · simp [Attribute.junctionTable?, isJunction] at hasTable

namespace Catalog

variable {ε ε' α β : Type}

def schema (catalog : Catalog) : List StoredEntity :=
  (snapshot catalog).1 ++ catalog.store.toList

/-- The join tables of all junctions in the schema of a catalog. -/
def junctionTables (catalog : Catalog) : Finset String :=
  (catalog.schema.flatMap (·.junctionTables)).toFinset

theorem mem_schema {catalog : Catalog} {name : String} {stored : StoredEntity}
    (found : catalog.definitions name = .ok stored) : stored ∈ catalog.schema := by
  rw [definitions_eq] at found
  split at found
  · simp at found
  · unfold schema
    rw [List.mem_append]
    cases inSnapshot : (snapshot catalog).1.find? fun candidate => candidate.name == name with
    | some first =>
        rw [inSnapshot] at found
        obtain rfl := Except.ok.inj found
        exact Or.inl (List.mem_of_find?_eq_some inSnapshot)
    | none =>
        rw [inSnapshot] at found
        dsimp only at found
        cases inStore : catalog.store.entities.get? name with
        | none => simp [inStore] at found
        | some first =>
            rw [inStore] at found
            obtain rfl := Except.ok.inj found
            exact Or.inr (List.mem_map_of_mem (Dictionary.mem_of_get? inStore))

def Definitions.JunctionsIn (known : Definitions) (tables : Finset String) : Prop :=
  ∀ ⦃name stored⦄, known name = .ok stored → ∀ table ∈ stored.junctionTables, table ∈ tables

theorem junctionsIn_junctionTables (catalog : Catalog) :
    catalog.definitions.JunctionsIn catalog.junctionTables := by
  intro name stored found table isTable
  rw [junctionTables, List.mem_toFinset, List.mem_flatMap]
  exact ⟨stored, mem_schema found, isTable⟩

theorem Definitions.JunctionsIn.inter {known : Definitions} {first second : Finset String}
    (inFirst : known.JunctionsIn first) (inSecond : known.JunctionsIn second) :
    known.JunctionsIn (first ∩ second) := by
  intro name stored found table isTable
  exact Finset.mem_inter.2 ⟨inFirst found table isTable, inSecond found table isTable⟩

def unvisited (tables : Finset String) (visited : List String) : Finset String :=
  tables \ visited.toFinset

theorem mem_unvisited {tables : Finset String} {visited : List String} {table : String} :
    table ∈ unvisited tables visited ↔ table ∈ tables ∧ table ∉ visited := by
  simp [unvisited]

theorem card_unvisited_le (tables : Finset String) (visited : List String) :
    (unvisited tables visited).card ≤ tables.card :=
  Finset.card_le_card Finset.sdiff_subset

theorem card_unvisited_mono (tables : Finset String) {first second : List String}
    (grows : first ⊆ second) :
    (unvisited tables second).card ≤ (unvisited tables first).card := by
  apply Finset.card_le_card
  intro table isLeft
  obtain ⟨isTable, isNew⟩ := mem_unvisited.1 isLeft
  exact mem_unvisited.2 ⟨isTable, fun isVisited => isNew (grows isVisited)⟩

theorem card_unvisited_cons_lt {tables : Finset String} {visited : List String} {table : String}
    (isTable : table ∈ tables) (isNew : table ∉ visited) :
    (unvisited tables (table :: visited)).card < (unvisited tables visited).card := by
  apply Finset.card_lt_card
  rw [Finset.ssubset_iff_of_subset]
  · exact ⟨table, mem_unvisited.2 ⟨isTable, isNew⟩, by simp [mem_unvisited]⟩
  · intro other isLeft
    obtain ⟨isOther, notLater⟩ := mem_unvisited.1 isLeft
    exact mem_unvisited.2 ⟨isOther, fun isVisited => notLater (List.mem_cons_of_mem _ isVisited)⟩

/-- Whether two pieces of work answer and leave the same on a catalog. -/
def SameOn (catalog : Catalog) (first second : CatalogM ε α) : Prop :=
  first.run.run catalog = second.run.run catalog

theorem SameOn.refl (catalog : Catalog) (work : CatalogM ε α) : SameOn catalog work work :=
  Eq.refl _

theorem SameOn.answer_eq {catalog : Catalog} {first second : CatalogM ε α}
    (same : SameOn catalog first second) : answer first catalog = answer second catalog :=
  congrArg Prod.fst same

theorem SameOn.after_eq {catalog : Catalog} {first second : CatalogM ε α}
    (same : SameOn catalog first second) : after first catalog = after second catalog :=
  congrArg Prod.snd same

theorem sameOn_iff (catalog : Catalog) (first second : CatalogM ε α) :
    SameOn catalog first second ↔
      answer first catalog = answer second catalog ∧ after first catalog = after second catalog :=
  Prod.ext_iff

theorem SameOn.bind {catalog : Catalog} {first second : CatalogM ε α}
    {firstNext secondNext : α → CatalogM ε β} (same : SameOn catalog first second)
    (later : ∀ value, answer second catalog = .ok value →
      SameOn (after second catalog) (firstNext value) (secondNext value)) :
    SameOn catalog (first >>= firstNext) (second >>= secondNext) := by
  rw [sameOn_iff, answer_bind, answer_bind, after_bind, after_bind, same.answer_eq,
    same.after_eq]
  cases answered : answer second catalog with
  | error failure => exact ⟨rfl, rfl⟩
  | ok value => exact ⟨(later value answered).answer_eq, (later value answered).after_eq⟩

def expandEntity (expandTarget : Expansion) : Expansion := fun entity visited => do
  let (attributes, visited) ←
    expandAttributes expandTarget entity.name entity.attributes visited
  return ({ entity with attributes }, visited)

theorem expandWithin_eq_iterate (depth : Nat) :
    expandWithin depth = expandEntity^[depth] fun entity visited => pure (entity, visited) := by
  induction depth with
  | zero => rfl
  | succ depth hypothesis =>
      rw [Function.iterate_succ_apply', ← hypothesis]
      rfl

/-- Whether what is visited after expanding includes what was visited before. -/
def Expansion.Grows (expansion : Expansion) : Prop :=
  ∀ ⦃entity visited catalog result⦄,
    answer (expansion entity visited) catalog = .ok result → visited ⊆ result.2

section Growing

variable {expandTarget : Expansion} (grows : expandTarget.Grows)

include grows

theorem subset_of_expandAttribute {owner : String} {member : LoadedAttribute}
    {visited : List String} {catalog : Catalog} {result : LoadedAttribute × List String}
    (expanded : answer (expandAttribute expandTarget owner member visited) catalog =
      .ok result) : visited ⊆ result.2 := by
  unfold expandAttribute at expanded
  split at expanded
  · obtain ⟨found, _, same⟩ := (answer_bind_eq_ok _ _ _ _).1 expanded
    obtain rfl := Except.ok.inj same
    exact List.Subset.refl visited
  · unfold expandJunction at expanded
    split at expanded
    · obtain rfl := Except.ok.inj expanded
      exact List.Subset.refl visited
    · split at expanded
      · simp at expanded
      · dsimp only at expanded
        split at expanded
        · obtain rfl := Except.ok.inj expanded
          exact List.Subset.refl visited
        · obtain ⟨stored, _, made⟩ := (answer_bind_eq_ok _ _ _ _).1 expanded
          obtain ⟨target, targetMade, same⟩ := (answer_bind_eq_ok _ _ _ _).1 made
          obtain rfl := Except.ok.inj same
          exact List.Subset.trans (List.subset_cons_self _ visited) (grows targetMade)
  · obtain rfl := Except.ok.inj expanded
    exact List.Subset.refl visited

theorem subset_of_expandAttributes {owner : String} {members : List LoadedAttribute}
    {visited : List String} {catalog : Catalog} {result : List LoadedAttribute × List String}
    (expanded : answer (expandAttributes expandTarget owner members visited) catalog =
      .ok result) : visited ⊆ result.2 := by
  induction members generalizing visited catalog result with
  | nil =>
      obtain rfl := Except.ok.inj expanded
      exact List.Subset.refl visited
  | cons member rest hypothesis =>
      unfold expandAttributes at expanded
      obtain ⟨first, firstMade, expanded⟩ := (answer_bind_eq_ok _ _ _ _).1 expanded
      obtain ⟨others, othersMade, same⟩ := (answer_bind_eq_ok _ _ _ _).1 expanded
      obtain rfl := Except.ok.inj same
      have grown := hypothesis othersMade
      exact List.Subset.trans (subset_of_expandAttribute grows firstMade) grown

theorem Expansion.Grows.expandEntity : (expandEntity expandTarget).Grows := by
  intro entity visited catalog result expanded
  obtain ⟨others, made, same⟩ := (answer_bind_eq_ok _ _ _ _).1 expanded
  obtain rfl := Except.ok.inj same
  exact subset_of_expandAttributes grows made

end Growing

theorem grows_expandWithin (depth : Nat) : (expandWithin depth).Grows := by
  induction depth with
  | zero =>
      intro entity visited catalog result expanded
      obtain rfl := Except.ok.inj expanded
      exact List.Subset.refl visited
  | succ depth hypothesis => exact hypothesis.expandEntity

theorem consults_expandEntity {expandTarget : Expansion}
    (consults : ∀ entity visited, Consults (expandTarget entity visited))
    (entity : LoadedEntity) (visited : List String) :
    Consults (expandEntity expandTarget entity visited) :=
  Consults.bind (consults_expandAttributes consults _ _ _) fun _ => Consults.pure _

theorem consults_expandWithin (depth : Nat) (entity : LoadedEntity) (visited : List String) :
    Consults (expandWithin depth entity visited) := by
  induction depth generalizing entity visited with
  | zero => exact Consults.pure _
  | succ depth hypothesis => exact consults_expandEntity hypothesis entity visited

/-- Whether two ways to expand agree where fewer than so many tables are left to visit. -/
def SameBelow (known : Definitions) (tables : Finset String) (bound : Nat)
    (first second : Expansion) : Prop :=
  ∀ ⦃catalog name stored visited⦄, catalog.definitions = known → known name = .ok stored →
    (unvisited tables visited).card < bound →
    SameOn catalog (first stored.load visited) (second stored.load visited)

section SameTargets

variable {known : Definitions} {tables : Finset String} {bound : Nat}
  {first second : Expansion} (same : SameBelow known tables bound first second)

include same

theorem SameBelow.expandAttribute {owner : String} {member : LoadedAttribute}
    {visited : List String} {catalog : Catalog} (defined : catalog.definitions = known)
    (below : ∀ table, member.junctionTable? owner = some table → table ∉ visited →
      (unvisited tables (table :: visited)).card < bound) :
    SameOn catalog (expandAttribute first owner member visited)
      (expandAttribute second owner member visited) := by
  unfold Catalog.expandAttribute
  split
  · exact SameOn.refl _ _
  · rename_i isJunction
    unfold expandJunction
    split
    · exact SameOn.refl _ _
    · cases named : member.targetName? with
      | none => exact SameOn.refl _ _
      | some target =>
          dsimp only
          split
          · exact SameOn.refl _ _
          · rename_i isNew
            apply SameOn.bind (SameOn.refl _ _)
            intro stored found
            rw [answer_adapt, Success.mapError_eq_ok] at found
            have kept := (consults_entity target).keeps catalog
            apply SameOn.bind
            · apply same (kept.trans defined) ((congrFun defined target).symm.trans found)
              apply below _ _ isNew
              simp [Attribute.junctionTable?, isJunction, named]
            · intro expanded _
              exact SameOn.refl _ _
  · exact SameOn.refl _ _

theorem SameBelow.expandAttributes (grows : second.Grows)
    (consults : ∀ entity visited, Consults (second entity visited)) {owner : String}
    {members : List LoadedAttribute} {visited : List String} {catalog : Catalog}
    (defined : catalog.definitions = known)
    (below : ∀ member ∈ members, ∀ table, member.junctionTable? owner = some table →
      ∀ later, visited ⊆ later → table ∉ later →
        (unvisited tables (table :: later)).card < bound) :
    SameOn catalog (expandAttributes first owner members visited)
      (expandAttributes second owner members visited) := by
  induction members generalizing visited catalog with
  | nil => exact SameOn.refl _ _
  | cons member rest hypothesis =>
      unfold Catalog.expandAttributes
      apply SameOn.bind
      · apply same.expandAttribute defined
        intro table isTable
        exact below member List.mem_cons_self table isTable visited (List.Subset.refl visited)
      · intro expanded made
        have grown := subset_of_expandAttribute grows made
        apply SameOn.bind
        · apply hypothesis
          · exact ((consults_expandAttribute consults _ _ _).keeps catalog).trans defined
          · intro other isOther table isTable later grows
            exact below other (List.mem_cons_of_mem _ isOther) table isTable later
              (List.Subset.trans grown grows)
        · intro others _
          exact SameOn.refl _ _

/-- One more step is allowed for one more table. -/
theorem SameBelow.expandEntity (inTables : known.JunctionsIn tables) (grows : second.Grows)
    (consults : ∀ entity visited, Consults (second entity visited)) :
    SameBelow known tables (bound + 1) (Catalog.expandEntity first)
      (Catalog.expandEntity second) := by
  intro catalog name stored visited defined found below
  apply SameOn.bind
  · apply same.expandAttributes grows consults defined
    intro member isMember table isTable later grows isNew
    have isJunction : table ∈ stored.junctionTables := by
      obtain ⟨declared, isDeclared, rfl⟩ := List.mem_map.1 isMember
      exact List.mem_filterMap.2 ⟨declared, isDeclared, isTable⟩
    have fewer := card_unvisited_cons_lt (inTables found table isJunction) isNew
    have atMost := card_unvisited_mono tables grows
    omega
  · intro expanded _
    exact SameOn.refl _ _

/-- With a bound above all tables, it does not matter what has been visited. -/
theorem SameBelow.expandAttributes_of_card_lt (grows : second.Grows)
    (consults : ∀ entity visited, Consults (second entity visited))
    (enough : tables.card < bound) (owner : String) (members : List LoadedAttribute)
    (visited : List String) {catalog : Catalog} (defined : catalog.definitions = known) :
    SameOn catalog (Catalog.expandAttributes first owner members visited)
      (Catalog.expandAttributes second owner members visited) := by
  apply same.expandAttributes grows consults defined
  intro _ _ table _ later _ _
  exact (card_unvisited_le tables (table :: later)).trans_lt enough

end SameTargets

/-- Expanding to two depths does the same, if both are enough. -/
theorem sameBelow_iterate {known : Definitions} {tables : Finset String}
    (inTables : known.JunctionsIn tables) (below : Expansion) {bound depth : Nat}
    (more : bound ≤ depth) {other : Nat} (otherMore : bound ≤ other) :
    SameBelow known tables bound (expandEntity^[depth] below) (expandWithin other) := by
  induction bound generalizing depth other with
  | zero =>
      intro catalog name stored visited _ _ isLeft
      exact absurd isLeft (Nat.not_lt_zero _)
  | succ bound hypothesis =>
      obtain ⟨depth, rfl⟩ := Nat.exists_eq_add_of_le' (Nat.zero_lt_of_lt more)
      obtain ⟨other, rfl⟩ := Nat.exists_eq_add_of_le' (Nat.zero_lt_of_lt otherMore)
      rw [Function.iterate_succ_apply']
      exact (hypothesis (Nat.le_of_succ_le_succ more)
        (Nat.le_of_succ_le_succ otherMore)).expandEntity inTables (grows_expandWithin other)
          (consults_expandWithin other)

/-- The entities in the store of a catalog, and in its cache under any key. -/
def held (catalog : Catalog) : List StoredEntity :=
  catalog.store.toList ++ catalog.cache.entries.flatMap fun entry => entry.2.value

theorem schema_subset_held (catalog : Catalog) : catalog.schema ⊆ catalog.held := by
  unfold schema held
  apply List.append_subset.2
  refine ⟨?_, List.subset_append_left _ _⟩
  unfold snapshot Cache.probe
  cases found : catalog.cache.entries.get? catalog.cacheKey with
  | none => exact List.subset_append_left _ _
  | some entry =>
      dsimp only
      cases catalog.cache.isFresh entry with
      | false => exact List.subset_append_left _ _
      | true =>
          intro stored isCached
          apply List.mem_append_right
          exact List.mem_flatMap.2 ⟨_, Dictionary.mem_of_get? found, isCached⟩

theorem length_flatMap_junctionTables_le (known : List StoredEntity) (start : Nat) :
    start + (known.flatMap (·.junctionTables)).length ≤
      known.foldl (fun count stored => count + junctionCount stored) start := by
  induction known generalizing start with
  | nil => exact Nat.le_refl start
  | cons first rest hypothesis =>
      have here := first.length_junctionTables_le
      have behind := hypothesis (start + junctionCount first)
      rw [List.flatMap_cons, List.length_append, List.foldl_cons]
      omega

/-- The depth that expanding is allowed is more than there are join tables. -/
theorem card_junctionTables_lt_depthBound (catalog : Catalog) (entity : LoadedEntity) :
    catalog.junctionTables.card + 1 < depthBound catalog entity := by
  have few : catalog.junctionTables.card ≤ (catalog.held.flatMap (·.junctionTables)).length := by
    refine le_trans (Finset.card_le_card ?_) (List.toFinset_card_le _)
    intro table isTable
    rw [junctionTables, List.mem_toFinset] at isTable
    rw [List.mem_toFinset]
    obtain ⟨stored, isKnown, isJunction⟩ := List.mem_flatMap.1 isTable
    exact List.mem_flatMap.2 ⟨stored, schema_subset_held catalog isKnown, isJunction⟩
  have bounded := length_flatMap_junctionTables_le catalog.held (junctionCount entity + 2)
  unfold depthBound
  change _ < catalog.held.foldl _ _
  omega

/-- Expanding an attribute never gets deeper than there are join tables. -/
theorem sameOn_expandOne (below : Expansion) {depth : Nat} {catalog : Catalog}
    (enough : catalog.junctionTables.card < depth) (entity : LoadedEntity)
    (member : LoadedAttribute) :
    SameOn catalog
      (expandAttribute (expandEntity^[depth] below) entity.name member [] >>=
        fun expanded => pure expanded.1)
      (expandOne entity member) := by
  unfold expandOne
  change SameOn catalog _
    (expandAttribute (expandWithin (depthBound catalog entity)) entity.name member [] >>= _)
  have allowed := card_junctionTables_lt_depthBound catalog entity
  have same := sameBelow_iterate (junctionsIn_junctionTables catalog) below enough
    (Nat.lt_of_succ_lt allowed)
  apply SameOn.bind
  · apply same.expandAttribute rfl
    intro table _ _
    exact (card_unvisited_le _ _).trans_lt (Nat.lt_succ_self _)
  · intro expanded _
    exact SameOn.refl _ _

/-- An entity with junctions besides those of the schema takes one step more. -/
theorem sameOn_expand (below : Expansion) {depth : Nat} {catalog : Catalog}
    (enough : catalog.junctionTables.card < depth) (entity : LoadedEntity) :
    SameOn catalog
      ((expandEntity^[depth + 1] below) entity [] >>= fun expanded => pure expanded.1)
      (expand entity) := by
  unfold expand
  change SameOn catalog _ (expandWithin (depthBound catalog entity) entity [] >>= _)
  have allowed := card_junctionTables_lt_depthBound catalog entity
  obtain ⟨bound, isBound⟩ := Nat.exists_eq_add_of_le' (Nat.zero_lt_of_lt allowed)
  rw [isBound] at allowed ⊢
  have same := sameBelow_iterate (junctionsIn_junctionTables catalog) below enough
    (Nat.lt_of_succ_lt_succ allowed)
  rw [Function.iterate_succ_apply']
  apply SameOn.bind
  · apply SameOn.bind
    · exact same.expandAttributes_of_card_lt (grows_expandWithin _) (consults_expandWithin _)
        (Nat.lt_succ_self _) _ _ _ rfl
    · intro expanded _
      exact SameOn.refl _ _
  · intro expanded _
    exact SameOn.refl _ _

/-- Work that agrees with work that consults definitions, for all depths that are enough, consults
them too. -/
theorem Consults.of_bounded {work : CatalogM ε α} {bounded : Nat → CatalogM ε α}
    (consults : ∀ depth, Consults (bounded depth))
    (same : ∀ ⦃catalog depth⦄, catalog.junctionTables.card < depth →
      SameOn catalog (bounded depth) work) : Consults work where
  answers {first second} defined := by
    let depth := max first.junctionTables.card second.junctionTables.card + 1
    have enough : first.junctionTables.card < depth := Nat.lt_succ_of_le (le_max_left _ _)
    have alsoEnough : second.junctionTables.card < depth := Nat.lt_succ_of_le (le_max_right _ _)
    calc
      answer work second = answer (bounded depth) second := (same alsoEnough).answer_eq.symm
      _ = answer (bounded depth) first := (consults depth).answers defined
      _ = answer work first := (same enough).answer_eq
  keeps catalog := by
    rw [← (same (Nat.lt_succ_self _)).after_eq]
    exact (consults _).keeps catalog

theorem consults_expand (entity : LoadedEntity) : Consults (expand entity) := by
  apply Consults.of_bounded fun depth =>
    Consults.bind (consults_expandWithin (depth + 1) entity []) fun _ => Consults.pure _
  intro catalog depth enough
  rw [expandWithin_eq_iterate]
  exact sameOn_expand _ enough entity

theorem consults_expandOne (entity : LoadedEntity) (member : LoadedAttribute) :
    Consults (expandOne entity member) := by
  apply Consults.of_bounded fun depth =>
    Consults.bind (consults_expandAttribute (consults_expandWithin depth) entity.name member [])
      fun _ => Consults.pure _
  intro catalog depth enough
  rw [expandWithin_eq_iterate]
  exact sameOn_expandOne _ enough entity member

theorem consults_loadedEntity (name : String) : Consults (loadedEntity name) :=
  Consults.bind (consults_entity name) fun stored => consults_expand stored.load

/-- Loads an entity down to a depth, and what lies below in the given way. -/
def loadedAbove (below : Expansion) (depth : Nat) (name : String) :
    CatalogM Refusal LoadedEntity := do
  let stored ← entity name
  let (expanded, _) ← (expandEntity^[depth] below) stored.load []
  return expanded

theorem answer_loadedAbove (below : Expansion) {depth : Nat} {catalog : Catalog}
    (enough : catalog.junctionTables.card < depth) (name : String) :
    answer (loadedAbove below depth name) catalog = answer (loadedEntity name) catalog := by
  apply SameOn.answer_eq
  apply SameOn.bind (SameOn.refl _ _)
  intro stored found
  -- The depth that is allowed is counted where the entity has been read.
  have kept := (consults_entity name).keeps catalog
  generalize after (entity name) catalog = later at kept
  have inTables := (junctionsIn_junctionTables catalog).inter
    (kept ▸ junctionsIn_junctionTables later)
  have allowed := card_junctionTables_lt_depthBound later stored.load
  have fewer : (catalog.junctionTables ∩ later.junctionTables).card < depth :=
    (Finset.card_le_card Finset.inter_subset_left).trans_lt enough
  have alsoFewer : (catalog.junctionTables ∩ later.junctionTables).card <
      depthBound later stored.load :=
    (Finset.card_le_card Finset.inter_subset_right).trans_lt (Nat.lt_of_succ_lt allowed)
  have same := sameBelow_iterate inTables below fewer alsoFewer
  unfold expand
  change SameOn later _ (expandWithin (depthBound later stored.load) stored.load [] >>= _)
  apply SameOn.bind
  · exact same kept found ((card_unvisited_le _ _).trans_lt (Nat.lt_succ_self _))
  · intro expanded _
    exact SameOn.refl _ _

theorem consults_resolveStep (path : String) (entity : LoadedEntity) (field : String) :
    Consults (resolveStep path entity field) := by
  unfold resolveStep
  split
  · exact Consults.throw _
  · split
    · exact Consults.throw _
    · split
      · exact Consults.pure _
      · exact consults_expandOne _ _

theorem consults_resolveLeaf (entity : LoadedEntity) (field : String) :
    Consults (resolveLeaf entity field) := by
  unfold resolveLeaf
  split
  · exact Consults.throw _
  · split
    · exact consults_expandOne _ _
    · exact Consults.pure _

theorem consults_walk (path : String) (entity : LoadedEntity) (field : String)
    (rest : List String) : Consults (walk path entity field rest) := by
  induction rest generalizing entity field with
  | nil => exact Consults.bind (consults_resolveLeaf entity field) fun _ => Consults.pure _
  | cons next rest hypothesis =>
      apply Consults.bind (consults_resolveStep path entity field)
      intro step
      exact Consults.bind (hypothesis _ _) fun _ => Consults.pure _

theorem consults_resolvePath (entity : LoadedEntity) (path : String) :
    Consults (resolvePath entity path) := by
  unfold resolvePath
  apply Consults.guarded
  split
  · exact Consults.throw _
  · exact Consults.bind (consults_walk _ _ _ _) fun _ => Consults.pure _

end Catalog
end SchemaQuery
