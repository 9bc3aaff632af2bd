import SchemaQuery.Proofs.LoadedTree
import SchemaQuery.Proofs.PathReading

/-!
# What attributes lead on to

An entity carries nothing but the definitions themselves, expanded here and there.  So the entity
that a compound attribute carries is the one that its definition names, and the join table of a
junction has a column for each of the two.  This file says so of all attributes that a resolved
path goes through, however its way has been expanded.
-/

namespace SchemaQuery
namespace Catalog

def Definitions.target? (known : Definitions) (declared : Attribute) : Option StoredEntity :=
  declared.targetName?.bind fun target => (known target).toOption

theorem Definitions.target?_eq_some {known : Definitions} {declared : Attribute}
    {stored : StoredEntity} :
    known.target? declared = some stored ↔
      ∃ target, declared.targetName? = some target ∧ known target = .ok stored := by
  unfold target?
  rw [Option.bind_eq_some_iff]
  apply exists_congr
  intro target
  cases known target <;> simp [Except.toOption]

/-- Whether an entity, and all that its tree carries, is defined as it is declared. -/
structure Faithful (known : Definitions) (entity : LoadedEntity) : Prop where
  defined : ∃ name, known name = .ok entity.declared
  declared : ∀ member ∈ entity.tree, member.IsDeclared known
  carried : ∀ member ∈ entity.tree, member.loaded.relation = .unexpanded ∨
    ∃ visited, member.loaded.ExpandedIn known member.owner visited

variable {known : Definitions}

theorem faithful_load (named : known.Named) {name : String} {stored : StoredEntity}
    (found : known name = .ok stored) : Faithful known stored.load where
  defined := ⟨name, by rw [Entity.declared_load, found]⟩
  declared := by
    intro member isMember
    rw [Entity.tree_load] at isMember
    obtain ⟨loaded, isLoaded, rfl⟩ := List.mem_map.1 isMember
    exact isDeclared_of_mem_load named found isLoaded
  carried := by
    intro member isMember
    rw [Entity.tree_load] at isMember
    obtain ⟨loaded, isLoaded, rfl⟩ := List.mem_map.1 isMember
    exact Or.inl (Entity.relation_of_mem_load isLoaded)

theorem faithful_of_expandsTree {before behind : List String} {entity : LoadedEntity}
    (expands : ExpandsTree known before entity.tree behind) {name : String}
    (found : known name = .ok entity.declared) : Faithful known entity where
  defined := ⟨name, found⟩
  declared := expands.declared
  carried member isMember := Or.inr ⟨behind, expands.expanded member isMember⟩

theorem faithful_loadedEntity {catalog : Catalog} (keyed : catalog.store.KeyedByName)
    {name : String} {loaded : LoadedEntity}
    (made : answer (loadedEntity name) catalog = .ok loaded) :
    Faithful catalog.definitions loaded := by
  obtain ⟨visited, found, expands⟩ := loadedEntity_spec keyed made
  exact faithful_of_expandsTree expands found

/-- A compound attribute in the tree of an entity is expanded fully, if at all. -/
theorem Faithful.expandedIn {entity : LoadedEntity} (faithful : Faithful known entity)
    {member : LoadedAttribute} (isMember : member ∈ entity.attributes)
    (isCompound : member.dataType.isCompound = true) (isLoaded : member.isLoaded = true) :
    ∃ visited, member.ExpandedIn known entity.name visited := by
  rcases faithful.carried _ (Entity.subset_tree isMember List.mem_cons_self) with
    plain | expanded
  · rw [LoadedAttribute.isLoaded_of_plain plain, isCompound] at isLoaded
    exact absurd isLoaded (by decide)
  · exact expanded

/-- A compound attribute that is not expanded carries nothing. -/
theorem Faithful.plain {entity : LoadedEntity} (faithful : Faithful known entity)
    {member : LoadedAttribute} (isMember : member ∈ entity.attributes)
    (isCompound : member.dataType.isCompound = true) (notLoaded : member.isLoaded = false) :
    member.relation = .unexpanded := by
  rcases faithful.carried _ (Entity.subset_tree isMember List.mem_cons_self) with
    plain | ⟨visited, expanded⟩
  · exact plain
  · rcases expanded.isLoaded_or_visited isCompound with isLoaded | ⟨plain, _⟩
    · exact absurd (isLoaded.symm.trans notLoaded) (by decide)
    · exact plain

/-- What an attribute leads on to: an entity that is faithful to its definition, and behind a
junction a join table with columns for both sides. -/
structure LeadsTo (known : Definitions) (owner : String) (member : LoadedAttribute)
    (target : LoadedEntity) : Prop where
  isLoaded : member.isLoaded = true
  carries : member.target? = some target
  target_eq : known.target? member.toAttribute = some target.declared
  faithful : Faithful known target
  tableName : ∀ link, member.link? = some link →
    link.tableName = junctionTableName owner target.name member.field
  columns : ∀ link, member.link? = some link →
    (link.sourceColumn, link.targetColumn) = Junction.columnsBetween owner target.name

/-- What leads on carries its target, a junction behind its join table. -/
theorem LeadsTo.relation_cases {owner : String} {member : LoadedAttribute} {target : LoadedEntity}
    (leadsTo : LeadsTo known owner member target) (isCompound : member.dataType.isCompound = true) :
    member.dataType = .lookup ∧ member.relation = .lookup target ∨
      member.dataType = .junction ∧
        ∃ link, member.relation = .junction link ∧ link.target = target := by
  have isLoaded := leadsTo.isLoaded
  have carries := leadsTo.carries
  unfold LoadedAttribute.isLoaded at isLoaded
  unfold LoadedAttribute.target? at carries
  split at isLoaded <;> simp_all [DataType.isCompound]

/-- A junction that leads on carries its join table. -/
theorem LeadsTo.exists_link {owner : String} {member : LoadedAttribute} {target : LoadedEntity}
    (leadsTo : LeadsTo known owner member target) (isCompound : member.dataType.isCompound = true)
    (notLookup : member.dataType ≠ .lookup) :
    ∃ link, member.relation = .junction link ∧ link.target = target := by
  rcases leadsTo.relation_cases isCompound with ⟨isLookup, _⟩ | ⟨_, carries⟩
  · exact absurd isLookup notLookup
  · exact carries

/-- A compound attribute that is expanded leads on. -/
theorem leadsTo_of_expandedIn (named : known.Named) {owner : String} {visited : List String}
    {member : LoadedAttribute} (expanded : member.ExpandedIn known owner visited)
    (isCompound : member.dataType.isCompound = true) (isExpanded : member.isLoaded = true)
    (declared : ∀ inner ∈ member.treeBehind, inner.IsDeclared known)
    (carried : ∀ inner ∈ member.treeBehind, inner.loaded.relation = .unexpanded ∨
      ∃ visited, inner.loaded.ExpandedIn known inner.owner visited) :
    ∃ target, LeadsTo known owner member target := by
  cases expanded with
  | scalar isScalar plain => exact absurd (isScalar.symm.trans isCompound) (by decide)
  | @lookup target stored isLookup targetNamed found carries =>
      have leads : known.target? member.toAttribute = some stored.load.declared := by
        rw [Entity.declared_load]
        exact Definitions.target?_eq_some.2 ⟨target, targetNamed, found⟩
      refine ⟨stored.load, isExpanded, ?_, leads, faithful_load named found, ?_, ?_⟩
      · simp [LoadedAttribute.target?, carries]
      · simp [LoadedAttribute.link?, carries]
      · simp [LoadedAttribute.link?, carries]
  | @junction target link isJunction targetNamed found tableName columns carries =>
      rw [LoadedAttribute.treeBehind_of_link carries] at declared carried
      have targetName : link.target.name = target := named found
      have carried_link {other : Junction LoadedAttribute} (same : member.link? = some other) :
          other = link := by
        simp only [LoadedAttribute.link?, carries, Option.some.injEq] at same
        exact same.symm
      refine ⟨link.target, isExpanded, ?_,
        Definitions.target?_eq_some.2 ⟨target, targetNamed, found⟩,
        ⟨⟨target, found⟩, declared, carried⟩, ?_, ?_⟩
      · simp [LoadedAttribute.target?, carries]
      · intro other same
        rw [carried_link same, targetName, tableName]
      · intro other same
        rw [carried_link same, targetName, columns]
  | visitedBefore isJunction targetNamed isVisited plain =>
      simp [LoadedAttribute.isLoaded, isJunction, plain] at isExpanded

/-- What is expanded on its own is expanded, as nothing has been visited before. -/
theorem isLoaded_of_expandsTree {owner : String} {member : LoadedAttribute}
    {behind : List String}
    (expands : ExpandsTree known [] (⟨owner, member⟩ :: member.treeBehind) behind)
    (isCompound : member.dataType.isCompound = true) : member.isLoaded = true := by
  rcases (expands.expanded _ List.mem_cons_self).isLoaded_or_visited isCompound with
    isLoaded | ⟨plain, target, isVisited⟩
  · exact isLoaded
  · have noLink := LoadedAttribute.link?_of_unexpanded plain
    have nothing := expands.visited_perm.mem_iff.1 isVisited
    rw [LoadedAttribute.treeBehind_of_noLink noLink, expandedTables_cons_of_noLink noLink]
      at nothing
    exact absurd nothing List.not_mem_nil

theorem Faithful.exists_leadsTo (named : known.Named) {entity : LoadedEntity}
    (faithful : Faithful known entity) {member : LoadedAttribute}
    (isMember : member ∈ entity.attributes) (isCompound : member.dataType.isCompound = true)
    (isLoaded : member.isLoaded = true) : ∃ target, LeadsTo known entity.name member target := by
  have behind := Entity.subset_tree isMember
  obtain ⟨visited, expanded⟩ := faithful.expandedIn isMember isCompound isLoaded
  exact leadsTo_of_expandedIn named expanded isCompound isLoaded
    (fun inner isInner => faithful.declared inner (behind (List.mem_cons_of_mem _ isInner)))
    (fun inner isInner => faithful.carried inner (behind (List.mem_cons_of_mem _ isInner)))

theorem find?_declared (entity : LoadedEntity) (field : String) :
    entity.declared.find? field = (entity.find? field).map (·.toAttribute) := by
  unfold Entity.find? Entity.declared
  rw [List.find?_map]
  rfl

section Resolved

variable {catalog : Catalog} (keyed : catalog.store.KeyedByName) {entity : LoadedEntity}
  (faithful : Faithful catalog.definitions entity)

include keyed faithful

theorem leadsTo_of_expandOne {member result : LoadedAttribute}
    (isMember : member ∈ entity.attributes) (isCompound : member.dataType.isCompound = true)
    (notLoaded : member.isLoaded = false)
    (made : answer (expandOne entity member) catalog = .ok result) :
    result.toAttribute = member.toAttribute ∧
      ∃ target, LeadsTo catalog.definitions entity.name result target := by
  have declared := faithful.declared _ (Entity.subset_tree isMember List.mem_cons_self)
  have plain := faithful.plain isMember isCompound notLoaded
  obtain ⟨visited, keeps, expands⟩ := expandOne_spec keyed plain declared made
  have alsoCompound : result.dataType.isCompound = true := by
    rw [← isCompound]
    exact congrArg (fun declared => declared.dataType.isCompound) keeps
  refine ⟨keeps, ?_⟩
  exact leadsTo_of_expandedIn (named_definitions keyed) (expands.expanded _ List.mem_cons_self)
    alsoCompound (isLoaded_of_expandsTree expands alsoCompound)
    (fun inner isInner => expands.declared inner (List.mem_cons_of_mem _ isInner))
    (fun inner isInner => Or.inr ⟨_, expands.expanded inner (List.mem_cons_of_mem _ isInner)⟩)

theorem leadsTo_of_resolveStep {path field : String} {step : LoadedAttribute}
    (made : answer (resolveStep path entity field) catalog = .ok step) :
    entity.declared.find? field = some step.toAttribute ∧ step.dataType.isCompound = true ∧
      ∃ target, LeadsTo catalog.definitions entity.name step target := by
  unfold resolveStep at made
  rw [find?_declared]
  cases located : entity.find? field with
  | none => simp [located] at made
  | some declared =>
      rw [located] at made
      dsimp only at made
      have isMember := Entity.mem_of_find? located
      cases isCompound : declared.dataType.isCompound with
      | false => simp [isCompound] at made
      | true =>
          rw [isCompound] at made
          cases isLoaded : declared.isLoaded with
          | true =>
              rw [isLoaded] at made
              obtain rfl := Except.ok.inj made
              exact ⟨rfl, isCompound,
                faithful.exists_leadsTo (named_definitions keyed) isMember isCompound isLoaded⟩
          | false =>
              rw [isLoaded] at made
              obtain ⟨same, leads⟩ :=
                leadsTo_of_expandOne keyed faithful isMember isCompound isLoaded made
              refine ⟨by rw [same, Option.map_some], ?_, leads⟩
              rw [← isCompound]
              exact congrArg (fun declared => declared.dataType.isCompound) same

/-- A junction at the end of a path leads on. -/
theorem leadsTo_of_resolveLeaf {field : String} {leaf : LoadedAttribute}
    (made : answer (resolveLeaf entity field) catalog = .ok leaf) :
    entity.declared.find? field = some leaf.toAttribute ∧
      (leaf.dataType = .junction →
        ∃ target, LeadsTo catalog.definitions entity.name leaf target) := by
  unfold resolveLeaf at made
  rw [find?_declared]
  cases located : entity.find? field with
  | none => simp [located] at made
  | some declared =>
      rw [located] at made
      dsimp only at made
      have isMember := Entity.mem_of_find? located
      split at made
      · rename_i isOpen
        simp only [Bool.and_eq_true, decide_eq_true_eq, Bool.not_eq_true'] at isOpen
        have isCompound : declared.dataType.isCompound = true := by
          rw [isOpen.1]
          rfl
        obtain ⟨same, leads⟩ :=
          leadsTo_of_expandOne keyed faithful isMember isCompound isOpen.2 made
        exact ⟨by rw [same, Option.map_some], fun _ => leads⟩
      · rename_i notOpen
        obtain rfl := Except.ok.inj made
        refine ⟨rfl, fun isJunction => ?_⟩
        have isLoaded : declared.isLoaded = true := by simpa [isJunction] using notOpen
        exact faithful.exists_leadsTo (named_definitions keyed) isMember
          (by rw [isJunction]; rfl) isLoaded

end Resolved

/-- Whether a path can go from one entity to another through compound attributes, each declared
where those before it have led. -/
inductive Passes (known : Definitions) :
    LoadedEntity → List LoadedAttribute → LoadedEntity → Prop
  | here (entity : LoadedEntity) : Passes known entity [] entity
  | through {entity target last : LoadedEntity} {step : LoadedAttribute}
      {steps : List LoadedAttribute}
      (located : entity.declared.find? step.field = some step.toAttribute)
      (isCompound : step.dataType.isCompound = true)
      (leadsTo : LeadsTo known entity.name step target)
      (onward : Passes known target steps last) : Passes known entity (step :: steps) last

/-- Whether a path can end at an attribute, which leads on if it is a junction. -/
structure EndsAt (known : Definitions) (entity : LoadedEntity) (leaf : LoadedAttribute) :
    Prop where
  located : entity.declared.find? leaf.field = some leaf.toAttribute
  leadsOn : leaf.dataType = .junction → ∃ target, LeadsTo known entity.name leaf target

theorem passes_of_walk {catalog : Catalog} (keyed : catalog.store.KeyedByName)
    {path field : String} {rest : List String} {entity : LoadedEntity}
    (faithful : Faithful catalog.definitions entity)
    {walked : List LoadedAttribute × LoadedAttribute}
    (made : answer (walk path entity field rest) catalog = .ok walked) :
    field :: rest = walked.1.map (·.field) ++ [walked.2.field] ∧
      ∃ last, Passes catalog.definitions entity walked.1 last ∧
        EndsAt catalog.definitions last walked.2 := by
  induction rest generalizing entity field walked with
  | nil =>
      unfold walk at made
      obtain ⟨leaf, leafMade, same⟩ := (answer_bind_eq_ok _ _ _ _).1 made
      obtain rfl := Except.ok.inj same
      obtain ⟨located, leadsOn⟩ := leadsTo_of_resolveLeaf keyed faithful leafMade
      have named : leaf.field = field := Entity.field_of_find? located
      exact ⟨by simp [named], entity, .here entity, named ▸ located, leadsOn⟩
  | cons next rest hypothesis =>
      unfold walk at made
      rw [Consults.answer_bind (consults_resolveStep _ _ _) fun _ =>
        Consults.bind (consults_walk _ _ _ _) fun _ => Consults.pure _] at made
      obtain ⟨step, stepMade, made⟩ := (Success.bind_eq_ok _ _ _).1 made
      obtain ⟨others, othersMade, same⟩ := (answer_bind_eq_ok _ _ _ _).1 made
      obtain rfl := Except.ok.inj same
      obtain ⟨located, isCompound, target, leadsTo⟩ :=
        leadsTo_of_resolveStep keyed faithful stepMade
      rw [leadsTo.carries, Option.getD_some] at othersMade
      obtain ⟨fields, last, passes, endsAt⟩ := hypothesis leadsTo.faithful othersMade
      have named : step.field = field := Entity.field_of_find? located
      refine ⟨?_, last, .through (named ▸ located) isCompound leadsTo passes, endsAt⟩
      rw [fields, List.map_cons, List.cons_append, named]

/-- A resolved path passes through its steps and ends at its leaf, and all its fields are paths. -/
theorem passes_of_resolvePath {catalog : Catalog} (keyed : catalog.store.KeyedByName)
    {entity : LoadedEntity} (faithful : Faithful catalog.definitions entity) {path : String}
    {target : ResolvedPath} (made : answer (resolvePath entity path) catalog = .ok target) :
    pathSegments path = target.steps.map (·.field) ++ [target.leaf.field] ∧
      (∀ field ∈ pathSegments path, Text.isBlankText field = false) ∧
      ∃ last, Passes catalog.definitions entity target.steps last ∧
        EndsAt catalog.definitions last target.leaf := by
  obtain ⟨noneBlank, field, rest, walked, segments, walkMade, rfl⟩ :=
    (resolvePath_eq_ok _ _ _ _).1 made
  obtain ⟨fields, reaches⟩ := passes_of_walk keyed faithful walkMade
  refine ⟨segments.trans fields, ?_, reaches⟩
  intro field isSegment
  exact Bool.eq_false_iff.2 (List.any_eq_false.1 noneBlank field isSegment)

end Catalog
end SchemaQuery
