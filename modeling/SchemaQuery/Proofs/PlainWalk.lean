import SchemaQuery.Proofs.CarriedTargets

/-!
# Paths through the stored definitions

A path can be followed through the definitions alone: each segment but the last is a compound
attribute that leads on to the entity that it names.  This file proves that resolving a path
follows it in the same way, whatever the entity that it starts from carries already.
-/

namespace SchemaQuery

def ResolvedPath.declarations (resolved : ResolvedPath) : List Attribute × Attribute :=
  (resolved.steps.map (·.toAttribute), resolved.leaf.toAttribute)

namespace Catalog

def plainWalk (known : Definitions) (stored : StoredEntity) :
    (field : String) → List String → Except RefusalKind (List Attribute × Attribute)
  | field, [] =>
      match stored.find? field with
      | none => .error .notFound
      | some leaf => .ok ([], leaf)
  | field, next :: rest =>
      match stored.find? field with
      | none => .error .notFound
      | some step =>
          if step.dataType.isCompound = false then .error .invalidPath
          else
            match known.target? step with
            | none => .error .notFound
            | some target => do
                let (steps, leaf) ← plainWalk known target next rest
                return (step :: steps, leaf)

def plainPath (known : Definitions) (stored : StoredEntity) (path : String) :
    Except RefusalKind (List Attribute × Attribute) :=
  if (pathSegments path).any Text.isBlankText then .error .invalidPath
  else
    match pathSegments path with
    | [] => .error .invalidPath
    | field :: rest => plainWalk known stored field rest

/-- Whether each compound attribute of an entity that is defined names one that is. -/
def Definitions.Closed (known : Definitions) : Prop :=
  ∀ ⦃name stored⦄, known name = .ok stored → ∀ declared ∈ stored.attributes,
    declared.dataType.isCompound = true →
      ∃ target entity, declared.targetName? = some target ∧ known target = .ok entity

theorem consults_verifyAttribute (owner : StoredEntity) (member : Attribute) :
    Consults (verifyAttribute owner member) := by
  unfold verifyAttribute
  split
  · split
    · exact Consults.throw _
    · split
      · exact Consults.pure _
      · exact Consults.bind ((consults_entity _).adapt _) fun _ => Consults.pure _
  · exact Consults.pure _

/-- A verified entity has no defect, and its compound attributes name defined
entities, or its own. -/
theorem verify_spec {catalog : Catalog} {candidate : StoredEntity}
    (verified : answer (verify candidate) catalog = .ok ()) :
    candidate.defect? = none ∧ ∀ declared ∈ candidate.attributes,
      declared.dataType.isCompound = true → ∃ target, declared.targetName? = some target ∧
        (target = candidate.name ∨ ∃ entity, catalog.definitions target = .ok entity) := by
  unfold verify at verified
  split at verified
  · simp at verified
  · rename_i sound
    refine ⟨sound, fun declared isDeclared isCompound => ?_⟩
    have each :=
      Consults.answer_of_forM (consults_verifyAttribute candidate) verified declared isDeclared
    unfold verifyAttribute at each
    rw [isCompound, if_pos rfl] at each
    split at each
    · simp at each
    · rename_i target named
      refine ⟨target, named, ?_⟩
      split at each
      · rename_i isSelf
        exact Or.inl isSelf
      · obtain ⟨entity, targetFound, _⟩ := (answer_bind_eq_ok _ _ _ _).1 each
        rw [answer_adapt, Success.mapError_eq_ok] at targetFound
        exact Or.inr ⟨entity, targetFound⟩

/-- Schemas are closed where all their entities have been verified. -/
theorem closed_of_verify {catalog : Catalog} (keyed : catalog.store.KeyedByName)
    (verified : ∀ stored ∈ catalog.schema, answer (verify stored) catalog = .ok ()) :
    catalog.definitions.Closed := by
  intro name stored found declared isDeclared isCompound
  obtain ⟨_, leadsOn⟩ := verify_spec (verified stored (mem_schema found))
  obtain ⟨target, named, isSelf | ⟨entity, targetFound⟩⟩ := leadsOn declared isDeclared isCompound
  · refine ⟨target, stored, named, ?_⟩
    rw [isSelf, named_definitions keyed found, found]
  · exact ⟨target, entity, named, targetFound⟩

/-- Whether a way to expand succeeds for each entity that is defined. -/
def Expansion.Succeeds (known : Definitions) (expansion : Expansion) : Prop :=
  ∀ ⦃catalog name stored⦄, catalog.definitions = known → known name = .ok stored →
    ∀ visited, ∃ result, answer (expansion stored.load visited) catalog = .ok result

section Success

variable {known : Definitions} {expandTarget : Expansion} (closed : known.Closed)
  (consults : ∀ entity visited, Consults (expandTarget entity visited))
  (succeeds : expandTarget.Succeeds known)

include closed consults succeeds

theorem exists_expandAttribute {catalog : Catalog} (defined : catalog.definitions = known)
    {owner : String} {member : LoadedAttribute} (plain : member.relation = .unexpanded)
    (declared : TreeMember.IsDeclared known ⟨owner, member⟩) (visited : List String) :
    ∃ result, answer (expandAttribute expandTarget owner member visited) catalog =
      .ok result := by
  obtain ⟨stored, found, _, isDeclared⟩ := declared
  have leadsOn := closed found member.toAttribute isDeclared
  unfold expandAttribute
  split
  · rename_i isLookup
    obtain ⟨target, entity, named, targetFound⟩ := leadsOn (by rw [isLookup]; rfl)
    have made := (expandLookup_eq_ok plain { member with relation := .lookup entity.load }).2
      ⟨target, entity, named, defined ▸ targetFound, rfl⟩
    exact ⟨_, (answer_bind_eq_ok _ _ _ _).2 ⟨_, made, rfl⟩⟩
  · rename_i isJunction
    obtain ⟨target, entity, named, targetFound⟩ := leadsOn (by rw [isJunction]; rfl)
    by_cases isVisited : junctionTableName owner target member.field ∈ visited
    · refine ⟨(member, visited), (expandJunction_eq_ok consults plain _).2 ⟨target, named, ?_⟩⟩
      exact Or.inl ⟨isVisited, rfl⟩
    · obtain ⟨expanded, made⟩ := succeeds defined targetFound
        (junctionTableName owner target member.field :: visited)
      let link := Junction.between owner expanded.1 member.field
      refine ⟨({ member with relation := .junction link }, expanded.2),
        (expandJunction_eq_ok consults plain _).2 ⟨target, named, ?_⟩⟩
      exact Or.inr ⟨isVisited, entity, expanded, defined ▸ targetFound, made, rfl⟩
  · exact ⟨_, rfl⟩

theorem exists_expandAttributes {catalog : Catalog} (defined : catalog.definitions = known)
    {owner : String} {members : List LoadedAttribute}
    (plain : ∀ member ∈ members, member.relation = .unexpanded)
    (declared : ∀ member ∈ members, TreeMember.IsDeclared known ⟨owner, member⟩)
    (visited : List String) :
    ∃ result, answer (expandAttributes expandTarget owner members visited) catalog =
      .ok result := by
  induction members generalizing visited with
  | nil => exact ⟨_, rfl⟩
  | cons member rest hypothesis =>
      obtain ⟨first, firstMade⟩ := exists_expandAttribute closed consults succeeds defined
        (plain member List.mem_cons_self) (declared member List.mem_cons_self) visited
      obtain ⟨others, othersMade⟩ := hypothesis
        (fun other isOther => plain other (List.mem_cons_of_mem _ isOther))
        (fun other isOther => declared other (List.mem_cons_of_mem _ isOther)) first.2
      exact ⟨_, (expandAttributes_cons_eq_ok consults rest _).2
        ⟨first, others, firstMade, othersMade, rfl⟩⟩

theorem succeeds_expandEntity (named : known.Named) :
    (expandEntity expandTarget).Succeeds known := by
  intro catalog name stored defined found visited
  have declared : ∀ member ∈ stored.load.attributes,
      TreeMember.IsDeclared known ⟨stored.load.name, member⟩ :=
    fun _ isMember => isDeclared_of_mem_load named found isMember
  obtain ⟨attributes, made⟩ := exists_expandAttributes closed consults succeeds defined
    (fun _ isMember => Entity.relation_of_mem_load isMember) declared visited
  exact ⟨_, (answer_bind_eq_ok _ _ _ _).2 ⟨attributes, made, rfl⟩⟩

end Success

theorem succeeds_expandWithin {known : Definitions} (named : known.Named)
    (closed : known.Closed) (depth : Nat) : (expandWithin depth).Succeeds known := by
  induction depth with
  | zero =>
      intro catalog name stored _ _ visited
      exact ⟨_, rfl⟩
  | succ depth hypothesis =>
      exact succeeds_expandEntity closed (consults_expandWithin depth) hypothesis named

theorem exists_expandOne {catalog : Catalog} (keyed : catalog.store.KeyedByName)
    (closed : catalog.definitions.Closed) {entity : LoadedEntity} {member : LoadedAttribute}
    (plain : member.relation = .unexpanded)
    (declared : TreeMember.IsDeclared catalog.definitions ⟨entity.name, member⟩) :
    ∃ result, answer (expandOne entity member) catalog = .ok result := by
  obtain ⟨expanded, made⟩ := exists_expandAttribute closed
    (consults_expandWithin (depthBound catalog entity))
    (succeeds_expandWithin (named_definitions keyed) closed _) rfl plain declared []
  refine ⟨expanded.1, ?_⟩
  change answer (expandAttribute (expandWithin (depthBound catalog entity)) entity.name member []
    >>= _) catalog = _
  exact (answer_bind_eq_ok _ _ _ _).2 ⟨expanded, made, rfl⟩

theorem exists_loadedEntity {catalog : Catalog} (keyed : catalog.store.KeyedByName)
    (closed : catalog.definitions.Closed) {name : String} {stored : StoredEntity}
    (found : catalog.definitions name = .ok stored) :
    ∃ loaded, answer (loadedEntity name) catalog = .ok loaded := by
  have kept := (consults_entity name).keeps catalog
  suffices expands : ∀ behind : Catalog, behind.definitions = catalog.definitions →
      ∃ loaded, answer (expand stored.load) behind = .ok loaded by
    obtain ⟨loaded, made⟩ := expands _ kept
    exact ⟨loaded, (answer_bind_eq_ok _ _ _ _).2 ⟨stored, found, made⟩⟩
  intro behind same
  obtain ⟨expanded, made⟩ := succeeds_expandWithin (named_definitions keyed) closed
    (depthBound behind stored.load) same found []
  refine ⟨expanded.1, ?_⟩
  change answer (expandWithin (depthBound behind stored.load) stored.load [] >>= _) behind = _
  exact (answer_bind_eq_ok _ _ _ _).2 ⟨expanded, made, rfl⟩

section Walking

variable {catalog : Catalog} (keyed : catalog.store.KeyedByName)
  (closed : catalog.definitions.Closed)

include keyed closed

/-- Expanding an attribute on its own makes it lead on. -/
theorem exists_leadsTo_expandOne {entity : LoadedEntity}
    (faithful : Faithful catalog.definitions entity) {member : LoadedAttribute}
    (isMember : member ∈ entity.attributes) (isCompound : member.dataType.isCompound = true)
    (notLoaded : member.isLoaded = false) :
    ∃ result target, answer (expandOne entity member) catalog = .ok result ∧
      result.toAttribute = member.toAttribute ∧
      LeadsTo catalog.definitions entity.name result target := by
  have declared := faithful.declared _ (Entity.subset_tree isMember List.mem_cons_self)
  obtain ⟨result, made⟩ := exists_expandOne keyed closed
    (faithful.plain isMember isCompound notLoaded) declared
  obtain ⟨same, target, leadsTo⟩ :=
    leadsTo_of_expandOne keyed faithful isMember isCompound notLoaded made
  exact ⟨result, target, made, same, leadsTo⟩

/-- A compound attribute leads on, once it has been expanded. -/
theorem exists_resolveStep (path : String) {entity : LoadedEntity}
    (faithful : Faithful catalog.definitions entity) {field : String} {member : LoadedAttribute}
    (located : entity.find? field = some member)
    (isCompound : member.dataType.isCompound = true) :
    ∃ step target, answer (resolveStep path entity field) catalog = .ok step ∧
      step.toAttribute = member.toAttribute ∧
      LeadsTo catalog.definitions entity.name step target := by
  have isMember := Entity.mem_of_find? located
  unfold resolveStep
  rw [located]
  dsimp only
  rw [isCompound]
  cases isLoaded : member.isLoaded with
  | false => exact exists_leadsTo_expandOne keyed closed faithful isMember isCompound isLoaded
  | true =>
      obtain ⟨target, leadsTo⟩ :=
        faithful.exists_leadsTo (named_definitions keyed) isMember isCompound isLoaded
      exact ⟨member, target, rfl, rfl, leadsTo⟩

/-- The last attribute of a path is found, and a junction there is expanded. -/
theorem exists_resolveLeaf {entity : LoadedEntity}
    (faithful : Faithful catalog.definitions entity) {field : String} {member : LoadedAttribute}
    (located : entity.find? field = some member) :
    ∃ leaf, answer (resolveLeaf entity field) catalog = .ok leaf ∧
      leaf.toAttribute = member.toAttribute ∧
      (leaf.dataType = .junction → leaf.isLoaded = true) := by
  unfold resolveLeaf
  rw [located]
  dsimp only
  split
  · rename_i isOpen
    simp only [Bool.and_eq_true, decide_eq_true_eq, Bool.not_eq_true'] at isOpen
    obtain ⟨leaf, target, made, same, leadsTo⟩ := exists_leadsTo_expandOne keyed closed faithful
      (Entity.mem_of_find? located) (by rw [isOpen.1]; rfl) isOpen.2
    exact ⟨leaf, made, same, fun _ => leadsTo.isLoaded⟩
  · rename_i notOpen
    refine ⟨member, rfl, rfl, fun isJunction => ?_⟩
    simpa [isJunction] using notOpen

end Walking

/-- Segments lead from an entity over some attributes to a last one, each declared where those
before have led. -/
inductive Leads : LoadedEntity → List String → List LoadedAttribute → LoadedAttribute → Prop
  | leaf {entity : LoadedEntity} {field : String} {declared leaf : LoadedAttribute}
      (located : entity.find? field = some declared)
      (same : leaf.toAttribute = declared.toAttribute)
      (ready : leaf.dataType = .junction → leaf.isLoaded = true) : Leads entity [field] [] leaf
  | step {entity target : LoadedEntity} {field : String} {segments : List String}
      {declared step leaf : LoadedAttribute} {steps : List LoadedAttribute}
      (located : entity.find? field = some declared)
      (same : step.toAttribute = declared.toAttribute)
      (isCompound : step.dataType.isCompound = true) (isLoaded : step.isLoaded = true)
      (carries : step.target? = some target) (onward : Leads target segments steps leaf) :
      Leads entity (field :: segments) (step :: steps) leaf

inductive Follows (entity : LoadedEntity) (segments : List String) :
    Except Refusal (List LoadedAttribute × LoadedAttribute) →
      Except RefusalKind (List Attribute × Attribute) → Prop
  | refused (refusal : Refusal) : Follows entity segments (.error refusal) (.error refusal.kind)
  | found {steps : List LoadedAttribute} {leaf : LoadedAttribute}
      (leads : Leads entity segments steps leaf) :
      Follows entity segments (.ok (steps, leaf))
        (.ok (steps.map (·.toAttribute), leaf.toAttribute))

/-- Following comes out like the plain walk, if it does behind a step. -/
theorem Follows.step {entity target : LoadedEntity} {field : String} {segments : List String}
    {declared step : LoadedAttribute} (located : entity.find? field = some declared)
    (same : step.toAttribute = declared.toAttribute)
    (isCompound : step.dataType.isCompound = true) {known : Definitions}
    (leadsTo : LeadsTo known entity.name step target)
    {found : Except Refusal (List LoadedAttribute × LoadedAttribute)}
    {plainly : Except RefusalKind (List Attribute × Attribute)}
    (onward : Follows target segments found plainly) :
    Follows entity (field :: segments) (found >>= fun walked => pure (step :: walked.1, walked.2))
      (plainly >>= fun walked => pure (step.toAttribute :: walked.1, walked.2)) := by
  cases onward with
  | refused refusal => exact .refused refusal
  | found leads =>
      exact .found (.step located same isCompound leadsTo.isLoaded leadsTo.carries leads)

section Following

variable {catalog : Catalog} (keyed : catalog.store.KeyedByName)
  (closed : catalog.definitions.Closed)

include keyed closed

theorem follows_walk (path : String) {entity : LoadedEntity}
    (faithful : Faithful catalog.definitions entity) (field : String) (rest : List String) :
    Follows entity (field :: rest) (answer (walk path entity field rest) catalog)
      (plainWalk catalog.definitions entity.declared field rest) := by
  induction rest generalizing entity field with
  | nil =>
      unfold walk plainWalk
      rw [find?_declared, answer_bind]
      cases located : entity.find? field with
      | none =>
          unfold resolveLeaf
          rw [located]
          exact .refused _
      | some declared =>
          obtain ⟨leaf, made, same, ready⟩ := exists_resolveLeaf keyed closed faithful located
          rw [made, Option.map_some, ← same]
          exact .found (.leaf located same ready)
  | cons next rest hypothesis =>
      unfold walk plainWalk
      rw [find?_declared, Consults.answer_bind (consults_resolveStep _ _ _) fun _ =>
        Consults.bind (consults_walk _ _ _ _) fun _ => Consults.pure _]
      cases located : entity.find? field with
      | none =>
          unfold resolveStep
          rw [located]
          exact .refused _
      | some declared =>
          cases isCompound : declared.dataType.isCompound with
          | false =>
              unfold resolveStep
              rw [located]
              dsimp only [Option.map_some]
              rw [isCompound]
              exact .refused _
          | true =>
              obtain ⟨step, target, made, same, leadsTo⟩ :=
                exists_resolveStep keyed closed path faithful located isCompound
              have alsoCompound : step.dataType.isCompound = true := by
                rw [← isCompound]
                exact congrArg (fun declared => declared.dataType.isCompound) same
              rw [made]
              dsimp only [Option.map_some]
              rw [← same, alsoCompound, if_neg (by decide), leadsTo.target_eq]
              have onward := (hypothesis leadsTo.faithful next).step located same alsoCompound
                leadsTo
              change Follows _ _ (answer (walk path (step.target?.getD entity) next rest >>= _)
                catalog) _
              rw [leadsTo.carries, Option.getD_some,
                Consults.answer_bind (consults_walk _ _ _ _) fun _ => Consults.pure _]
              exact onward

end Following

theorem Leads.segments_eq {entity : LoadedEntity} {segments : List String}
    {steps : List LoadedAttribute} {leaf : LoadedAttribute}
    (leads : Leads entity segments steps leaf) :
    segments = steps.map (·.field) ++ [leaf.field] := by
  induction leads with
  | leaf located same ready =>
      have named := Entity.field_of_find? located
      rw [List.map_nil, List.nil_append, congrArg Attribute.field same]
      exact congrArg (fun field => [field]) named.symm
  | step located same isCompound isLoaded carries onward hypothesis =>
      have named := Entity.field_of_find? located
      rw [hypothesis, List.map_cons, List.cons_append, congrArg Attribute.field same]
      exact congrArg (fun field => field :: _) named.symm

/-- Writing the separator between the segments of a path gives the path back. -/
theorem intercalate_pathSegments (path : String) :
    (String.singleton pathSeparator).intercalate (pathSegments path) = path := by
  apply String.toList_injective
  unfold pathSegments
  rw [String.toList_intercalate, List.map_map, String.toList_singleton]
  have same : String.toList ∘ String.ofList = id := by
    funext characters
    simp
  rw [same, List.map_id, Text.intercalate_segments]

/-- The relationship of a path and its last field make up the path. -/
theorem joinPath_of_segments {path field : String} {before : List String}
    (segments : pathSegments path = before ++ [field])
    (notBlank : ∀ segment ∈ before, Text.isBlankText segment = false) :
    joinPath ((String.singleton pathSeparator).intercalate before) field = path := by
  have whole := intercalate_pathSegments path
  rw [segments] at whole
  unfold joinPath
  cases before with
  | nil => simpa using whole
  | cons first rest =>
      have notEmpty : (String.singleton pathSeparator).intercalate (first :: rest) ≠ "" := by
        intro isEmpty
        have firstEmpty : first = "" := by
          cases rest with
          | nil => rwa [String.intercalate_singleton] at isEmpty
          | cons second rest =>
              rw [String.intercalate_cons_of_ne_nil (List.cons_ne_nil _ _)] at isEmpty
              simp only [String.append_eq_empty_iff] at isEmpty
              exact isEmpty.1.1
        have firstBlank := notBlank first List.mem_cons_self
        rw [firstEmpty] at firstBlank
        exact absurd firstBlank (by decide)
      rw [if_neg notEmpty, ← whole,
        String.intercalate_append_of_ne_nil (List.cons_ne_nil _ _) (List.cons_ne_nil _ _),
        String.intercalate_singleton]

/-- What an entity is when paths are resolved from it: as it is stored, or as it was loaded. -/
inductive IsForm (catalog : Catalog) (name : String) (stored : StoredEntity) :
    LoadedEntity → Prop
  | shallow : IsForm catalog name stored stored.load
  | loaded {earlier : Catalog} {entity : LoadedEntity}
      (same : earlier.definitions = catalog.definitions)
      (made : answer (loadedEntity name) earlier = .ok entity) : IsForm catalog name stored entity

theorem IsForm.faithful {catalog : Catalog} (keyed : catalog.store.KeyedByName) {name : String}
    {stored : StoredEntity} (found : catalog.definitions name = .ok stored)
    {entity : LoadedEntity} (form : IsForm catalog name stored entity) :
    Faithful catalog.definitions entity ∧ entity.declared = stored := by
  cases form with
  | shallow => exact ⟨faithful_load (named_definitions keyed) found, Entity.declared_load stored⟩
  | loaded same made =>
      rw [(consults_loadedEntity name).answers same] at made
      obtain ⟨visited, declared, expands⟩ := loadedEntity_spec keyed made
      exact ⟨faithful_of_expandsTree expands declared,
        Except.ok.inj (declared.symm.trans found)⟩

/-- Resolving a path comes out like following it through the definitions, from whatever form of the
entity, and each of its attributes is declared where those before it have led. -/
theorem resolvePath_follows_definitions {catalog : Catalog} (keyed : catalog.store.KeyedByName)
    (closed : catalog.definitions.Closed) {name : String} {stored : StoredEntity}
    (found : catalog.definitions name = .ok stored) {entity : LoadedEntity}
    (form : IsForm catalog name stored entity) (path : String) :
    ((answer (resolvePath entity path) catalog).mapError Refusal.kind).map
        ResolvedPath.declarations = plainPath catalog.definitions stored path ∧
      ∀ resolved, answer (resolvePath entity path) catalog = .ok resolved →
        resolved.path = path ∧ joinPath resolved.relationship resolved.leaf.field = path ∧
          Leads entity (pathSegments path) resolved.steps resolved.leaf := by
  obtain ⟨faithful, rfl⟩ := form.faithful keyed found
  unfold plainPath resolvePath
  cases blank : (pathSegments path).any Text.isBlankText with
  | true => exact ⟨by simp [blank]; rfl, by simp [blank]⟩
  | false =>
      cases segments : pathSegments path with
      | nil => exact absurd segments (by simp [pathSegments, Text.segments_ne_nil])
      | cons field rest =>
          rw [segments] at blank
          dsimp only
          rw [blank, if_neg Bool.false_ne_true, if_neg Bool.false_ne_true,
            Consults.answer_bind (consults_walk _ _ _ _) fun _ => Consults.pure _]
          have follows := follows_walk keyed closed path faithful field rest
          revert follows
          generalize answer (walk path entity field rest) catalog = walked
          generalize plainWalk catalog.definitions entity.declared field rest = plainly
          rintro (refusal | leads)
          · refine ⟨rfl, fun _ impossible => ?_⟩
            cases impossible
          · refine ⟨rfl, ?_⟩
            rintro resolved made
            obtain rfl := Except.ok.inj made
            refine ⟨rfl, ?_, leads⟩
            have fields := leads.segments_eq
            rw [fields] at segments blank ⊢
            rw [List.dropLast_concat]
            apply joinPath_of_segments segments
            intro segment isSegment
            rw [List.any_append, Bool.or_eq_false_iff] at blank
            exact Bool.eq_false_iff.2 (List.any_eq_false.1 blank.1 segment isSegment)

theorem schema_forum : forum.schema = [post, tag, user, post, tag, user] := rfl

theorem closed_forum : forum.definitions.Closed := by
  apply closed_of_verify keyedByName_forum
  rw [schema_forum]
  intro stored isKnown
  simp only [List.mem_cons, List.not_mem_nil, or_false] at isKnown
  rcases isKnown with rfl | rfl | rfl | rfl | rfl | rfl <;> rfl

/-- The tags of a post lead through their posts to tags again, which loading leaves unexpanded. -/
theorem forum_post_leads_to_tags :
    ∃ loaded, answer (loadedEntity "Post") forum = .ok loaded ∧
      ∀ start ∈ [post.load, loaded], ∃ resolved,
        answer (resolvePath start "tags.posts.tags") forum = .ok resolved ∧
        .ok resolved.declarations = plainPath forum.definitions post "tags.posts.tags" ∧
        joinPath resolved.relationship resolved.leaf.field = "tags.posts.tags" ∧
        Leads start ["tags", "posts", "tags"] resolved.steps resolved.leaf := by
  have found : forum.definitions "Post" = .ok post := rfl
  have succeeds : (answer (loadedEntity "Post") forum).isOk = true := by decide +kernel
  cases made : answer (loadedEntity "Post") forum with
  | error refusal => simp [made, Except.isOk, Except.toBool] at succeeds
  | ok loaded =>
      refine ⟨loaded, rfl, ?_⟩
      intro start isStart
      have form : IsForm forum "Post" post start := by
        simp only [List.mem_cons, List.not_mem_nil, or_false] at isStart
        rcases isStart with rfl | rfl
        · exact .shallow
        · exact .loaded rfl made
      obtain ⟨same, resolves⟩ := resolvePath_follows_definitions keyedByName_forum closed_forum
        found form "tags.posts.tags"
      have plainly : ∃ declarations,
          plainPath forum.definitions post "tags.posts.tags" = .ok declarations := ⟨_, rfl⟩
      obtain ⟨declarations, plainly⟩ := plainly
      cases answered : answer (resolvePath start "tags.posts.tags") forum with
      | error refusal =>
          rw [answered, plainly] at same
          exact absurd same nofun
      | ok resolved =>
          obtain ⟨_, joined, leads⟩ := resolves resolved answered
          rw [answered] at same
          exact ⟨resolved, rfl, same, joined, leads⟩

end Catalog
end SchemaQuery
