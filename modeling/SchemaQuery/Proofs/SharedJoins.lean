import SchemaQuery.Proofs.JoinedRows
import SchemaQuery.Proofs.SettledColumns

/-!
# Joins that paths share

A plan is asked for the columns of one path after the other.  It joins the tables that a path leads
through, each under an alias, and takes for a table whatever it finds under its alias, so that paths
share their joins.  This file proves what the plan consists of in the end: no alias is joined twice,
each join refers to a table that is there before it, and a path has its column under the alias that
the path tells, whenever it is asked for.  What is joined under an alias is what the path asks for,
just as far as no two paths ask for different joins under one alias.  This they may do only if a
relationship is called like a junction with the suffix for join tables.
-/

namespace SchemaQuery

open Catalog (Definitions EndsAt Faithful IsFieldPath LeadsTo Passes answer resolvePath)

namespace ResolvedPath

open Sql

/-- The table of a path's column: that of the entity itself, of the relationship, or the join table
of a junction at the end. -/
def home (entity : LoadedEntity) (resolved : ResolvedPath) : Occurrence :=
  if resolved.leaf.dataType = .junction then .joined (resolved.path ++ JoinPlan.junctionSuffix)
  else if resolved.isLocal then .root entity.tableName
  else .joined resolved.relationship

/-- Whether no two of some paths ask for different joins under one alias. -/
def AgreeOnAliases (entity : LoadedEntity) (paths : List ResolvedPath) : Prop :=
  ∀ one ∈ paths, ∀ other ∈ paths, ∀ join ∈ one.joins entity, ∀ again ∈ other.joins entity,
    join.knownAs = again.knownAs → join = again

/-- Whether a path is written as it leads: through attributes that lead on, each declared where
those before it have led. -/
structure Traced (known : Definitions) (entity : LoadedEntity) (resolved : ResolvedPath) :
    Prop where
  path : resolved.path = joinPath (pathOf (resolved.steps.map (·.field))) resolved.leaf.field
  relationship : resolved.steps ≠ [] →
    resolved.relationship = pathOf (resolved.steps.map (·.field))
  reaches : ∃ last, Passes known entity resolved.steps last ∧
    (∃ name, known name = .ok last.declared) ∧
    (resolved.leaf.dataType = .junction → resolved.leaf.isLoaded = true →
      EndsAt known last resolved.leaf)

end ResolvedPath

namespace Catalog

theorem intercalate_eq_pathOf {fields : List String} (isPath : ∀ field ∈ fields, IsFieldPath field)
    (notEmpty : fields ≠ []) :
    (String.singleton pathSeparator).intercalate fields = pathOf fields := by
  obtain ⟨before, last, rfl⟩ := (List.eq_nil_or_concat fields).resolve_left notEmpty
  rw [List.concat_eq_append] at isPath ⊢
  have segments : pathSegments (pathOf (before ++ [last])) = before ++ [last] := by
    rw [pathOf_concat, pathSegments_joinPath_pathOf
      fun field isField => isPath field (List.mem_append_left _ isField),
      (isPath last (by simp)).1]
  have whole := intercalate_pathSegments (pathOf (before ++ [last]))
  rwa [segments] at whole

theorem Passes.defined {known : Definitions} {entity last : LoadedEntity}
    {steps : List LoadedAttribute} (passes : Passes known entity steps last)
    (defined : ∃ name, known name = .ok entity.declared) :
    ∃ name, known name = .ok last.declared := by
  induction passes with
  | here entity => exact defined
  | through located isCompound leadsTo onward hypothesis =>
      exact hypothesis leadsTo.faithful.defined

end Catalog

namespace ResolvedPath

open Sql

section Resolved

variable {catalog : Catalog} (keyed : catalog.store.KeyedByName) {entity : LoadedEntity}
  (faithful : Faithful catalog.definitions entity)

include keyed faithful

theorem traced_of_resolvePath {path : String} {resolved : ResolvedPath}
    (made : answer (resolvePath entity path) catalog = .ok resolved) :
    resolved.Traced catalog.definitions entity := by
  obtain ⟨segments, noneBlank, last, passes, endsAt⟩ :=
    Catalog.passes_of_resolvePath keyed faithful made
  have isField : ∀ field ∈ resolved.steps.map (·.field) ++ [resolved.leaf.field],
      IsFieldPath field := by
    rw [← segments]
    exact fun field isSegment =>
      Catalog.isFieldPath_of_mem_pathSegments isSegment (noneBlank field isSegment)
  refine ⟨?_, ?_, last, passes, passes.defined faithful.defined, fun _ _ => endsAt⟩
  · rw [Catalog.path_of_resolvePath made, ← pathOf_concat,
      ← Catalog.intercalate_eq_pathOf isField (by simp), ← segments,
      Catalog.intercalate_pathSegments]
  · intro notLocal
    obtain ⟨_, _, _, _, _, _, rfl⟩ := (Catalog.resolvePath_eq_ok _ _ _ _).1 made
    dsimp only at segments isField notLocal ⊢
    rw [segments, List.dropLast_concat]
    exact Catalog.intercalate_eq_pathOf
      (fun field isStep => isField field (List.mem_append_left _ isStep)) (by simpa using notLocal)

theorem traced_toPrimaryKey : (toPrimaryKey entity).Traced catalog.definitions entity where
  path := rfl
  relationship := absurd rfl
  reaches := by
    refine ⟨entity, .here entity, faithful.defined, fun isJunction isLoaded => ?_⟩
    exact endsAt_primaryKey faithful keyed isJunction isLoaded

end Resolved

end ResolvedPath

namespace Sql

/-- The column of a path is told by where its steps have led. -/
theorem columnAlong_eq (owner : Occurrence) (path : String) (leaf : LoadedAttribute)
    (steps : List LoadedAttribute) :
    columnAlong owner path leaf steps =
      columnAlong
        (if steps = [] then owner else .joined ((steps.map (·.field)).foldl joinPath path))
        ((steps.map (·.field)).foldl joinPath path) leaf [] := by
  induction steps generalizing owner path with
  | nil => rfl
  | cons step rest hypothesis =>
      conv_lhs => unfold columnAlong
      rw [hypothesis, if_neg (List.cons_ne_nil _ _), List.map_cons, List.foldl_cons]
      split
      · rename_i noSteps
        rw [noSteps]
        rfl
      · rfl

theorem table_columnIn {known : Definitions} {entity : LoadedEntity} {resolved : ResolvedPath}
    (traced : resolved.Traced known entity)
    (ready : resolved.leaf.dataType = .junction → ∃ link, resolved.leaf.link? = some link) :
    (resolved.columnIn entity).table = resolved.home entity := by
  unfold ResolvedPath.columnIn ResolvedPath.home ResolvedPath.isLocal
  rw [columnAlong_eq]
  by_cases isJunction : resolved.leaf.dataType = .junction
  · obtain ⟨link, isLink⟩ := ready isJunction
    unfold columnAlong
    rw [if_pos isJunction, isJunction, isLink, traced.path]
    rfl
  · rw [if_neg isJunction, columnAlong_of_column isJunction]
    by_cases isLocal : resolved.steps = []
    · rw [if_pos isLocal, if_pos (List.isEmpty_iff.2 isLocal)]
    · rw [if_neg isLocal, if_neg (mt List.isEmpty_iff.1 isLocal), traced.relationship isLocal]
      rfl

namespace JoinPlan

variable {plan between later : JoinPlan}

def adding (plan : JoinPlan) (join : Join) (source : Source) : JoinPlan :=
  { plan with
    joins := plan.joins ++ [join]
    sources := plan.sources.insert join.knownAs source }

theorem ensures_join_adding (path table : String) (source : Source) (column owner : Column) :
    Ensures (join path table source column owner) plan fun value later =>
      value = source ∧ later = plan.adding ⟨table, path, column.name, owner⟩ source := by
  unfold join
  apply Ensures.modify
  exact Ensures.pure ⟨rfl, rfl⟩

/-- The table of a junction is there already, or is joined now. -/
theorem ensures_linkTable_cases (owner : Source) (ownerKey : String) (member : LoadedAttribute)
    (path : String) :
    Ensures (linkTable owner ownerKey member path) plan fun source later =>
      (plan.sources.get? (path ++ junctionSuffix) = some source ∧ later = plan) ∨
      (plan.sources.get? (path ++ junctionSuffix) = none ∧
        source.occurrence = .joined (path ++ junctionSuffix) ∧
        ∃ link, member.link? = some link ∧
          later = { plan.adding (linkJoin owner.occurrence ownerKey path link) source with
            usesJunction := true }) := by
  unfold linkTable
  apply Ensures.get
  dsimp only
  cases found : plan.sources.get? (path ++ junctionSuffix) with
  | some source => exact Ensures.pure (Or.inl ⟨rfl, rfl⟩)
  | none =>
      cases member.link? with
      | none => exact Ensures.throw _
      | some link =>
          apply Ensures.lift
          intro column columnMade
          apply Ensures.lift
          intro ownerColumn ownerMade
          rw [Source.eq_of_column columnMade, Source.eq_of_column ownerMade]
          refine Ensures.bind (ensures_join_adding _ _ _ _ _) ?_
          rintro source later ⟨rfl, rfl⟩
          apply Ensures.modify
          exact Ensures.pure (Or.inr ⟨rfl, rfl, link, rfl, rfl⟩)

/-- The table of a target is there already, or is joined now behind its join table. -/
theorem ensures_targetTable_cases (owner : Source) (ownerKey : String) (member : LoadedAttribute)
    (target : LoadedEntity) (path : String) :
    Ensures (targetTable owner ownerKey member target path) plan fun source later =>
      (plan.sources.get? path = some source ∧ later = plan) ∨
      (plan.sources.get? path = none ∧ source.occurrence = .joined path ∧
        (member.dataType = .lookup ∧
            later = plan.adding (targetJoin target path ⟨owner.occurrence, member.field⟩) source ∨
          member.dataType ≠ .lookup ∧ ∃ linked between link,
            (linkTable owner ownerKey member path).run plan = .ok (linked, between) ∧
            member.link? = some link ∧
            later = between.adding (targetJoin target path ⟨linked.occurrence, link.targetColumn⟩)
              source)) := by
  unfold targetTable
  apply Ensures.get
  dsimp only
  cases found : plan.sources.get? path with
  | some source => exact Ensures.pure (Or.inl ⟨rfl, rfl⟩)
  | none =>
      apply Ensures.lift
      intro key keyMade
      rw [Source.eq_of_column keyMade]
      split
      · rename_i isLookup
        apply Ensures.lift
        intro column made
        rw [Source.eq_of_column made]
        rintro source later joined
        obtain ⟨rfl, rfl⟩ := ensures_join_adding _ _ _ _ _ _ _ joined
        exact Or.inr ⟨rfl, rfl, Or.inl ⟨isLookup, rfl⟩⟩
      · rename_i notLookup
        have links : Ensures (linkTable owner ownerKey member path) plan fun linked between =>
            (linkTable owner ownerKey member path).run plan = .ok (linked, between) :=
          fun _ _ => id
        refine Ensures.bind links ?_
        intro linked between linkedMade
        cases isLink : member.link? with
        | none => exact Ensures.throw _
        | some link =>
            dsimp only
            apply Ensures.lift
            intro column made
            rw [Source.eq_of_column made]
            rintro source later joined
            obtain ⟨rfl, rfl⟩ := ensures_join_adding _ _ _ _ _ _ _ joined
            exact Or.inr ⟨rfl, rfl, Or.inr ⟨notLookup, linked, between, link, linkedMade, rfl, rfl⟩⟩

end JoinPlan

/-- Whether a join is to a junction's join table, by the key of the entity and under an alias with
the suffix. -/
def Join.IsLink (known : Definitions) (join : Join) : Prop :=
  ∃ name owner target, ∃ declared ∈ owner.attributes, known name = .ok owner ∧
    declared.dataType = .junction ∧ known.target? declared = some target ∧
    join.table = junctionTableName owner.name target.name declared.field ∧
    join.column = (Junction.columnsBetween owner.name target.name).1 ∧
    join.owner.name = owner.primaryKey ∧
    ∃ path, join.knownAs = path ++ JoinPlan.junctionSuffix

theorem isLink_linkJoin {known : Definitions} {entity target : LoadedEntity}
    {member : LoadedAttribute} (defined : ∃ name, known name = .ok entity.declared)
    (located : entity.declared.find? member.field = some member.toAttribute)
    (isJunction : member.dataType = .junction) (leadsTo : LeadsTo known entity.name member target)
    (owner : Occurrence) (path : String) :
    ∀ link, member.link? = some link →
      (linkJoin owner entity.primaryKey path link).IsLink known := by
  intro link isLink
  obtain ⟨name, found⟩ := defined
  have columns := leadsTo.columns link isLink
  exact ⟨name, entity.declared, target.declared, member.toAttribute, Entity.mem_of_find? located,
    found, isJunction, leadsTo.target_eq, leadsTo.tableName link isLink,
    congrArg Prod.fst columns, rfl, path, rfl⟩

/-- A path has the suffix for join tables only if its last field does. -/
theorem exists_suffixed_of_joinPath {path field stem : String}
    (suffixed : joinPath path field = stem ++ JoinPlan.junctionSuffix) :
    ∃ rest, field = rest ++ JoinPlan.junctionSuffix := by
  suffices isSuffix : JoinPlan.junctionSuffix.toList <:+ field.toList by
    obtain ⟨rest, same⟩ := isSuffix
    exact ⟨String.ofList rest, String.toList_injective (by
      rw [String.toList_append, String.toList_ofList, same])⟩
  have whole : JoinPlan.junctionSuffix.toList <:+ (joinPath path field).toList := by
    rw [suffixed, String.toList_append]
    exact List.suffix_append _ _
  unfold joinPath at whole
  split at whole
  · exact whole
  · rw [String.toList_append, String.toList_append, String.toList_singleton, List.append_assoc,
      List.singleton_append] at whole
    have separated :
        pathSeparator :: field.toList <:+ path.toList ++ pathSeparator :: field.toList :=
      List.suffix_append _ _
    rcases List.suffix_or_suffix_of_suffix whole separated with inField | beyond
    · rcases List.suffix_cons_iff.1 inField with same | inside
      · exact absurd (List.head_eq_of_cons_eq same) (by decide)
      · exact inside
    · exact absurd (beyond.subset List.mem_cons_self) (by decide)

theorem not_isLink_targetJoin {known : Definitions} (suffixFree : known.SuffixFree)
    {entity : LoadedEntity} {member : LoadedAttribute}
    (defined : ∃ name, known name = .ok entity.declared)
    (located : entity.declared.find? member.field = some member.toAttribute)
    (isCompound : member.dataType.isCompound = true) (target : LoadedEntity) (path : String)
    (entry : Column) : ¬(targetJoin target (joinPath path member.field) entry).IsLink known := by
  rintro ⟨_, _, _, _, _, _, _, _, _, _, _, stem, suffixed⟩
  obtain ⟨name, found⟩ := defined
  obtain ⟨rest, ends⟩ := exists_suffixed_of_joinPath suffixed
  exact suffixFree found _ (Entity.mem_of_find? located) isCompound rest ends

namespace JoinPlan

variable {known : Definitions} {plan between later : JoinPlan} {asked others : List Join}

/-- Whether a plan has joined each table under an alias of its own and behind what its join refers
to, and tells whether there is a join table, unless a relationship is called like one. -/
structure Orderly (known : Definitions) (plan : JoinPlan) : Prop extends WellNamed plan where
  inScope : WellScoped plan.joins
  link : plan.usesJunction = true → ∃ join ∈ plan.joins, join.IsLink known
  byKey : plan.usesJunction = false → ∀ join ∈ plan.joins,
    join.IsByKey known ∧ (known.SuffixFree → ¬join.IsLink known)

/-- Whether a plan has no other joins under the aliases of some joins. -/
def Spares (plan : JoinPlan) (asked : List Join) : Prop :=
  ∀ join ∈ asked, ∀ made ∈ plan.joins, made.knownAs = join.knownAs → made = join

/-- Whether a plan has been extended by these joins, and has them all unless others
are under their aliases. -/
structure Serves (asked : List Join) (plan later : JoinPlan) : Prop where
  keeps : plan.joins ⊆ later.joins
  adds : later.joins ⊆ plan.joins ++ asked
  complete : later.Spares asked → asked ⊆ later.joins

theorem orderly_start (known : Definitions) (entity : LoadedEntity) : Orderly known { entity } where
  toWellNamed := wellNamed_start entity
  inScope := .nil
  link := nofun
  byKey := nofun

theorem Orderly.adding (orderly : plan.Orderly known) {join : Join} {source : Source}
    (absent : plan.sources.get? join.knownAs = none) (occurs : source.occurrence = join.occurrence)
    (refers : join.owner.table ∈ plan.tables) {uses : Bool}
    (link : uses = true → plan.usesJunction = true ∨ join.IsLink known)
    (byKey : uses = false → plan.usesJunction = false ∧
      join.IsByKey known ∧ (known.SuffixFree → ¬join.IsLink known)) :
    Orderly known { plan.adding join source with usesJunction := uses } where
  toWellNamed :=
    let added := (orderly.add join source absent occurs refers).wellNamed
    ⟨added.nodup, added.refers, added.isFiled, added.isJoined⟩
  inScope := by
    refine orderly.inScope.concat ?_ ?_
    · intro other isOther same
      exact orderly.not_mem_of_absent absent (same ▸ List.mem_map_of_mem isOther)
    · intro key isAlias
      rw [isAlias, mem_tables_joined] at refers
      exact List.mem_map.1 refers
  link := by
    intro used
    rcases link used with before | isLink
    · obtain ⟨other, isOther, isLink⟩ := orderly.link before
      exact ⟨other, List.mem_append_left _ isOther, isLink⟩
    · exact ⟨join, List.mem_append_right _ (List.mem_singleton_self _), isLink⟩
  byKey := by
    intro unused
    obtain ⟨before, isByKey⟩ := byKey unused
    exact List.forall_mem_append.2 ⟨orderly.byKey before, List.forall_mem_singleton.2 isByKey⟩

theorem Spares.mono (spares : later.Spares asked) (keeps : plan.joins ⊆ later.joins) :
    plan.Spares asked :=
  fun join isAsked made isMade => spares join isAsked made (keeps isMade)

theorem spares_append :
    plan.Spares (asked ++ others) ↔ plan.Spares asked ∧ plan.Spares others :=
  List.forall_mem_append

theorem Serves.of_found (complete : plan.Spares asked → asked ⊆ plan.joins) :
    Serves asked plan plan where
  keeps := List.Subset.refl _
  adds := List.subset_append_left _ _
  complete := complete

theorem Serves.of_append (same : later.joins = plan.joins ++ asked) : Serves asked plan later where
  keeps := same ▸ List.subset_append_left _ _
  adds := same ▸ List.Subset.refl _
  complete _ := same ▸ List.subset_append_right _ _

theorem Serves.trans (first : Serves asked plan between) (second : Serves others between later) :
    Serves (asked ++ others) plan later where
  keeps := List.Subset.trans first.keeps second.keeps
  adds := by
    intro join isJoin
    rcases List.mem_append.1 (second.adds isJoin) with earlier | added
    · exact List.mem_append.2 ((List.mem_append.1 (first.adds earlier)).imp_right
        (List.mem_append_left _))
    · exact List.mem_append_right _ (List.mem_append_right _ added)
  complete := by
    intro spares
    obtain ⟨sparesFirst, sparesSecond⟩ := spares_append.1 spares
    exact List.append_subset.2
      ⟨List.Subset.trans (first.complete (sparesFirst.mono second.keeps)) second.keeps,
        second.complete sparesSecond⟩

/-- A join refers to the entity's table or to one joined before. -/
theorem Orderly.owner_mem_before (orderly : plan.Orderly known) {before behind : List Join}
    {join : Join} (joined : plan.joins = before ++ join :: behind) :
    join.owner.table ∈ .root plan.entity.tableName :: before.map Join.occurrence := by
  have isTable := orderly.refers join (joined ▸ List.mem_append_right _ List.mem_cons_self)
  rcases List.mem_cons.1 isTable with isRoot | isJoined
  · rw [isRoot]
    exact List.mem_cons_self
  · obtain ⟨other, _, isAlias⟩ := List.mem_map.1 isJoined
    have inScope := orderly.inScope
    rw [joined] at inScope
    obtain ⟨earlier, isEarlier, same⟩ := inScope.refers_before isAlias.symm
    apply List.mem_cons_of_mem
    rw [← isAlias]
    exact List.mem_map.2 ⟨earlier, isEarlier, congrArg Occurrence.joined same⟩

/-- What is asked for under a taken alias is there, if no other join is. -/
theorem Spares.mem_of_table (spares : plan.Spares asked) {join : Join} (isAsked : join ∈ asked)
    (isTable : join.occurrence ∈ plan.tables) : join ∈ plan.joins := by
  obtain ⟨made, isMade, same⟩ := List.mem_map.1 (mem_tables_joined.1 isTable)
  exact spares join isAsked made isMade same ▸ isMade

variable {owner : Source} {path : String}

theorem ensures_serves_linkTable (orderly : plan.Orderly known)
    (there : owner.occurrence ∈ plan.tables) {ownerKey : String} {member : LoadedAttribute}
    (links : ∀ link, member.link? = some link →
      (linkJoin owner.occurrence ownerKey path link).IsLink known) :
    Ensures (linkTable owner ownerKey member path) plan fun source later =>
      source.occurrence = .joined (path ++ junctionSuffix) ∧ source.occurrence ∈ later.tables ∧
        later.Orderly known ∧ ∀ link, member.link? = some link →
          Serves [linkJoin owner.occurrence ownerKey path link] plan later := by
  intro source later made
  obtain ⟨occurs, isTable, _⟩ :=
    ensures_linkTable orderly.toWellNamed there ownerKey member path source later made
  refine ⟨occurs, isTable, ?_⟩
  rcases ensures_linkTable_cases owner ownerKey member path source later made with
    ⟨_, rfl⟩ | ⟨absent, _, link, isLink, rfl⟩
  · refine ⟨orderly, fun link isLink => .of_found fun spares => ?_⟩
    rw [occurs] at isTable
    rw [List.cons_subset]
    exact ⟨spares.mem_of_table (List.mem_singleton_self _) isTable, List.nil_subset _⟩
  · refine ⟨orderly.adding absent occurs there (fun _ => Or.inr (links link isLink)) nofun, ?_⟩
    intro other isOther
    obtain rfl := Option.some.inj (isLink.symm.trans isOther)
    exact .of_append rfl

section Target

variable {entity target : LoadedEntity} {member : LoadedAttribute}
  (defined : ∃ name, known name = .ok entity.declared)
  (located : entity.declared.find? member.field = some member.toAttribute)
  (isCompound : member.dataType.isCompound = true)
  (leadsTo : LeadsTo known entity.name member target)

include defined located isCompound leadsTo

theorem ensures_serves_targetTable (orderly : plan.Orderly known)
    (there : owner.occurrence ∈ plan.tables) :
    Ensures (targetTable owner entity.primaryKey member target (joinPath path member.field)) plan
      fun source later =>
        source.occurrence = .joined (joinPath path member.field) ∧
          source.occurrence ∈ later.tables ∧ later.Orderly known ∧
            Serves (relationJoins owner.occurrence entity.primaryKey (joinPath path member.field)
              member) plan later := by
  intro source later made
  obtain ⟨occurs, isTable, _⟩ :=
    ensures_targetTable orderly.toWellNamed there entity.primaryKey member target _ source later
      made
  refine ⟨occurs, isTable, ?_⟩
  have isByKey (entry : Column) := And.intro
    (isByKey_targetJoin leadsTo (joinPath path member.field) entry)
    fun suffixFree => not_isLink_targetJoin suffixFree defined located isCompound target path entry
  rcases ensures_targetTable_cases owner entity.primaryKey member target _ source later made with
    ⟨_, rfl⟩ | ⟨absent, _, ⟨isLookup, rfl⟩ | ⟨notLookup, linked, between, link, linkedMade, isLink,
      rfl⟩⟩
  · refine ⟨orderly, .of_found fun spares => ?_⟩
    rw [occurs] at isTable
    rcases leadsTo.relation_cases isCompound with ⟨_, carries⟩ | ⟨_, link, carries, behind⟩
    · rw [relationJoins, carries] at spares ⊢
      rw [List.cons_subset]
      exact ⟨spares.mem_of_table (List.mem_singleton_self _) isTable, List.nil_subset _⟩
    · rw [relationJoins, carries] at spares ⊢
      have isTarget := spares.mem_of_table (List.mem_cons_of_mem _ (List.mem_singleton_self _))
        isTable
      -- The table of a target refers to the join table, so there is one under its alias as well.
      have isLinked := spares.mem_of_table List.mem_cons_self (orderly.refers _ isTarget)
      rw [List.cons_subset, List.cons_subset]
      exact ⟨isLinked, isTarget, List.nil_subset _⟩
  · refine ⟨orderly.adding absent occurs there Or.inl fun unused => ⟨unused, isByKey _⟩, ?_⟩
    rcases leadsTo.relation_cases isCompound with ⟨_, carries⟩ | ⟨isJunction, _⟩
    · rw [relationJoins, carries]
      exact .of_append rfl
    · exact absurd (isLookup.symm.trans isJunction) (by decide)
  · obtain ⟨other, carries, behind⟩ := leadsTo.exists_link isCompound notLookup
    obtain rfl := Option.some.inj (isLink.symm.trans (LoadedAttribute.link?_of_junction carries))
    have isJunction : member.dataType = .junction := by
      rcases leadsTo.relation_cases isCompound with ⟨isLookup, _⟩ | ⟨isJunction, _⟩
      · exact absurd isLookup notLookup
      · exact isJunction
    have links := isLink_linkJoin defined located isJunction leadsTo owner.occurrence
      (joinPath path member.field)
    obtain ⟨linkedOccurs, linkedThere, linkedOrderly, serves⟩ :=
      ensures_serves_linkTable orderly there links linked between linkedMade
    obtain ⟨_, _, grows⟩ := ensures_linkTable orderly.toWellNamed there entity.primaryKey member _
      linked between linkedMade
    refine ⟨linkedOrderly.adding (grows.absent_of_link orderly.toWellNamed absent) occurs
      linkedThere Or.inl fun unused => ⟨unused, isByKey _⟩, ?_⟩
    subst behind
    rw [relationJoins, carries, ← linkedOccurs]
    exact (serves link isLink).trans (.of_append rfl)

end Target

/-- What steps lead through is joined, and the rest of a path starts where they end. -/
theorem ensures_serves_follow {entity last : LoadedEntity} {steps : List LoadedAttribute}
    (passes : Passes known entity steps last) (defined : ∃ name, known name = .ok entity.declared)
    (orderly : plan.Orderly known) (there : owner.occurrence ∈ plan.tables) :
    Ensures (follow owner entity path steps) plan fun result later =>
      result.2.1 = last ∧ result.1.occurrence ∈ later.tables ∧ later.Orderly known ∧
        ∃ passed, Serves passed plan later ∧ ∀ leaf,
          joinsAlong owner.occurrence entity path leaf steps =
              passed ++ joinsAlong result.1.occurrence last result.2.2 leaf [] ∧
            columnAlong owner.occurrence path leaf steps =
              columnAlong result.1.occurrence result.2.2 leaf [] := by
  induction passes generalizing plan owner path with
  | here entity =>
      exact Ensures.pure ⟨rfl, there, orderly, [], .of_append (List.append_nil _).symm,
        fun leaf => ⟨rfl, rfl⟩⟩
  | @through entity target last step steps located isCompound leadsTo onward hypothesis =>
      unfold follow
      rw [leadsTo.carries]
      dsimp only
      refine Ensures.bind
        (ensures_serves_targetTable defined located isCompound leadsTo orderly there) ?_
      rintro source between ⟨occurs, isTable, kept, serves⟩ result later followed
      obtain ⟨isLast, resultThere, laterOrderly, passed, further, along⟩ :=
        hypothesis leadsTo.faithful.defined kept isTable result later followed
      refine ⟨isLast, resultThere, laterOrderly, _, serves.trans further, fun leaf => ?_⟩
      obtain ⟨joins, column⟩ := along leaf
      rw [occurs] at joins column
      constructor
      · rw [List.append_assoc, ← joins]
        conv_lhs => unfold joinsAlong
        rw [leadsTo.carries]
      · rw [← column]
        conv_lhs => unfold columnAlong

/-- A path has its column and its joins, as far as their aliases were free. -/
theorem ensures_serves_columnFor {resolved : ResolvedPath}
    (traced : resolved.Traced known plan.entity)
    (defined : ∃ name, known name = .ok plan.entity.declared) (orderly : plan.Orderly known) :
    Ensures (columnFor resolved) plan fun column later =>
      column = resolved.columnIn plan.entity ∧ column.table = resolved.home plan.entity ∧
        later.Orderly known ∧ Serves (resolved.joins plan.entity) plan later := by
  obtain ⟨last, passes, lastDefined, endsAt⟩ := traced.reaches
  have root : plan.root.occurrence ∈ plan.tables := List.mem_cons_self
  unfold columnFor
  apply Ensures.get
  refine Ensures.bind (ensures_serves_follow passes defined orderly root) ?_
  rintro ⟨owner, entity, path⟩ between ⟨rfl, there, kept, passed, serves, along⟩
  obtain ⟨joins, columns⟩ := along resolved.leaf
  change resolved.joins plan.entity = _ at joins
  change resolved.columnIn plan.entity = _ at columns
  have home := table_columnIn traced
  rw [columns] at home
  rw [joins, columns]
  dsimp only at there joins columns home ⊢
  split
  · rename_i isJunction
    have links : ∀ link, resolved.leaf.link? = some link →
        (linkJoin owner.occurrence entity.primaryKey (joinPath path resolved.leaf.field)
          link).IsLink known := by
      intro link isLink
      have ends := endsAt isJunction (LoadedAttribute.isLoaded_of_link? isJunction isLink)
      obtain ⟨target, leadsTo⟩ := ends.leadsOn isJunction
      exact isLink_linkJoin lastDefined ends.located isJunction leadsTo _ _ link isLink
    refine Ensures.bind (ensures_serves_linkTable kept there links) ?_
    rintro linked later ⟨occurs, _, keptAgain, servesLink⟩
    cases isLink : resolved.leaf.link? with
    | none => exact Ensures.throw _
    | some link =>
        apply Ensures.of_lift
        intro column made
        obtain rfl := Source.eq_of_column made
        have servesLeaf := serves.trans (servesLink link isLink)
        have ofJunction := home fun _ => ⟨link, isLink⟩
        unfold joinsAlong columnAlong
        unfold columnAlong at ofJunction
        rw [isJunction, isLink] at ofJunction ⊢
        dsimp only at ofJunction ⊢
        rw [occurs]
        exact ⟨rfl, ofJunction, keptAgain, servesLeaf⟩
  · rename_i notJunction
    rw [columnAlong_of_column notJunction] at home
    rw [joinsAlong_of_column notJunction, columnAlong_of_column notJunction, List.append_nil]
    apply Ensures.of_lift
    intro column made
    obtain rfl := Source.eq_of_column made
    exact ⟨rfl, home fun isJunction => absurd isJunction notJunction, kept, serves⟩

/-- A plan that has served paths is orderly, and has their joins, as far as aliases were free. -/
theorem ensures_serves_mapM {entity : LoadedEntity} {served : List ResolvedPath}
    (traced : ∀ resolved ∈ served, resolved.Traced known entity)
    (defined : ∃ name, known name = .ok entity.declared) (orderly : plan.Orderly known)
    (isEntity : plan.entity = entity) :
    Ensures (served.mapM columnFor) plan fun _ later => later.entity = entity ∧
      later.Orderly known ∧ Serves (served.flatMap (·.joins entity)) plan later := by
  induction served generalizing plan with
  | nil => exact Ensures.pure ⟨isEntity, orderly, .of_append (List.append_nil _).symm⟩
  | cons resolved rest hypothesis =>
      subst isEntity
      obtain ⟨ofFirst, ofRest⟩ := List.forall_mem_cons.1 traced
      have first : Ensures (columnFor resolved) plan fun _ between =>
          between.entity = plan.entity ∧ between.Orderly known ∧
            Serves (resolved.joins plan.entity) plan between := by
        intro column between made
        obtain ⟨_, _, kept, serves⟩ := ensures_serves_columnFor ofFirst defined orderly _ _ made
        exact ⟨keepsEntity_columnFor resolved plan _ made, kept, serves⟩
      rw [List.mapM_cons]
      refine Ensures.bind first ?_
      rintro column between ⟨sameEntity, kept, serves⟩
      refine Ensures.bind (hypothesis ofRest kept sameEntity) ?_
      rintro others later ⟨sameAgain, keptAgain, servesRest⟩
      exact Ensures.pure ⟨sameAgain, keptAgain, serves.trans servesRest⟩

section Agreement

variable {entity : LoadedEntity} {served : List ResolvedPath} {columns : List Column}

/-- Each path has its column in the final plan, and asking again adds nothing. -/
theorem forall₂_served (traced : ∀ resolved ∈ served, resolved.Traced known entity)
    (defined : ∃ name, known name = .ok entity.declared)
    (made : (served.mapM columnFor).run { entity } = .ok (columns, plan)) :
    List.Forall₂ (fun resolved column =>
      (column = resolved.columnIn entity ∧ column.table = resolved.home entity ∧
        column.table ∈ plan.tables) ∧
      (columnFor resolved).run plan = .ok (column, plan)) served columns := by
  obtain ⟨isEntity, orderly, _⟩ :=
    ensures_serves_mapM traced defined (orderly_start known entity) rfl _ _ made
  obtain ⟨_, settled⟩ :=
    Settles.mapM (fun resolved _ => settles_columnFor resolved) served _ _ made
  -- What a path was answered is read off where it is asked for again, as the plan is whole there.
  refine ((List.forall₂_and_left served columns).2 ⟨traced, settled plan (.refl plan)⟩).imp ?_
  rintro resolved column ⟨ofServed, again⟩
  subst isEntity
  obtain ⟨isColumn, isHome, _⟩ := ensures_serves_columnFor ofServed defined orderly _ _ again
  obtain ⟨isTable, _⟩ := ensures_columnFor orderly.toWellNamed resolved _ _ again
  exact ⟨⟨isColumn, isHome, isTable⟩, again⟩

/-- A plan that has served paths has all their joins just if they agree on aliases. -/
theorem joins_subset_iff (orderly : plan.Orderly known)
    (serves : Serves (served.flatMap (·.joins entity)) { entity } plan) :
    (∀ resolved ∈ served, resolved.joins entity ⊆ plan.joins) ↔
      ResolvedPath.AgreeOnAliases entity served := by
  constructor
  · intro complete one isOne other isOther join isJoin again isAgain same
    exact List.inj_on_of_nodup_map orderly.nodup (complete one isOne isJoin)
      (complete other isOther isAgain) same
  · intro agree resolved isServed
    refine List.Subset.trans (fun join isJoin => List.mem_flatMap.2 ⟨resolved, isServed, isJoin⟩)
      (serves.complete ?_)
    intro join isAsked made isMade same
    obtain ⟨one, isOne, isJoin⟩ := List.mem_flatMap.1 isAsked
    obtain ⟨other, isOther, isAgain⟩ := List.mem_flatMap.1 (serves.adds isMade)
    exact agree other isOther one isOne made isAgain join isJoin same

section Apart

variable (suffixFree : known.SuffixFree) (defined : ∃ name, known name = .ok entity.declared)

include suffixFree defined

theorem exists_expected_of_mem_joins {resolved : ResolvedPath}
    (plannable : Plannable known entity resolved) {join : Join}
    (isJoin : join ∈ resolved.joins entity) :
    ∃ columns, Expected known entity.declared join columns := by
  obtain ⟨_, later, _, _, consistent, adds⟩ :=
    yields_columnFor suffixFree defined plannable (consistent_start known entity)
  obtain ⟨source, _, _, expected⟩ := consistent.expected join ((adds join).2 (Or.inr isJoin))
  exact ⟨source.columns, expected⟩

/-- Where no relationship is called like a junction with the suffix, paths agree. -/
theorem agreeOnAliases_of_plannable
    (plannable : ∀ resolved ∈ served, Plannable known entity resolved) :
    ResolvedPath.AgreeOnAliases entity served := by
  intro one isOne other isOther join isJoin again isAgain same
  obtain ⟨_, expected⟩ :=
    exists_expected_of_mem_joins suffixFree defined (plannable one isOne) isJoin
  obtain ⟨_, expectedAgain⟩ :=
    exists_expected_of_mem_joins suffixFree defined (plannable other isOther) isAgain
  exact (expected.unique suffixFree defined expectedAgain same).1

theorem exists_columns_of_plannable
    (plannable : ∀ resolved ∈ served, Plannable known entity resolved) :
    ∃ columns plan, (served.mapM columnFor).run { entity } = .ok (columns, plan) := by
  have each : ∀ resolved ∈ served, ∀ plan : JoinPlan, plan.Consistent known entity →
      Yields (columnFor resolved) plan fun _ later => later.Consistent known entity := by
    intro resolved isServed plan consistent
    obtain ⟨column, later, made, _, kept, _⟩ :=
      yields_columnFor suffixFree defined (plannable resolved isServed) consistent
    exact ⟨column, later, made, kept⟩
  obtain ⟨columns, plan, made, _⟩ := Yields.mapM each (consistent_start known entity)
  exact ⟨columns, plan, made⟩

end Apart

end Agreement

/-- Paths that one plan serves share its joins, each under an alias of its own and behind what it
refers to. Each path has its column, and what is joined is what the paths ask for, as far as they
agree on aliases, which they do unless a relationship is called like a join table. -/
theorem served_paths_share_joins {catalog : Catalog} (keyed : catalog.store.KeyedByName)
    {name : String} {stored : StoredEntity} (found : catalog.definitions name = .ok stored)
    {entity : LoadedEntity} (form : Catalog.IsForm catalog name stored entity)
    {served : List ResolvedPath}
    (resolved : ∀ path ∈ served, path = .toPrimaryKey entity ∨
      ∃ written, answer (resolvePath entity written) catalog = .ok path) :
    (catalog.definitions.Apart →
      (∀ path ∈ served, path.leaf.dataType = .junction → path.leaf.isLoaded = true) →
      ResolvedPath.AgreeOnAliases entity served ∧
        ∃ columns plan, (served.mapM columnFor).run { entity } = .ok (columns, plan)) ∧
    ∀ columns plan, (served.mapM columnFor).run { entity } = .ok (columns, plan) →
      (plan.joins.map Join.knownAs).Nodup ∧
      (∀ before join behind, plan.joins = before ++ join :: behind →
        join.owner.table ∈ .root entity.tableName :: before.map Join.occurrence) ∧
      List.Forall₂ (fun path column =>
        (column = path.columnIn entity ∧ column.table = path.home entity ∧
          column.table ∈ plan.tables) ∧
        (columnFor path).run plan = .ok (column, plan)) served columns ∧
      (∀ join ∈ plan.joins, ∃ path ∈ served, join ∈ path.joins entity) ∧
      ((∀ path ∈ served, path.joins entity ⊆ plan.joins) ↔
        ResolvedPath.AgreeOnAliases entity served) ∧
      (plan.usesJunction = true → ∃ join ∈ plan.joins, join.IsLink catalog.definitions) ∧
      (plan.usesJunction = false → ∀ join ∈ plan.joins,
        join.IsByKey catalog.definitions ∧
          (catalog.definitions.SuffixFree → ¬join.IsLink catalog.definitions)) := by
  obtain ⟨faithful, rfl⟩ := form.faithful keyed found
  have defined : ∃ name, catalog.definitions name = .ok entity.declared := ⟨name, found⟩
  have traced : ∀ path ∈ served, path.Traced catalog.definitions entity := by
    intro path isServed
    rcases resolved path isServed with rfl | ⟨written, made⟩
    · exact ResolvedPath.traced_toPrimaryKey keyed faithful
    · exact ResolvedPath.traced_of_resolvePath keyed faithful made
  constructor
  · intro apart expanded
    have plannable : ∀ path ∈ served, Plannable catalog.definitions entity path := by
      intro path isServed
      rcases resolved path isServed with rfl | ⟨written, made⟩
      · exact plannable_toPrimaryKey faithful keyed (isFieldPath_of_apart apart faithful)
          (expanded _ isServed)
      · exact plannable_of_resolvePath faithful keyed made
    exact ⟨agreeOnAliases_of_plannable apart.suffixFree defined plannable,
      exists_columns_of_plannable apart.suffixFree defined plannable⟩
  · intro columns plan made
    obtain ⟨isEntity, orderly, serves⟩ :=
      ensures_serves_mapM traced defined (orderly_start _ entity) rfl _ _ made
    refine ⟨orderly.nodup, ?_, forall₂_served traced defined made, ?_,
      joins_subset_iff orderly serves, orderly.link, orderly.byKey⟩
    · intro before join behind joined
      exact isEntity ▸ orderly.owner_mem_before joined
    · exact fun join isJoin => List.mem_flatMap.1 (serves.adds isJoin)

def ingredient : StoredEntity where
  name := "Ingredient"
  tableName := "ingredients"
  attributes := [.ofColumn "id" .int]

def usage : StoredEntity where
  name := "Usage"
  tableName := "usages"
  attributes := [.ofColumn "id" .int, .ofColumn "ingredient_id" .int]

/-- Recipes have ingredients, and one usage under the name that has the suffix. -/
def recipe : StoredEntity where
  name := "Recipe"
  tableName := "recipes"
  attributes :=
    [.ofColumn "id" .int,
     { field := "ingredients", dataType := .junction, options := "Ingredient" },
     { field := "ingredients__junction", dataType := .lookup, options := "Usage" }]

def kitchen : Catalog where
  store := .ofEntities [recipe, ingredient, usage]

def toUsage : ResolvedPath where
  path := "ingredients__junction.ingredient_id"
  relationship := "ingredients__junction"
  steps :=
    [{ field := "ingredients__junction", dataType := .lookup, options := "Usage",
       tableName := "recipes", relation := .lookup usage.load }]
  leaf := (Attribute.ofColumn "ingredient_id" .int).load "usages"

def toIngredients : ResolvedPath where
  path := "ingredients"
  relationship := ""
  steps := []
  leaf :=
    { field := "ingredients", dataType := .junction, options := "Ingredient",
      tableName := "recipes",
      relation := .junction
        { tableName := "recipe_ingredient_ingredients", sourceName := "Recipe",
          sourceColumn := "recipe_id", targetColumn := "ingredient_id",
          target := ingredient.load } }

/-- Books are joined with what all paths ask for. Recipes are not, as their usages stand for the
table that joins their ingredients. -/
theorem ingredients_taken_from_usages :
    (Listing.library.store.KeyedByName ∧ Listing.library.definitions.Apart ∧
      (∀ path ∈ [Listing.toTopics, Listing.toShelf], ∃ written,
        answer (resolvePath Listing.book.load written) Listing.library = .ok path) ∧
      ∃ columns plan, ([Listing.toTopics, Listing.toShelf].mapM columnFor).run
          { entity := Listing.book.load } = .ok (columns, plan) ∧
        plan.joins.map Join.knownAs = ["topics__junction", "topics", "shelf"] ∧
        plan.usesJunction = true ∧
        ResolvedPath.AgreeOnAliases Listing.book.load [Listing.toTopics, Listing.toShelf]) ∧
    kitchen.store.KeyedByName ∧
    (∀ path ∈ [toUsage, toIngredients], ∃ written,
      answer (resolvePath recipe.load written) kitchen = .ok path) ∧
    ∃ columns plan, ([toUsage, toIngredients].mapM columnFor).run { entity := recipe.load } =
        .ok (columns, plan) ∧
      columns = List.replicate 2 ⟨.joined "ingredients__junction", "ingredient_id"⟩ ∧
      plan.joins =
        [⟨"usages", "ingredients__junction", "id",
          ⟨.root "recipes", "ingredients__junction"⟩⟩] ∧
      plan.usesJunction = false ∧
      ¬ResolvedPath.AgreeOnAliases recipe.load [toUsage, toIngredients] := by
  have ofBooks : ∀ path ∈ [Listing.toTopics, Listing.toShelf], ∃ written,
      answer (resolvePath Listing.book.load written) Listing.library = .ok path := by
    intro path isPath
    rcases List.mem_pair.1 isPath with rfl | rfl
    · exact ⟨"topics.id", rfl⟩
    · exact ⟨"shelf.id", rfl⟩
  have ofRecipes : ∀ path ∈ [toUsage, toIngredients], ∃ written,
      answer (resolvePath recipe.load written) kitchen = .ok path := by
    intro path isPath
    rcases List.mem_pair.1 isPath with rfl | rfl
    · exact ⟨"ingredients__junction.ingredient_id", rfl⟩
    · exact ⟨"ingredients", rfl⟩
  have keyedBooks : Listing.library.store.KeyedByName := Store.keyedByName_ofEntities _
  have keyedRecipes : kitchen.store.KeyedByName := Store.keyedByName_ofEntities _
  have apart : Listing.library.definitions.Apart := Catalog.apart_of_schema (by decide) (by decide)
  constructor
  · obtain ⟨agree, _⟩ := (served_paths_share_joins keyedBooks
      (show Listing.library.definitions "Book" = .ok Listing.book from rfl) .shallow
      fun path isPath => Or.inr (ofBooks path isPath)).1 apart (by decide)
    exact ⟨keyedBooks, apart, ofBooks, _, _, rfl, rfl, rfl, agree⟩
  · refine ⟨keyedRecipes, ofRecipes, _, _, rfl, rfl, rfl, rfl, fun agree => ?_⟩
    obtain ⟨_, _, _, _, shared, _⟩ := (served_paths_share_joins keyedRecipes
      (show kitchen.definitions "Recipe" = .ok recipe from rfl) .shallow
      fun path isPath => Or.inr (ofRecipes path isPath)).2 _ _ rfl
    have joined := shared.2 agree toIngredients (by simp) List.mem_cons_self
    revert joined
    decide

end JoinPlan

end Sql
end SchemaQuery
