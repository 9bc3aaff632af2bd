import SchemaQuery.Proofs.RequestFaults
import SchemaQuery.Proofs.TableNames

/-!
# Where the names in a statement come from

Aliases and labels are taken from the paths of a request as they were written.  This file proves
that a statement has no names all the same but those that definitions give: its tables and columns
are declared, or belong to the join tables of declared junctions, and its aliases and labels are
paths of declared fields.
-/

namespace SchemaQuery

open Catalog (Definitions Faithful LeadsTo Passes EndsAt IsFieldPath answer)

namespace Catalog

def Definitions.HasField (known : Definitions) (field : String) : Prop :=
  ∃ name stored, known name = .ok stored ∧ (field = stored.primaryKey ∨ field ∈ stored.fields)

/-- Whether a path is a field, or all its segments are. -/
def Definitions.HasPath (known : Definitions) (path : String) : Prop :=
  known.HasField path ∨ ∀ segment ∈ pathSegments path, known.HasField segment

/-- The names that definitions give to tables, columns, aliases and join tables. -/
inductive Definitions.Gives (known : Definitions) : String → Prop
  | table {name : String} {stored : StoredEntity} (found : known name = .ok stored) :
      Gives known stored.tableName
  | path {path : String} (isPath : known.HasPath path) : Gives known path
  | joinTable {name : String} {owner target : StoredEntity} {declared : Attribute}
      (found : known name = .ok owner) (isDeclared : declared ∈ owner.attributes)
      (leads : known.target? declared = some target) :
      Gives known (junctionTableName owner.name target.name declared.field)
  | sourceColumn {name : String} {owner target : StoredEntity} {declared : Attribute}
      (found : known name = .ok owner) (isDeclared : declared ∈ owner.attributes)
      (leads : known.target? declared = some target) :
      Gives known (Junction.columnsBetween owner.name target.name).1
  | targetColumn {name : String} {owner target : StoredEntity} {declared : Attribute}
      (found : known name = .ok owner) (isDeclared : declared ∈ owner.attributes)
      (leads : known.target? declared = some target) :
      Gives known (Junction.columnsBetween owner.name target.name).2
  | joinAlias {path : String} (isPath : known.HasPath path) :
      Gives known (path ++ Sql.JoinPlan.junctionSuffix)

variable {known : Definitions} {entity target : LoadedEntity} {member : LoadedAttribute}

theorem Definitions.hasField_of_find? (faithful : Faithful known entity)
    (located : entity.declared.find? member.field = some member.toAttribute) :
    known.HasField member.field := by
  obtain ⟨name, found⟩ := faithful.defined
  refine ⟨name, _, found, Or.inr ?_⟩
  rw [← Entity.isSome_find?_iff, located]
  rfl

theorem Definitions.Gives.column {field : String} (hasField : known.HasField field) :
    known.Gives field :=
  .path (Or.inl hasField)

theorem Definitions.gives_of_mem_columns (faithful : Faithful known entity)
    (occurrence : Sql.Occurrence) :
    ∀ column ∈ (Sql.Source.ofEntity occurrence entity).columns, known.Gives column := by
  obtain ⟨name, found⟩ := faithful.defined
  intro column isColumn
  apply Gives.column
  rw [Sql.columns_ofEntity, Sql.tableColumns] at isColumn
  rcases List.mem_append.1 isColumn with isField | isKey
  · obtain ⟨declared, isDeclared, rfl⟩ := List.mem_map.1 isField
    exact ⟨name, _, found, Or.inr (List.mem_map_of_mem (List.mem_of_mem_filter isDeclared))⟩
  · exact ⟨name, _, found, Or.inl (List.mem_singleton.1 isKey)⟩

theorem Definitions.hasPath_joinPath {fields : List String}
    (areFields : ∀ field ∈ fields, IsFieldPath field ∧ known.HasField field) {field : String}
    (isField : IsFieldPath field) (hasField : known.HasField field) :
    known.HasPath (joinPath (pathOf fields) field) := by
  have segments := pathSegments_joinPath_pathOf (fun other isOther => (areFields other isOther).1)
    field
  rw [isField.1] at segments
  apply Or.inr
  rw [segments, List.forall_mem_append, List.forall_mem_singleton]
  exact ⟨fun other isOther => (areFields other isOther).2, hasField⟩

/-- The steps of a path from a faithful entity, and its end, are declared fields. -/
theorem Passes.hasFields {steps : List LoadedAttribute} {last : LoadedEntity}
    (passes : Passes known entity steps last) (faithful : Faithful known entity) :
    (∀ step ∈ steps, known.HasField step.field) ∧ Faithful known last := by
  induction passes with
  | here entity => exact ⟨nofun, faithful⟩
  | through located isCompound leadsTo onward hypothesis =>
      obtain ⟨behind, lastFaithful⟩ := hypothesis leadsTo.faithful
      exact ⟨List.forall_mem_cons.2
        ⟨Definitions.hasField_of_find? faithful located, behind⟩, lastFaithful⟩

/-- Whether the names of a join table are given by definitions. -/
structure Definitions.GivesLink (known : Definitions) (link : Junction LoadedAttribute) : Prop where
  table : known.Gives link.tableName
  sourceColumn : known.Gives link.sourceColumn
  targetColumn : known.Gives link.targetColumn

theorem LeadsTo.givesLink (leadsTo : LeadsTo known entity.name member target)
    (faithful : Faithful known entity)
    (located : entity.declared.find? member.field = some member.toAttribute) :
    ∀ link, member.link? = some link → known.GivesLink link := by
  intro link isLink
  obtain ⟨name, found⟩ := faithful.defined
  have isDeclared := Entity.mem_of_find? located
  have table := Definitions.Gives.joinTable found isDeclared leadsTo.target_eq
  have source := Definitions.Gives.sourceColumn found isDeclared leadsTo.target_eq
  have target := Definitions.Gives.targetColumn found isDeclared leadsTo.target_eq
  have columns := leadsTo.columns link isLink
  refine ⟨?_, ?_, ?_⟩
  · rw [leadsTo.tableName link isLink]
    exact table
  · rw [show link.sourceColumn = _ from congrArg Prod.fst columns]
    exact source
  · rw [show link.targetColumn = _ from congrArg Prod.snd columns]
    exact target

end Catalog

namespace Sql

open Success

/-- Whether a table has just such columns as definitions give. -/
def Source.GivenBy (known : Definitions) (source : Source) : Prop :=
  ∀ column ∈ source.columns, known.Gives column

theorem Source.GivenBy.column {known : Definitions} {source : Source} (given : source.GivenBy known)
    {name : String} {column : Column} (made : source.column name = .ok column) :
    known.Gives column.name := by
  unfold Source.column at made
  split at made
  · rename_i isColumn
    obtain rfl := Except.ok.inj made
    exact given name isColumn
  · simp at made

/-- Whether the names in a join are given by definitions. -/
structure Join.GivenBy (known : Definitions) (join : Join) : Prop where
  table : known.Gives join.table
  knownAs : known.Gives join.knownAs
  column : known.Gives join.column
  owner : known.Gives join.owner.name

namespace JoinPlan

/-- Whether the names in a plan for an entity are given by definitions. -/
structure GivenBy (known : Definitions) (origin : LoadedEntity) (plan : JoinPlan) : Prop where
  isOrigin : plan.entity = origin
  joins : ∀ join ∈ plan.joins, join.GivenBy known
  sources : ∀ key source, plan.sources.get? key = some source → source.GivenBy known

variable {known : Definitions} {origin : LoadedEntity} {plan : JoinPlan} {owner source : Source}

theorem givenBy_start (known : Definitions) (origin : LoadedEntity) :
    GivenBy known origin { entity := origin } where
  isOrigin := rfl
  joins := nofun
  sources := nofun

theorem ensures_givenBy_join (given : plan.GivenBy known origin) {path table : String}
    {column ownerColumn : Column} (sourceGiven : source.GivenBy known)
    (joinGiven : Join.GivenBy known ⟨table, path, column.name, ownerColumn⟩) :
    Ensures (join path table source column ownerColumn) plan fun value later =>
      value.GivenBy known ∧ later.GivenBy known origin := by
  unfold join
  apply Ensures.modify
  apply Ensures.pure
  refine ⟨sourceGiven, given.isOrigin, ?_, ?_⟩
  · rw [List.forall_mem_append, List.forall_mem_singleton]
    exact ⟨given.joins, joinGiven⟩
  · intro key found located
    rw [Dictionary.get?_insert] at located
    split at located
    · obtain rfl := Option.some.inj located
      exact sourceGiven
    · exact given.sources key found located

theorem ensures_givenBy_linkTable (given : plan.GivenBy known origin)
    (ownerGiven : owner.GivenBy known)
    (ownerKey : String) {member : LoadedAttribute} {path : String} (isPath : known.HasPath path)
    (links : ∀ link, member.link? = some link → known.GivesLink link) :
    Ensures (linkTable owner ownerKey member path) plan fun source later =>
      source.GivenBy known ∧ later.GivenBy known origin := by
  unfold linkTable
  apply Ensures.get
  dsimp only
  cases found : plan.sources.get? (path ++ junctionSuffix) with
  | some source => exact Ensures.pure ⟨given.sources _ _ found, given⟩
  | none =>
      cases isLink : member.link? with
      | none => exact Ensures.throw _
      | some link =>
          have linkGiven := links link isLink
          have sourceGiven : Source.GivenBy known
              ⟨.joined (path ++ junctionSuffix), [link.sourceColumn, link.targetColumn]⟩ :=
            List.forall_mem_cons.2
              ⟨linkGiven.sourceColumn, List.forall_mem_singleton.2 linkGiven.targetColumn⟩
          apply Ensures.lift
          intro column made
          apply Ensures.lift
          intro ownerColumn ownerMade
          refine Ensures.bind (ensures_givenBy_join given sourceGiven ⟨linkGiven.table,
            .joinAlias isPath, sourceGiven.column made, ownerGiven.column ownerMade⟩) ?_
          rintro source later ⟨joinedGiven, laterGiven⟩
          apply Ensures.modify
          exact Ensures.pure
            ⟨joinedGiven, laterGiven.isOrigin, laterGiven.joins, laterGiven.sources⟩

theorem ensures_givenBy_targetTable (given : plan.GivenBy known origin)
    (ownerGiven : owner.GivenBy known) (ownerKey : String) {member : LoadedAttribute}
    {target : LoadedEntity} (faithful : Faithful known target) {path : String}
    (isPath : known.HasPath path)
    (links : ∀ link, member.link? = some link → known.GivesLink link) :
    Ensures (targetTable owner ownerKey member target path) plan fun source later =>
      source.GivenBy known ∧ later.GivenBy known origin := by
  have sourceGiven : (Source.ofEntity (.joined path) target).GivenBy known :=
    Definitions.gives_of_mem_columns faithful _
  have tableGiven : known.Gives target.tableName := by
    obtain ⟨name, found⟩ := faithful.defined
    exact .table found
  unfold targetTable
  apply Ensures.get
  dsimp only
  cases found : plan.sources.get? path with
  | some source => exact Ensures.pure ⟨given.sources _ _ found, given⟩
  | none =>
      apply Ensures.lift
      intro key keyMade
      split
      · apply Ensures.lift
        intro column made
        exact ensures_givenBy_join given sourceGiven
          ⟨tableGiven, .path isPath, sourceGiven.column keyMade, ownerGiven.column made⟩
      · refine Ensures.bind
          (ensures_givenBy_linkTable given ownerGiven ownerKey isPath links) ?_
        rintro linked between ⟨linkedGiven, betweenGiven⟩
        cases member.link? with
        | none => exact Ensures.throw _
        | some link =>
            dsimp only
            apply Ensures.lift
            intro column made
            exact ensures_givenBy_join betweenGiven sourceGiven
              ⟨tableGiven, .path isPath, sourceGiven.column keyMade, linkedGiven.column made⟩

theorem ensures_givenBy_follow {entity last : LoadedEntity} {steps : List LoadedAttribute}
    (passes : Passes known entity steps last) (given : plan.GivenBy known origin)
    (ownerGiven : owner.GivenBy known) (faithful : Faithful known entity) {fields : List String}
    (areFields : ∀ field ∈ fields, IsFieldPath field ∧ known.HasField field)
    (areSteps : ∀ step ∈ steps, IsFieldPath step.field) :
    Ensures (follow owner entity (pathOf fields) steps) plan fun result later =>
      result.1.GivenBy known ∧ later.GivenBy known origin ∧
        result.2.2 = pathOf (fields ++ steps.map (·.field)) := by
  induction passes generalizing plan fields owner with
  | here entity =>
      rw [List.map_nil, List.append_nil]
      exact Ensures.pure ⟨ownerGiven, given, rfl⟩
  | @through entity target last step steps located isCompound leadsTo onward hypothesis =>
      have isField := areSteps step List.mem_cons_self
      have hasField := Definitions.hasField_of_find? faithful located
      unfold follow
      rw [leadsTo.carries, List.map_cons, List.append_cons, ← pathOf_concat]
      dsimp only
      refine Ensures.bind (ensures_givenBy_targetTable given ownerGiven _ leadsTo.faithful
        (pathOf_concat fields step.field ▸
          Definitions.hasPath_joinPath areFields isField hasField)
        (leadsTo.givesLink faithful located)) ?_
      rintro source between ⟨sourceGiven, betweenGiven⟩
      apply hypothesis betweenGiven sourceGiven leadsTo.faithful
      · rw [List.forall_mem_append, List.forall_mem_singleton]
        exact ⟨areFields, isField, hasField⟩
      · exact fun other isOther => areSteps other (List.mem_cons_of_mem _ isOther)

end JoinPlan

end Sql

/-- Whether a path leads through attributes, and all names on its way are given. -/
structure ResolvedPath.GivenBy (known : Definitions) (entity : LoadedEntity)
    (resolved : ResolvedPath) : Prop where
  label : known.Gives resolved.path
  passes : ∃ last, Passes known entity resolved.steps last
  areSteps : ∀ step ∈ resolved.steps, IsFieldPath step.field
  hasLeaf : known.HasField resolved.leaf.field
  leafPath : known.HasPath
    (joinPath (pathOf (resolved.steps.map (·.field))) resolved.leaf.field)
  links : resolved.leaf.dataType = .junction → ∀ link, resolved.leaf.link? = some link →
    known.GivesLink link

section Resolved

open Catalog (Definitions)

variable {catalog : Catalog} (keyed : catalog.store.KeyedByName) {entity : LoadedEntity}
  (faithful : Faithful catalog.definitions entity)

include keyed faithful

/-- A path that has been resolved consists of declared fields, whoever has written it. -/
theorem ResolvedPath.givenBy_of_resolvePath {path : String} {target : ResolvedPath}
    (made : answer (Catalog.resolvePath entity path) catalog = .ok target) :
    target.GivenBy catalog.definitions entity := by
  obtain ⟨segments, noneBlank, last, passes, endsAt⟩ :=
    Catalog.passes_of_resolvePath keyed faithful made
  have isPath := Catalog.path_of_resolvePath made
  obtain ⟨hasSteps, lastFaithful⟩ := passes.hasFields faithful
  have hasLeaf := Definitions.hasField_of_find? lastFaithful endsAt.located
  have isField : ∀ field ∈ target.steps.map (·.field) ++ [target.leaf.field],
      IsFieldPath field := by
    rw [← segments]
    exact fun field isSegment =>
      Catalog.isFieldPath_of_mem_pathSegments isSegment (noneBlank field isSegment)
  rw [List.forall_mem_append, List.forall_mem_map, List.forall_mem_singleton] at isField
  obtain ⟨areSteps, isLeaf⟩ := isField
  refine ⟨?_, ⟨last, passes⟩, areSteps, hasLeaf, ?_, ?_⟩
  · apply Definitions.Gives.path
    apply Or.inr
    rw [isPath, segments, List.forall_mem_append, List.forall_mem_map, List.forall_mem_singleton]
    exact ⟨hasSteps, hasLeaf⟩
  · apply Definitions.hasPath_joinPath _ isLeaf hasLeaf
    rw [List.forall_mem_map]
    exact fun step isStep => ⟨areSteps step isStep, hasSteps step isStep⟩
  · intro isJunction
    obtain ⟨_, leadsTo⟩ := endsAt.leadsOn isJunction
    exact leadsTo.givesLink lastFaithful endsAt.located

theorem ResolvedPath.givenBy_toPrimaryKey :
    (toPrimaryKey entity).GivenBy catalog.definitions entity := by
  have named := Entity.field_primaryKeyAttribute entity
  have hasKey : catalog.definitions.HasField entity.primaryKeyAttribute.field := by
    obtain ⟨name, found⟩ := faithful.defined
    exact ⟨name, _, found, Or.inl named⟩
  refine ⟨.column hasKey, ⟨entity, .here entity⟩, nofun, hasKey, Or.inl hasKey, ?_⟩
  intro isJunction link isLink
  change entity.primaryKeyAttribute.dataType = .junction at isJunction
  change entity.primaryKeyAttribute.link? = some link at isLink
  have endsAt := Sql.endsAt_primaryKey faithful keyed isJunction
    (LoadedAttribute.isLoaded_of_link? isJunction isLink)
  obtain ⟨target, leadsTo⟩ := endsAt.leadsOn isJunction
  exact leadsTo.givesLink faithful endsAt.located link isLink

end Resolved

namespace Sql

open Success

theorem Ensures.mapM {α β : Type} {invariant : JoinPlan → Prop} {good : β → Prop}
    {work : α → JoinM β} {items : List α}
    (each : ∀ item ∈ items, ∀ plan, invariant plan →
      Ensures (work item) plan fun value later => good value ∧ invariant later)
    {plan : JoinPlan} (holds : invariant plan) :
    Ensures (items.mapM work) plan fun values later =>
      (∀ value ∈ values, good value) ∧ invariant later := by
  induction items generalizing plan with
  | nil =>
      rw [List.mapM_nil]
      exact Ensures.pure ⟨nofun, holds⟩
  | cons item rest hypothesis =>
      rw [List.mapM_cons]
      refine Ensures.bind (each item List.mem_cons_self plan holds) ?_
      rintro value between ⟨isGood, betweenHolds⟩
      refine Ensures.bind (hypothesis (fun other isOther =>
        each other (List.mem_cons_of_mem _ isOther)) betweenHolds) ?_
      rintro values later ⟨areGood, laterHolds⟩
      exact Ensures.pure ⟨List.forall_mem_cons.2 ⟨isGood, areGood⟩, laterHolds⟩

variable {known : Definitions} {origin : LoadedEntity} {plan : JoinPlan}

theorem JoinPlan.ensures_givenBy_columnFor (faithful : Faithful known origin)
    (given : plan.GivenBy known origin) {resolved : ResolvedPath}
    (pathGiven : resolved.GivenBy known origin) :
    Ensures (columnFor resolved) plan fun column later =>
      known.Gives column.name ∧ later.GivenBy known origin := by
  obtain rfl := given.isOrigin
  obtain ⟨last, passes⟩ := pathGiven.passes
  have rootGiven : plan.root.GivenBy known := Definitions.gives_of_mem_columns faithful _
  have noFields : ∀ field ∈ ([] : List String), IsFieldPath field ∧ known.HasField field := nofun
  have followed :=
    ensures_givenBy_follow passes given rootGiven faithful noFields pathGiven.areSteps
  unfold columnFor
  apply Ensures.get
  refine Ensures.bind followed ?_
  rintro ⟨owner, entity, path⟩ between ⟨ownerGiven, betweenGiven, same⟩
  rw [List.nil_append] at same
  dsimp only at ownerGiven same ⊢
  split
  · rename_i isJunction
    have links := pathGiven.links isJunction
    refine Ensures.bind (ensures_givenBy_linkTable betweenGiven ownerGiven _
      (same ▸ pathGiven.leafPath) links) ?_
    rintro linked later ⟨linkedGiven, laterGiven⟩
    cases resolved.leaf.link? with
    | none => exact Ensures.throw _
    | some link => exact Ensures.of_lift fun column made => ⟨linkedGiven.column made, laterGiven⟩
  · exact Ensures.of_lift fun column made => ⟨ownerGiven.column made, betweenGiven⟩

end Sql

/-- The names in a statement: those of its tables, aliases, columns and labels. -/
def Sql.Select.names (statement : Select) : List String :=
  statement.root :: (statement.joins.flatMap fun join => [join.table, join.knownAs]) ++
    (statement.columns.flatMap fun column => [column.table.name, column.name]) ++
    statement.projections.filterMap Projection.label

namespace Listing

open Sql Success

theorem ownColumns_subset (entity : LoadedEntity) (occurrence : Occurrence) :
    ownColumns entity ⊆ (Source.ofEntity occurrence entity).columns := by
  unfold ownColumns Source.ofEntity
  dsimp only
  split
  · exact List.subset_append_left _ _
  · exact List.Subset.refl _

variable {known : Definitions} {entity : LoadedEntity} (faithful : Faithful known entity)
  {operators : Operators} (stay : operators.StayOnColumn) {filters : List ResolvedFilter}
  (filtersGiven : ∀ filter ∈ filters, filter.target.GivenBy known entity)
  {sorts : List ResolvedSort} (sortsGiven : ∀ sort ∈ sorts, sort.target.GivenBy known entity)

include faithful stay filtersGiven sortsGiven

/-- The names in a plan are all given by definitions. -/
theorem givenBy_of_planned {filtering : List Condition} {sorted : List SortColumn}
    {plan : JoinPlan}
    (planned : (Listing.planned operators filters sorts).run { entity } =
      .ok ((filtering, sorted), plan)) :
    plan.GivenBy known entity ∧
      (∀ condition ∈ filtering, ∀ column ∈ condition.columns, known.Gives column.name) ∧
      ∀ column ∈ sorted, known.Gives column.column.name ∧ known.Gives column.sort.path := by
  simp only [Listing.planned, run_bind_eq_ok, StateT.run_pure, pure_eq_ok, Prod.mk.injEq]
    at planned
  obtain ⟨_, between, filteringMade, _, _, sortedMade, ⟨rfl, rfl⟩, rfl⟩ := planned
  have filtered : Ensures (filterConditions operators filters) { entity } fun filtering later =>
      (∀ condition ∈ filtering, ∀ column ∈ condition.columns, known.Gives column.name) ∧
        later.GivenBy known entity := by
    apply Ensures.mapM _ (JoinPlan.givenBy_start known entity)
    intro filter isFilter plan given
    refine Ensures.bind
      (JoinPlan.ensures_givenBy_columnFor faithful given (filtersGiven filter isFilter)) ?_
    rintro column later ⟨columnGiven, laterGiven⟩
    apply Ensures.of_lift
    intro condition made
    refine ⟨fun other isOther => ?_, laterGiven⟩
    rw [List.mem_singleton.1 (ResolvedFilter.columns_condition stay made isOther)]
    exact columnGiven
  obtain ⟨conditionsGiven, betweenGiven⟩ := filtered _ _ filteringMade
  have sortedGiven : Ensures (sortColumns sorts) between fun sorted later =>
      (∀ column ∈ sorted, known.Gives column.column.name ∧ known.Gives column.sort.path) ∧
        later.GivenBy known entity := by
    apply Ensures.mapM _ betweenGiven
    intro sort isSort plan given
    refine Ensures.bind
      (JoinPlan.ensures_givenBy_columnFor faithful given (sortsGiven sort isSort)) ?_
    rintro column later ⟨columnGiven, laterGiven⟩
    exact Ensures.pure ⟨⟨columnGiven, (sortsGiven sort isSort).label⟩, laterGiven⟩
  obtain ⟨columnsGiven, planGiven⟩ := sortedGiven _ _ sortedMade
  exact ⟨planGiven, conditionsGiven, columnsGiven⟩

variable {cursor : ResolvedCursor} {pagination : Pagination} {size : Int} {listing : Listing}

/-- A statement has no names but those that definitions give. -/
theorem names_given
    (built : Listing.build operators entity filters sorts cursor pagination size = .ok listing) :
    ∀ name ∈ listing.statement.names, known.Gives name := by
  obtain ⟨filtering, sorted, plan, planned⟩ := exists_planned built
  obtain ⟨planGiven, conditionsGiven, sortedGiven⟩ :=
    givenBy_of_planned faithful stay filtersGiven sortsGiven planned
  obtain ⟨sameTables, inTables⟩ := column_mem_tables stay planned built
  have rootGiven : known.Gives entity.tableName := by
    obtain ⟨name, found⟩ := faithful.defined
    exact .table found
  have ownGiven : ∀ name ∈ ownColumns entity, known.Gives name := fun name isOwn =>
    Definitions.gives_of_mem_columns faithful (.root entity.tableName) name
      (ownColumns_subset entity _ isOwn)
  have columnsGiven : ∀ column ∈ listing.statement.columns, known.Gives column.name :=
    forall_mem_columns planned built ownGiven
      (fun column isColumn => (sortedGiven column isColumn).1)
      (fun join isJoin =>
        ⟨(planGiven.joins join isJoin).column, (planGiven.joins join isJoin).owner⟩)
      conditionsGiven
  obtain ⟨conditions, passed, _, _, rfl⟩ := build_eq_ok planned built
  have joinsGiven : ∀ join ∈ plan.joins, join.GivenBy known := planGiven.joins
  unfold Select.names
  simp only [List.forall_mem_append, List.forall_mem_cons, List.mem_flatMap, forall_exists_index,
    and_imp]
  refine ⟨⟨⟨rootGiven, ?_⟩, ?_⟩, ?_⟩
  · intro name join isJoin isName
    simp only [List.mem_cons, List.not_mem_nil, or_false] at isName
    rcases isName with rfl | rfl
    · exact (joinsGiven join isJoin).table
    · exact (joinsGiven join isJoin).knownAs
  · intro name column isColumn isName
    simp only [List.mem_cons, List.not_mem_nil, or_false] at isName
    rcases isName with rfl | rfl
    · have isTable := inTables column isColumn
      rw [← sameTables] at isTable
      rcases List.mem_cons.1 isTable with isRoot | isJoined
      · rw [isRoot]
        exact rootGiven
      · obtain ⟨join, isJoin, same⟩ := List.mem_map.1 isJoined
        rw [← same]
        exact (joinsGiven join isJoin).knownAs
    · exact columnsGiven column isColumn
  · intro label isLabel
    obtain ⟨projection, selected, labelled⟩ := List.mem_filterMap.1 isLabel
    rcases eq_of_mem_projections selected with ⟨name, isOwn, rfl⟩ | ⟨column, isColumn, rfl⟩
    · exact absurd labelled nofun
    · rw [← Option.some.inj labelled]
      exact (sortedGiven column isColumn).2

end Listing

end SchemaQuery
