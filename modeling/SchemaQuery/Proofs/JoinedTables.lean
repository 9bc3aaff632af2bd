import SchemaQuery.Proofs.FieldPaths
import SchemaQuery.Proofs.OuterJoins
import SchemaQuery.Proofs.PlannedColumns

/-!
# Joining tables under their paths

A plan keeps the tables that it has joined under the paths that lead to them, and those of
junctions under a path with a suffix.  A path that shares its beginning with an earlier one takes
what it finds there.  This file proves that it finds what it needs, unless a compound attribute is
called like a junction with the suffix: how the table under a path is joined is told by the
definitions alone, so planning the column of a resolved path always succeeds, and it makes the
joins of the path part of the plan.
-/

namespace SchemaQuery

namespace Sql

open Catalog (Definitions LeadsTo Passes EndsAt IsFieldPath)

def tableColumns (stored : StoredEntity) : List String :=
  stored.localAttributes.map (·.field) ++ [stored.primaryKey]

theorem columns_ofEntity (occurrence : Occurrence) (entity : LoadedEntity) :
    (Source.ofEntity occurrence entity).columns = tableColumns entity.declared := by
  unfold Source.ofEntity tableColumns Entity.localAttributes Entity.declared
  rw [List.filter_map, List.map_map]
  rfl

def linkJoin (owner : Occurrence) (ownerKey path : String) (link : Junction LoadedAttribute) :
    Join :=
  ⟨link.tableName, path ++ JoinPlan.junctionSuffix, link.sourceColumn, ⟨owner, ownerKey⟩⟩

/-- The joins by which an attribute leads from its owner to what it carries. -/
def relationJoins (owner : Occurrence) (ownerKey path : String) (member : LoadedAttribute) :
    List Join :=
  match member.relation with
  | .unexpanded => []
  | .lookup target => [⟨target.tableName, path, target.primaryKey, ⟨owner, member.field⟩⟩]
  | .junction link =>
      [linkJoin owner ownerKey path link,
        ⟨link.target.tableName, path, link.target.primaryKey,
          ⟨.joined (path ++ JoinPlan.junctionSuffix), link.targetColumn⟩⟩]

/-- The joins of the attributes of a path, and the join table of a junction at its end. -/
def joinsAlong (owner : Occurrence) (entity : LoadedEntity) (path : String)
    (leaf : LoadedAttribute) : List LoadedAttribute → List Join
  | [] =>
      match leaf.dataType, leaf.link? with
      | .junction, some link => [linkJoin owner entity.primaryKey (joinPath path leaf.field) link]
      | _, _ => []
  | step :: rest =>
      relationJoins owner entity.primaryKey (joinPath path step.field) step ++
        match step.target? with
        | none => []
        | some target =>
            joinsAlong (.joined (joinPath path step.field)) target (joinPath path step.field) leaf
              rest

/-- The column at the end of a path: for a junction, the keys of its targets. -/
def columnAlong (owner : Occurrence) (path : String) (leaf : LoadedAttribute) :
    List LoadedAttribute → Column
  | [] =>
      match leaf.dataType, leaf.link? with
      | .junction, some link =>
          ⟨.joined (joinPath path leaf.field ++ JoinPlan.junctionSuffix), link.targetColumn⟩
      | _, _ => ⟨owner, leaf.field⟩
  | step :: rest =>
      columnAlong (.joined (joinPath path step.field)) (joinPath path step.field) leaf rest

section Column

variable {leaf : LoadedAttribute} (isColumn : leaf.dataType ≠ .junction) (owner : Occurrence)
  (path : String)

include isColumn

theorem joinsAlong_of_column (entity : LoadedEntity) :
    joinsAlong owner entity path leaf [] = [] := by
  unfold joinsAlong
  split
  · contradiction
  · rfl

theorem columnAlong_of_column : columnAlong owner path leaf [] = ⟨owner, leaf.field⟩ := by
  unfold columnAlong
  split
  · contradiction
  · rfl

end Column

end Sql

namespace ResolvedPath

open Sql

def joins (entity : LoadedEntity) (resolved : ResolvedPath) : List Join :=
  joinsAlong (.root entity.tableName) entity "" resolved.leaf resolved.steps

def columnIn (entity : LoadedEntity) (resolved : ResolvedPath) : Column :=
  columnAlong (.root entity.tableName) "" resolved.leaf resolved.steps

end ResolvedPath

namespace Sql

open Catalog (Definitions LeadsTo Passes EndsAt IsFieldPath)

/-- Whether a field leads from what is reached through other fields to a target. -/
structure Hop (known : Definitions) (root : StoredEntity) (fields : List String) (field : String)
    (owner : StoredEntity) (declared : Attribute) (target : StoredEntity) : Prop where
  isPath : ∀ other ∈ fields ++ [field], IsFieldPath other
  reached : known.reach? root fields = some owner
  located : owner.find? field = some declared
  leads : known.target? declared = some target

/-- The table that is reached through some fields, as it occurs in a statement. -/
def occurrenceOf (root : StoredEntity) (fields : List String) : Occurrence :=
  if fields = [] then .root root.tableName else .joined (pathOf fields)

/-- The column of a target by which its rows belong to a row of its owner. -/
def entryColumn (root : StoredEntity) (fields : List String) (field : String)
    (owner : StoredEntity) (declared : Attribute) (target : StoredEntity) : Column :=
  if declared.dataType = .lookup then ⟨occurrenceOf root fields, field⟩
  else
    ⟨.joined (joinPath (pathOf fields) field ++ JoinPlan.junctionSuffix),
      (Junction.columnsBetween owner.name target.name).2⟩

/-- A join that is expected under a path, or behind its suffix. -/
inductive Expected (known : Definitions) (root : StoredEntity) : Join → List String → Prop
  | table {fields : List String} {field : String} {owner target : StoredEntity}
      {declared : Attribute} (hop : Hop known root fields field owner declared target) :
      Expected known root
        ⟨target.tableName, joinPath (pathOf fields) field, target.primaryKey,
          entryColumn root fields field owner declared target⟩
        (tableColumns target)
  | link {fields : List String} {field : String} {owner target : StoredEntity}
      {declared : Attribute} (hop : Hop known root fields field owner declared target) :
      Expected known root
        ⟨junctionTableName owner.name target.name field,
          joinPath (pathOf fields) field ++ JoinPlan.junctionSuffix,
          (Junction.columnsBetween owner.name target.name).1,
          ⟨occurrenceOf root fields, owner.primaryKey⟩⟩
        [(Junction.columnsBetween owner.name target.name).1,
          (Junction.columnsBetween owner.name target.name).2]

section Fields

variable {fields : List String} {field : String}
  (isPath : ∀ other ∈ fields ++ [field], IsFieldPath other)

include isPath

theorem pathSegments_table : pathSegments (joinPath (pathOf fields) field) = fields ++ [field] := by
  rw [Catalog.pathSegments_joinPath_pathOf
    fun other isOther => isPath other (List.mem_append_left _ isOther)]
  rw [(isPath field (by simp)).1]

theorem pathSegments_link :
    pathSegments (joinPath (pathOf fields) field ++ JoinPlan.junctionSuffix) =
      fields ++ [field ++ JoinPlan.junctionSuffix] := by
  rw [joinPath_append, Catalog.pathSegments_joinPath_pathOf
    fun other isOther => isPath other (List.mem_append_left _ isOther)]
  have isField := pathSegments_eq_singleton_iff.1 (isPath field (by simp)).1
  rw [pathSegments_eq_singleton_iff.2]
  rw [String.toList_append, List.mem_append, not_or]
  exact ⟨isField, by decide⟩

end Fields

variable {known : Definitions} {root : StoredEntity}

theorem Hop.unique {fields : List String} {field : String}
    {owner target again other : StoredEntity} {declared declaredAgain : Attribute}
    (hop : Hop known root fields field owner declared target)
    (otherHop : Hop known root fields field again declaredAgain other) :
    owner = again ∧ declared = declaredAgain ∧ target = other := by
  obtain rfl := Option.some.inj (hop.reached.symm.trans otherHop.reached)
  obtain rfl := Option.some.inj (hop.located.symm.trans otherHop.located)
  exact ⟨rfl, rfl, Option.some.inj (hop.leads.symm.trans otherHop.leads)⟩

/-- No table is expected where the join table of a junction is. -/
theorem Hop.segments_ne (suffixFree : known.SuffixFree) (defined : ∃ name, known name = .ok root)
    {fields others : List String} {field other : String} {owner target : StoredEntity}
    {declared : Attribute} (hop : Hop known root fields field owner declared target) :
    fields ++ [field] ≠ others ++ [other ++ JoinPlan.junctionSuffix] := by
  intro same
  obtain ⟨_, suffixed⟩ := List.append_inj' same rfl
  obtain ⟨name, found⟩ := Definitions.exists_of_reach? defined hop.reached
  have named : declared.field = field := Entity.field_of_find? hop.located
  apply suffixFree found declared (Entity.mem_of_find? hop.located)
    (Definitions.isCompound_of_target? hop.leads) other
  rw [named, List.singleton_inj.1 suffixed]

/-- How the table under a path is joined is told by the path. -/
theorem Expected.unique (suffixFree : known.SuffixFree)
    (defined : ∃ name, known name = .ok root) {first second : Join} {columns others : List String}
    (expected : Expected known root first columns) (again : Expected known root second others)
    (same : first.knownAs = second.knownAs) : first = second ∧ columns = others := by
  have segments := congrArg pathSegments same
  cases expected with
  | table hop =>
      rw [pathSegments_table hop.isPath] at segments
      cases again with
      | table otherHop =>
          rw [pathSegments_table otherHop.isPath] at segments
          obtain ⟨rfl, sameField⟩ := List.append_inj' segments rfl
          obtain rfl := List.singleton_inj.1 sameField
          obtain ⟨rfl, rfl, rfl⟩ := hop.unique otherHop
          exact ⟨rfl, rfl⟩
      | link otherHop =>
          rw [pathSegments_link otherHop.isPath] at segments
          exact absurd segments (hop.segments_ne suffixFree defined)
  | link hop =>
      rw [pathSegments_link hop.isPath] at segments
      cases again with
      | table otherHop =>
          rw [pathSegments_table otherHop.isPath] at segments
          exact absurd segments.symm (otherHop.segments_ne suffixFree defined)
      | link otherHop =>
          rw [pathSegments_link otherHop.isPath] at segments
          obtain ⟨rfl, suffixed⟩ := List.append_inj' segments rfl
          obtain rfl := (String.append_left_inj _).1 (List.singleton_inj.1 suffixed)
          obtain ⟨rfl, rfl, rfl⟩ := hop.unique otherHop
          exact ⟨rfl, rfl⟩

/-- Whether a join finds its rows by the primary key of an entity. -/
def Join.IsByKey (known : Definitions) (join : Join) : Prop :=
  ∃ name stored, known name = .ok stored ∧ join.table = stored.tableName ∧
    join.column = stored.primaryKey

/-- Whether a plan has joined just such tables as are expected, each once and behind those that it
refers to. -/
structure JoinPlan.Consistent (known : Definitions) (origin : LoadedEntity) (plan : JoinPlan) :
    Prop where
  isOrigin : plan.entity = origin
  inScope : WellScoped plan.joins
  expected : ∀ join ∈ plan.joins, ∃ source, plan.sources.get? join.knownAs = some source ∧
    source.occurrence = join.occurrence ∧ Expected known origin.declared join source.columns
  isJoined : ∀ key source, plan.sources.get? key = some source →
    ∃ join ∈ plan.joins, join.knownAs = key
  byKey : plan.usesJunction = false → ∀ join ∈ plan.joins, join.IsByKey known

/-- Whether an occurrence is the root of a plan or has been joined. -/
def JoinPlan.Knows (plan : JoinPlan) (occurrence : Occurrence) : Prop :=
  ∀ key, occurrence = .joined key → ∃ join ∈ plan.joins, join.knownAs = key

/-- Whether a plan has the joins of an earlier one, and just these others. -/
def JoinPlan.Adds (joins : List Join) (plan later : JoinPlan) : Prop :=
  ∀ join, join ∈ later.joins ↔ join ∈ plan.joins ∨ join ∈ joins

/-- Whether an entity is reached through fields, and a table is its own. -/
structure Reached (known : Definitions) (root : StoredEntity) (fields : List String)
    (entity : LoadedEntity) (source : Source) : Prop where
  isPath : ∀ field ∈ fields, IsFieldPath field
  reached : known.reach? root fields = some entity.declared
  occurs : source.occurrence = occurrenceOf root fields
  columns : source.columns = tableColumns entity.declared

def targetJoin (target : LoadedEntity) (path : String) (entry : Column) : Join :=
  ⟨target.tableName, path, target.primaryKey, entry⟩

theorem isByKey_targetJoin {owner : String} {member : LoadedAttribute} {target : LoadedEntity}
    (leadsTo : LeadsTo known owner member target) (path : String) (entry : Column) :
    (targetJoin target path entry).IsByKey known := by
  obtain ⟨name, _, found⟩ := Definitions.target?_eq_some.1 leadsTo.target_eq
  exact ⟨name, target.declared, found, rfl, rfl⟩

/-- Behind a lookup stand the join of its target, and what stands behind that. -/
theorem joinsAlong_of_lookup {step leaf : LoadedAttribute} {target : LoadedEntity}
    (carries : step.relation = .lookup target) (owner : Occurrence) (entity : LoadedEntity)
    (path : String) (steps : List LoadedAttribute) :
    joinsAlong owner entity path leaf (step :: steps) =
      targetJoin target (joinPath path step.field) ⟨owner, step.field⟩ ::
        joinsAlong (.joined (joinPath path step.field)) target (joinPath path step.field) leaf
          steps := by
  have isTarget : step.target? = some target := by
    unfold LoadedAttribute.target?
    rw [carries]
  conv_lhs => unfold joinsAlong
  rw [isTarget, relationJoins, carries]
  rfl

/-- How an attribute leads to its target: from its owner, or from the join table. -/
inductive LeadsIn (owner : Occurrence) (path : String) (member : LoadedAttribute)
    (target : LoadedEntity) : Column → Prop
  | lookup (isLookup : member.dataType = .lookup) (carries : member.relation = .lookup target) :
      LeadsIn owner path member target ⟨owner, member.field⟩
  | junction {link : Junction LoadedAttribute} (isJunction : member.dataType = .junction)
      (carries : member.relation = .junction link) (behind : link.target = target) :
      LeadsIn owner path member target
        ⟨.joined (path ++ JoinPlan.junctionSuffix), link.targetColumn⟩

theorem LeadsIn.targetJoin_mem {owner : Occurrence} {ownerKey path : String}
    {member : LoadedAttribute} {target : LoadedEntity} {entry : Column}
    (leads : LeadsIn owner path member target entry) :
    targetJoin target path entry ∈ relationJoins owner ownerKey path member := by
  unfold relationJoins
  cases leads with
  | lookup _ carries =>
      rw [carries]
      exact List.mem_cons_self
  | junction _ carries behind =>
      rw [carries, ← behind]
      exact List.mem_cons_of_mem _ List.mem_cons_self

section Reached

variable {fields : List String} {entity target : LoadedEntity} {source : Source}
  {member : LoadedAttribute} (here : Reached known root fields entity source)
  (isField : IsFieldPath member.field)
  (located : entity.declared.find? member.field = some member.toAttribute)

include here isField located

theorem Reached.hop (leadsTo : LeadsTo known entity.name member target) :
    Hop known root fields member.field entity.declared member.toAttribute target.declared where
  isPath := by
    intro other isOther
    rcases List.mem_append.1 isOther with before | last
    · exact here.isPath other before
    · rw [List.mem_singleton.1 last]
      exact isField
  reached := here.reached
  located := located
  leads := leadsTo.target_eq

theorem Reached.arrives (leadsTo : LeadsTo known entity.name member target) {behind : Source}
    (columns : behind.columns = tableColumns target.declared)
    (occurs : behind.occurrence = .joined (joinPath (pathOf fields) member.field)) :
    Reached known root (fields ++ [member.field]) target behind where
  isPath := (here.hop isField located leadsTo).isPath
  reached := Definitions.reach?_concat_eq_some.2
    ⟨_, _, here.reached, located, leadsTo.target_eq⟩
  occurs := by
    rw [occurs, occurrenceOf, if_neg (by simp), pathOf_concat]
  columns := columns

theorem Reached.expected_linkJoin (leadsTo : LeadsTo known entity.name member target)
    {link : Junction LoadedAttribute} (carries : member.relation = .junction link) :
    Expected known root
      (linkJoin source.occurrence entity.primaryKey (joinPath (pathOf fields) member.field) link)
      [link.sourceColumn, link.targetColumn] := by
  have isLink := LoadedAttribute.link?_of_junction carries
  have whole := Expected.link (here.hop isField located leadsTo)
  have columns : (link.sourceColumn, link.targetColumn) =
      Junction.columnsBetween entity.declared.name target.declared.name :=
    leadsTo.columns link isLink
  have tableName : link.tableName =
      junctionTableName entity.declared.name target.declared.name member.field :=
    leadsTo.tableName link isLink
  rw [← columns, ← tableName, ← here.occurs] at whole
  exact whole

/-- The join to what a step leads to is expected under its path. -/
theorem Reached.exists_entry (isCompound : member.dataType.isCompound = true)
    (leadsTo : LeadsTo known entity.name member target) :
    ∃ entry, LeadsIn source.occurrence (joinPath (pathOf fields) member.field) member target entry ∧
      Expected known root (targetJoin target (joinPath (pathOf fields) member.field) entry)
        (tableColumns target.declared) := by
  have expected := Expected.table (here.hop isField located leadsTo)
  unfold entryColumn at expected
  rcases leadsTo.relation_cases isCompound with
    ⟨isLookup, carries⟩ | ⟨isJunction, link, carries, behind⟩
  · rw [if_pos isLookup, ← here.occurs] at expected
    exact ⟨_, .lookup isLookup carries, expected⟩
  · have isLink := LoadedAttribute.link?_of_junction carries
    have columns : (link.sourceColumn, link.targetColumn) =
        Junction.columnsBetween entity.declared.name target.declared.name :=
      leadsTo.columns link isLink
    rw [if_neg (by rw [isJunction]; decide), ← columns] at expected
    exact ⟨_, .junction isJunction carries behind, expected⟩

end Reached

theorem Source.column_of_mem {source : Source} {name : String} (isColumn : name ∈ source.columns) :
    source.column name = .ok ⟨source.occurrence, name⟩ :=
  if_pos isColumn

theorem primaryKey_mem_tableColumns (stored : StoredEntity) :
    stored.primaryKey ∈ tableColumns stored :=
  List.mem_append_right _ (List.mem_singleton_self _)

theorem Reached.primaryKey_mem {fields : List String} {entity : LoadedEntity} {source : Source}
    (here : Reached known root fields entity source) : entity.primaryKey ∈ source.columns := by
  rw [here.columns]
  exact primaryKey_mem_tableColumns entity.declared

theorem field_mem_tableColumns {stored : StoredEntity} {field : String} {declared : Attribute}
    (located : stored.find? field = some declared) (isColumn : declared.dataType ≠ .junction) :
    field ∈ tableColumns stored := by
  have named : declared.field = field := Entity.field_of_find? located
  rw [← named]
  apply List.mem_append_left
  apply List.mem_map_of_mem
  exact List.mem_filter.2 ⟨Entity.mem_of_find? located, bne_iff_ne.2 isColumn⟩

/-- Whether the column of a path can be planned: it ends at a column, or at a
junction that leads on. -/
structure Plannable (known : Definitions) (entity : LoadedEntity) (resolved : ResolvedPath) :
    Prop where
  reaches : ∃ last, Passes known entity resolved.steps last ∧
    (∀ step ∈ resolved.steps, IsFieldPath step.field) ∧
    (resolved.leaf.dataType ≠ .junction → resolved.leaf.field ∈ tableColumns last.declared) ∧
    (resolved.leaf.dataType = .junction → IsFieldPath resolved.leaf.field ∧
      EndsAt known last resolved.leaf)

def Yields {α : Type} (work : JoinM α) (plan : JoinPlan) (good : α → JoinPlan → Prop) : Prop :=
  ∃ value later, work.run plan = .ok (value, later) ∧ good value later

namespace Yields

variable {α β : Type} {plan : JoinPlan} {good : β → JoinPlan → Prop}

theorem of_run {work : JoinM β} {value : β} {later : JoinPlan} (yields : Yields work plan good)
    (made : work.run plan = .ok (value, later)) : good value later := by
  obtain ⟨_, _, madeAgain, isGood⟩ := yields
  rw [made] at madeAgain
  obtain ⟨rfl, rfl⟩ := Prod.mk.inj (Except.ok.inj madeAgain)
  exact isGood

theorem pure {value : β} (isGood : good value plan) : Yields (Pure.pure value) plan good :=
  ⟨value, plan, rfl, isGood⟩

theorem get {next : JoinPlan → JoinM β} (yields : Yields (next plan) plan good) :
    Yields (MonadState.get >>= next) plan good :=
  yields

theorem bind {work : JoinM α} {next : α → JoinM β} {between : α → JoinPlan → Prop}
    (first : Yields work plan between)
    (second : ∀ value later, between value later → Yields (next value) later good) :
    Yields (work >>= next) plan good := by
  obtain ⟨value, later, worked, isGood⟩ := first
  obtain ⟨result, last, made, isGood⟩ := second value later isGood
  exact ⟨result, last, (Success.run_bind_eq_ok _ _ _ _).2 ⟨value, later, worked, made⟩, isGood⟩

theorem lift {work : Except Fault α} {value : α} (worked : work = .ok value)
    {next : α → JoinM β} (yields : Yields (next value) plan good) :
    Yields ((liftM work : JoinM α) >>= next) plan good := by
  rw [worked]
  exact yields

theorem of_ok {work : Except Fault β} {value : β} (worked : work = .ok value)
    (isGood : good value plan) : Yields (liftM work : JoinM β) plan good := by
  rw [worked]
  exact ⟨value, plan, rfl, isGood⟩

theorem mapM {invariant : JoinPlan → Prop} {work : α → JoinM β} {items : List α}
    (each : ∀ item ∈ items, ∀ plan, invariant plan →
      Yields (work item) plan fun _ later => invariant later)
    (holds : invariant plan) :
    Yields (items.mapM work) plan fun _ later => invariant later := by
  induction items generalizing plan with
  | nil => exact ⟨[], plan, rfl, holds⟩
  | cons item rest hypothesis =>
      rw [List.mapM_cons]
      apply Yields.bind (each item List.mem_cons_self plan holds)
      intro result later kept
      apply Yields.bind
        (hypothesis (fun other isOther => each other (List.mem_cons_of_mem _ isOther)) kept)
      intro others last keptAgain
      exact Yields.pure keptAgain

end Yields

namespace JoinPlan

open Success

variable {origin : LoadedEntity} {fields : List String} {entity target : LoadedEntity}
  {owner : Source} {member : LoadedAttribute} {link : Junction LoadedAttribute}
  {plan later last : JoinPlan} {joins others : List Join}

theorem Adds.of_subset (subset : joins ⊆ plan.joins) : Adds joins plan plan := by
  intro join
  constructor
  · exact Or.inl
  · rintro (there | added)
    · exact there
    · exact subset added

theorem Adds.of_append (same : later.joins = plan.joins ++ joins) : Adds joins plan later := by
  intro join
  rw [same, List.mem_append]

theorem Adds.trans (first : Adds joins plan later) (second : Adds others later last) :
    Adds (joins ++ others) plan last := by
  intro join
  rw [second join, first join, List.mem_append, or_assoc]

theorem Adds.knows (adds : Adds joins plan later) {occurrence : Occurrence}
    (knows : plan.Knows occurrence) : later.Knows occurrence := by
  intro key same
  obtain ⟨join, isJoin, named⟩ := knows key same
  exact ⟨join, (adds join).2 (Or.inl isJoin), named⟩

theorem Adds.knows_joined (adds : Adds joins plan later) {join : Join} (isJoin : join ∈ joins) :
    later.Knows join.occurrence := by
  intro key same
  exact ⟨join, (adds join).2 (Or.inr isJoin), Occurrence.joined.inj same⟩

theorem consistent_start (known : Definitions) (origin : LoadedEntity) :
    Consistent known origin { entity := origin } where
  isOrigin := rfl
  inScope := .nil
  expected := nofun
  isJoined := nofun
  byKey := nofun

theorem Consistent.add (consistent : plan.Consistent known origin) (join : Join) (source : Source)
    (absent : plan.sources.get? join.knownAs = none) (occurs : source.occurrence = join.occurrence)
    (expected : Expected known origin.declared join source.columns)
    (knows : plan.Knows join.owner.table) (uses : Bool)
    (byKey : uses = false → plan.usesJunction = false ∧ join.IsByKey known) :
    Consistent known origin
      { plan with
        joins := plan.joins ++ [join]
        sources := plan.sources.insert join.knownAs source
        usesJunction := uses } where
  isOrigin := consistent.isOrigin
  inScope := by
    apply WellScoped.concat consistent.inScope _ knows
    intro other isOther same
    obtain ⟨found, located, _⟩ := consistent.expected other isOther
    rw [same, absent] at located
    simp at located
  expected := by
    intro other isOther
    rw [Dictionary.get?_insert]
    rcases List.mem_append.1 isOther with earlier | new
    · obtain ⟨found, located, rest⟩ := consistent.expected other earlier
      have differs : other.knownAs ≠ join.knownAs := by
        intro same
        rw [same, absent] at located
        simp at located
      rw [if_neg differs]
      exact ⟨found, located, rest⟩
    · rw [List.mem_singleton.1 new, if_pos rfl]
      exact ⟨source, rfl, occurs, expected⟩
  isJoined := by
    intro key found located
    rw [Dictionary.get?_insert] at located
    split at located
    · rename_i same
      exact ⟨join, by simp, same.symm⟩
    · obtain ⟨other, isOther, named⟩ := consistent.isJoined key found located
      exact ⟨other, List.mem_append_left _ isOther, named⟩
  byKey := by
    intro unused other isOther
    obtain ⟨before, isByKey⟩ := byKey unused
    rcases List.mem_append.1 isOther with earlier | new
    · exact consistent.byKey before other earlier
    · rw [List.mem_singleton.1 new]
      exact isByKey

theorem append_junctionSuffix_ne (path : String) : path ++ junctionSuffix ≠ path := by
  intro same
  have noSuffix : junctionSuffix = "" := by
    rw [← String.append_right_inj path, same, String.append_empty]
  exact absurd noSuffix (by decide)

/-- Joining the table of a junction adds no table for its target. -/
theorem Consistent.absent_of_adds (kept : later.Consistent known origin)
    (consistent : plan.Consistent known origin) {occurrence : Occurrence} {ownerKey path : String}
    (adds : Adds [linkJoin occurrence ownerKey path link] plan later)
    (absent : plan.sources.get? path = none) : later.sources.get? path = none := by
  rw [Option.eq_none_iff_forall_ne_some]
  intro source located
  obtain ⟨join, isJoin, named⟩ := kept.isJoined path source located
  rcases (adds join).1 isJoin with earlier | new
  · obtain ⟨found, locatedBefore, _⟩ := consistent.expected join earlier
    rw [named, absent] at locatedBefore
    simp at locatedBefore
  · rw [List.mem_singleton.1 new] at named
    exact append_junctionSuffix_ne path named

section Junctions

variable (suffixFree : known.SuffixFree) (defined : ∃ name, known name = .ok origin.declared)

include suffixFree defined

theorem Consistent.found (consistent : plan.Consistent known origin) {join : Join}
    {columns : List String} (expected : Expected known origin.declared join columns)
    {source : Source} (located : plan.sources.get? join.knownAs = some source) :
    join ∈ plan.joins ∧ source.occurrence = join.occurrence ∧ source.columns = columns := by
  obtain ⟨other, isOther, named⟩ := consistent.isJoined _ _ located
  obtain ⟨found, locatedAgain, occurs, again⟩ := consistent.expected other isOther
  rw [named, located] at locatedAgain
  obtain rfl := Option.some.inj locatedAgain
  obtain ⟨rfl, sameColumns⟩ := again.unique suffixFree defined expected named
  exact ⟨isOther, occurs, sameColumns⟩

/-- The join table of a junction has a column for the target. -/
theorem yields_linkTable (consistent : plan.Consistent known origin)
    (here : Reached known origin.declared fields entity owner)
    (knows : plan.Knows owner.occurrence) (isField : IsFieldPath member.field)
    (located : entity.declared.find? member.field = some member.toAttribute)
    (leadsTo : LeadsTo known entity.name member target)
    (carries : member.relation = .junction link) :
    Yields (linkTable owner entity.primaryKey member (joinPath (pathOf fields) member.field)) plan
      fun source later =>
        source.occurrence =
            .joined (joinPath (pathOf fields) member.field ++ junctionSuffix) ∧
          link.targetColumn ∈ source.columns ∧ later.Consistent known origin ∧
          Adds [linkJoin owner.occurrence entity.primaryKey
            (joinPath (pathOf fields) member.field) link] plan later := by
  have expected := here.expected_linkJoin isField located leadsTo carries
  have isLink := LoadedAttribute.link?_of_junction carries
  unfold linkTable
  apply Yields.get
  dsimp only
  cases found : plan.sources.get? (joinPath (pathOf fields) member.field ++ junctionSuffix) with
  | some source =>
      apply Yields.pure
      obtain ⟨isJoin, occurs, columns⟩ := consistent.found suffixFree defined expected found
      refine ⟨occurs, ?_, consistent, Adds.of_subset (by simpa using isJoin)⟩
      rw [columns]
      simp
  | none =>
      rw [isLink]
      dsimp only
      apply Yields.lift (Source.column_of_mem List.mem_cons_self)
      apply Yields.lift (Source.column_of_mem here.primaryKey_mem)
      have added := consistent.add (linkJoin owner.occurrence entity.primaryKey
        (joinPath (pathOf fields) member.field) link)
        ⟨.joined (joinPath (pathOf fields) member.field ++ junctionSuffix),
          [link.sourceColumn, link.targetColumn]⟩ found rfl expected knows true (by simp)
      exact ⟨_, _, rfl, rfl, by simp, added, Adds.of_append rfl⟩

/-- The joins of a step are all there if that of its target is. -/
theorem Consistent.relationJoins_subset (consistent : plan.Consistent known origin)
    (here : Reached known origin.declared fields entity owner) (isField : IsFieldPath member.field)
    (located : entity.declared.find? member.field = some member.toAttribute)
    (leadsTo : LeadsTo known entity.name member target) {entry : Column}
    (leads : LeadsIn owner.occurrence (joinPath (pathOf fields) member.field) member target entry)
    (isJoin : targetJoin target (joinPath (pathOf fields) member.field) entry ∈ plan.joins) :
    relationJoins owner.occurrence entity.primaryKey (joinPath (pathOf fields) member.field)
      member ⊆ plan.joins := by
  cases leads with
  | lookup _ carries => simpa [relationJoins, carries, targetJoin] using isJoin
  | @junction link _ carries behind =>
      obtain ⟨other, isOther, named⟩ := consistent.inScope.refers isJoin rfl
      have expected := here.expected_linkJoin isField located leadsTo carries
      obtain ⟨source, _, _, expectedThere⟩ := consistent.expected other isOther
      obtain ⟨rfl, _⟩ := expectedThere.unique suffixFree defined expected named
      intro join member
      simp only [relationJoins, carries, List.mem_cons, List.not_mem_nil, or_false] at member
      rcases member with rfl | rfl
      · exact isOther
      · rw [behind]
        exact isJoin

/-- The table of what a step leads on to is found or joined. -/
theorem yields_targetTable (consistent : plan.Consistent known origin)
    (here : Reached known origin.declared fields entity owner)
    (knows : plan.Knows owner.occurrence) (isField : IsFieldPath member.field)
    (located : entity.declared.find? member.field = some member.toAttribute)
    (isCompound : member.dataType.isCompound = true)
    (leadsTo : LeadsTo known entity.name member target) :
    Yields (targetTable owner entity.primaryKey member target
        (joinPath (pathOf fields) member.field)) plan fun source later =>
      Reached known origin.declared (fields ++ [member.field]) target source ∧
        later.Consistent known origin ∧
        Adds (relationJoins owner.occurrence entity.primaryKey
          (joinPath (pathOf fields) member.field) member) plan later := by
  obtain ⟨entry, leads, expected⟩ := here.exists_entry isField located isCompound leadsTo
  have arrives {source : Source} (columns : source.columns = tableColumns target.declared)
      (occurs : source.occurrence = .joined (joinPath (pathOf fields) member.field)) :
      Reached known origin.declared (fields ++ [member.field]) target source :=
    here.arrives isField located leadsTo columns occurs
  unfold targetTable
  apply Yields.get
  cases found : plan.sources.get? (joinPath (pathOf fields) member.field) with
  | some source =>
      apply Yields.pure
      obtain ⟨isJoin, occurs, columns⟩ := consistent.found suffixFree defined expected found
      exact ⟨arrives columns occurs, consistent, Adds.of_subset
        (consistent.relationJoins_subset suffixFree defined here isField located leadsTo leads
          isJoin)⟩
  | none =>
      have columns := columns_ofEntity (.joined (joinPath (pathOf fields) member.field)) target
      have isByKey :=
        isByKey_targetJoin leadsTo (joinPath (pathOf fields) member.field) entry
      have adds {before : JoinPlan} (kept : before.Consistent known origin)
          (absent : before.sources.get? (joinPath (pathOf fields) member.field) = none)
          (knowsEntry : before.Knows entry.table) :=
        kept.add (targetJoin target (joinPath (pathOf fields) member.field) entry)
          (.ofEntity (.joined (joinPath (pathOf fields) member.field)) target) absent rfl
          (columns ▸ expected) knowsEntry before.usesJunction fun unused => ⟨unused, isByKey⟩
      dsimp only
      apply Yields.lift (Source.column_of_mem (columns ▸ primaryKey_mem_tableColumns _))
      cases leads with
      | lookup isLookup carries =>
          rw [if_pos isLookup]
          have isColumn : member.field ∈ owner.columns := by
            rw [here.columns]
            exact field_mem_tableColumns located (by rw [isLookup]; decide)
          apply Yields.lift (Source.column_of_mem isColumn)
          refine ⟨_, _, rfl, arrives columns rfl, adds consistent found knows, ?_⟩
          unfold relationJoins
          rw [carries]
          exact Adds.of_append rfl
      | @junction link isJunction carries behind =>
          rw [if_neg (by rw [isJunction]; decide)]
          have isLink := LoadedAttribute.link?_of_junction carries
          apply Yields.bind
            (yields_linkTable suffixFree defined consistent here knows isField located leadsTo
              carries)
          rintro linked later ⟨occurs, isColumn, kept, added⟩
          rw [isLink]
          dsimp only
          apply Yields.lift (Source.column_of_mem isColumn)
          have knowsLink : later.Knows
              (.joined (joinPath (pathOf fields) member.field ++ junctionSuffix)) :=
            added.knows_joined (List.mem_singleton_self _)
          have absent := kept.absent_of_adds consistent added found
          rw [occurs]
          refine ⟨_, _, rfl, arrives columns rfl, adds kept absent knowsLink, ?_⟩
          unfold relationJoins
          rw [carries]
          subst behind
          exact added.trans (Adds.of_append rfl)

/-- The tables of steps are joined, and the rest of a path starts behind them. -/
theorem yields_follow {steps : List LoadedAttribute} {last : LoadedEntity}
    (passes : Passes known entity steps last) (consistent : plan.Consistent known origin)
    (here : Reached known origin.declared fields entity owner)
    (knows : plan.Knows owner.occurrence)
    (areFields : ∀ step ∈ steps, IsFieldPath step.field) :
    Yields (follow owner entity (pathOf fields) steps) plan fun result later =>
      result.2.1 = last ∧ result.2.2 = pathOf (fields ++ steps.map (·.field)) ∧
        Reached known origin.declared (fields ++ steps.map (·.field)) last result.1 ∧
        later.Consistent known origin ∧ later.Knows result.1.occurrence ∧
        ∃ passed, Adds passed plan later ∧
          ∀ leaf, joinsAlong owner.occurrence entity (pathOf fields) leaf steps =
              passed ++ joinsAlong result.1.occurrence last result.2.2 leaf [] ∧
            columnAlong owner.occurrence (pathOf fields) leaf steps =
              columnAlong result.1.occurrence result.2.2 leaf [] := by
  induction passes generalizing plan fields owner with
  | here entity =>
      apply Yields.pure
      rw [List.map_nil, List.append_nil]
      exact ⟨rfl, rfl, here, consistent, knows, [], Adds.of_subset (List.nil_subset _),
        fun leaf => ⟨rfl, rfl⟩⟩
  | @through entity target last step steps located isCompound leadsTo onward hypothesis =>
      unfold follow
      rw [leadsTo.carries]
      dsimp only
      apply Yields.bind (yields_targetTable suffixFree defined consistent here knows
        (areFields step List.mem_cons_self) located isCompound leadsTo)
      rintro source later ⟨there, kept, added⟩
      have occurs : source.occurrence = .joined (joinPath (pathOf fields) step.field) := by
        rw [there.occurs, occurrenceOf, if_neg (by simp), pathOf_concat]
      have knowsSource : later.Knows source.occurrence := by
        obtain ⟨entry, leads, _⟩ :=
          here.exists_entry (areFields step List.mem_cons_self) located isCompound leadsTo
        rw [occurs]
        exact added.knows_joined leads.targetJoin_mem
      have behind := hypothesis kept there knowsSource
        fun other isOther => areFields other (List.mem_cons_of_mem _ isOther)
      rw [List.append_assoc, List.singleton_append, pathOf_concat] at behind
      obtain ⟨result, final, followed, isLast, path, arrived, consistentThen, knowsThen, passed,
        addedThen, rest⟩ := behind
      refine ⟨result, final, followed, isLast, path, arrived, consistentThen, knowsThen,
        relationJoins owner.occurrence entity.primaryKey (joinPath (pathOf fields) step.field) step
          ++ passed, added.trans addedThen, fun leaf => ?_⟩
      obtain ⟨restJoins, restColumn⟩ := rest leaf
      rw [occurs] at restJoins restColumn
      constructor
      · rw [List.append_assoc, ← restJoins]
        conv_lhs => unfold joinsAlong
        rw [leadsTo.carries]
      · rw [← restColumn]
        conv_lhs => unfold columnAlong

/-- A path that can be planned has a column, and its joins. -/
theorem yields_columnFor {resolved : ResolvedPath} (plannable : Plannable known origin resolved)
    (consistent : plan.Consistent known origin) :
    Yields (columnFor resolved) plan fun column later =>
      column = resolved.columnIn origin ∧ later.Consistent known origin ∧
        Adds (resolved.joins origin) plan later := by
  obtain ⟨last, passes, areFields, isColumn, isJunction⟩ := plannable.reaches
  obtain rfl := consistent.isOrigin
  have here : Reached known plan.entity.declared [] plan.entity plan.root :=
    ⟨nofun, rfl, rfl, columns_ofEntity _ _⟩
  have knowsRoot : plan.Knows plan.root.occurrence := nofun
  unfold columnFor
  apply Yields.get
  apply Yields.bind (yields_follow suffixFree defined passes consistent here knowsRoot areFields)
  rintro ⟨owner, entity, path⟩ later ⟨rfl, rfl, there, kept, knows, passed, added, rest⟩
  obtain ⟨joins, column⟩ := rest resolved.leaf
  change resolved.joins plan.entity = _ at joins
  change resolved.columnIn plan.entity = _ at column
  rw [joins, column]
  dsimp only
  split
  · rename_i junction
    obtain ⟨isField, endsAt⟩ := isJunction junction
    obtain ⟨target, leadsTo⟩ := endsAt.leadsOn junction
    obtain ⟨link, carries, _⟩ :=
      leadsTo.exists_link (by rw [junction]; rfl) (by rw [junction]; decide)
    have isLink := LoadedAttribute.link?_of_junction carries
    apply Yields.bind (yields_linkTable suffixFree defined kept there knows isField endsAt.located
      leadsTo carries)
    rintro linked again ⟨occurs, isLinked, keptAgain, addedAgain⟩
    unfold joinsAlong columnAlong
    rw [isLink, junction]
    dsimp only
    rw [← occurs]
    exact Yields.of_ok (Source.column_of_mem isLinked) ⟨rfl, keptAgain, added.trans addedAgain⟩
  · rename_i notJunction
    have isOwned := isColumn notJunction
    rw [← there.columns] at isOwned
    rw [joinsAlong_of_column notJunction, columnAlong_of_column notJunction, List.append_nil]
    exact Yields.of_ok (Source.column_of_mem isOwned) ⟨rfl, kept, added⟩

end Junctions

end JoinPlan

end Sql
end SchemaQuery
