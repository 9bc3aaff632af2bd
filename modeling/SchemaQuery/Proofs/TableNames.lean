import SchemaQuery.Proofs.ConditionColumns
import SchemaQuery.Proofs.PageWindow
import SchemaQuery.Proofs.PlannedLists

/-!
# The names of the tables in a statement

A table that is joined has an alias, which is the path that leads to it or, for the join table of a
junction, that path with a suffix.  The table that rows are selected from goes by its own name.
This file proves that no two aliases are the same, whatever attributes are called, and that each
column of a statement is one of its tables.  So a statement is ambiguous only where the name of the
root table is one of the aliases, and there it is: a table called like a relationship of its entity
cannot be told from what the relationship leads to.
-/

namespace SchemaQuery
namespace Sql

open Success

/-- Whether work on a plan, if it succeeds, answers well and leaves a good plan. -/
def Ensures {α : Type} (work : JoinM α) (plan : JoinPlan) (good : α → JoinPlan → Prop) : Prop :=
  ∀ value later, work.run plan = .ok (value, later) → good value later

namespace Ensures

variable {α β : Type} {plan : JoinPlan} {good : β → JoinPlan → Prop}

theorem pure {value : β} (isGood : good value plan) : Ensures (Pure.pure value) plan good := by
  intro _ _ made
  rw [StateT.run_pure, pure_eq_ok] at made
  obtain ⟨rfl, rfl⟩ := Prod.mk.inj made
  exact isGood

theorem throw (fault : Fault) : Ensures (throw fault : JoinM β) plan good := by
  intro _ _ made
  exact ((run_throw_ne_ok _ _ _).1 made).elim

theorem get {next : JoinPlan → JoinM β} (ensures : Ensures (next plan) plan good) :
    Ensures (MonadState.get >>= next) plan good :=
  ensures

theorem modify {change : JoinPlan → JoinPlan} {next : PUnit → JoinM β}
    (ensures : Ensures (next ⟨⟩) (change plan) good) :
    Ensures (modify change >>= next) plan good :=
  ensures

theorem bind {work : JoinM α} {next : α → JoinM β} {between : α → JoinPlan → Prop}
    (first : Ensures work plan between)
    (second : ∀ value later, between value later → Ensures (next value) later good) :
    Ensures (work >>= next) plan good := by
  intro result last made
  obtain ⟨value, later, worked, made⟩ := (run_bind_eq_ok _ _ _ _).1 made
  exact second value later (first value later worked) result last made

theorem of_lift {work : Except Fault β} (each : ∀ value, work = .ok value → good value plan) :
    Ensures (liftM work : JoinM β) plan good := by
  intro result later made
  obtain ⟨value, worked, same⟩ := (run_lift_eq_ok _ _ _).1 made
  obtain ⟨rfl, rfl⟩ := Prod.mk.inj same
  exact each value worked

theorem lift {work : Except Fault α} {next : α → JoinM β}
    (each : ∀ value, work = .ok value → Ensures (next value) plan good) :
    Ensures ((liftM work : JoinM α) >>= next) plan good := by
  intro result last made
  obtain ⟨value, later, worked, made⟩ := (run_bind_eq_ok _ _ _ _).1 made
  obtain ⟨_, answered, same⟩ := (run_lift_eq_ok _ _ _).1 worked
  obtain ⟨rfl, rfl⟩ := Prod.mk.inj same
  exact each _ answered result last made

end Ensures

theorem Source.table_of_column {source : Source} {name : String} {column : Column}
    (made : source.column name = .ok column) : column.table = source.occurrence := by
  rw [Source.eq_of_column made]

def stepPaths (path : String) : List LoadedAttribute → List String
  | [] => []
  | step :: rest => joinPath path step.field :: stepPaths (joinPath path step.field) rest

/-- The path of a relationship, and that of its join table. -/
def relationAliases (path : String) (member : LoadedAttribute) : List String :=
  if member.dataType = .lookup then [path] else [path, path ++ JoinPlan.junctionSuffix]

/-- The aliases for a path, and for the join table of a junction at its end. -/
def aliasesAlong (path : String) (leaf : LoadedAttribute) : List LoadedAttribute → List String
  | [] =>
      if leaf.dataType = .junction then [joinPath path leaf.field ++ JoinPlan.junctionSuffix]
      else []
  | step :: rest =>
      relationAliases (joinPath path step.field) step ++
        aliasesAlong (joinPath path step.field) leaf rest

end Sql

namespace ResolvedPath

open Sql

def relationshipPaths (resolved : ResolvedPath) : List String :=
  stepPaths "" resolved.steps

def aliases (resolved : ResolvedPath) : List String :=
  aliasesAlong "" resolved.leaf resolved.steps

end ResolvedPath

namespace Sql

open Success

namespace JoinPlan

def tables (plan : JoinPlan) : List Occurrence :=
  .root plan.entity.tableName :: plan.joins.map Join.occurrence

/-- Whether the tables of a plan have different aliases, under which they are filed, and are joined
to one another. -/
structure WellNamed (plan : JoinPlan) : Prop where
  nodup : (plan.joins.map Join.knownAs).Nodup
  refers : ∀ join ∈ plan.joins, join.owner.table ∈ plan.tables
  isFiled : ∀ join ∈ plan.joins, ∃ source, plan.sources.get? join.knownAs = some source
  isJoined : ∀ key source, plan.sources.get? key = some source →
    source.occurrence = .joined key ∧ source.occurrence ∈ plan.tables

/-- Whether a plan has the tables of an earlier one, and others only under some aliases. -/
structure Grows (aliases : List String) (plan later : JoinPlan) : Prop where
  wellNamed : later.WellNamed
  keeps : plan.tables ⊆ later.tables
  adds : ∀ join ∈ later.joins, join ∈ plan.joins ∨ join.knownAs ∈ aliases

variable {plan between later : JoinPlan} {aliases others : List String} {owner source : Source}
  {path : String}

theorem wellNamed_start (entity : LoadedEntity) : WellNamed { entity } where
  nodup := List.nodup_nil
  refers := nofun
  isFiled := nofun
  isJoined := nofun

theorem mem_tables_joined {key : String} :
    .joined key ∈ plan.tables ↔ key ∈ plan.joins.map Join.knownAs := by
  simp [tables, Join.occurrence]

theorem Grows.refl (wellNamed : plan.WellNamed) : Grows aliases plan plan where
  wellNamed := wellNamed
  keeps := List.Subset.refl _
  adds := fun _ => Or.inl

theorem Grows.trans (first : Grows aliases plan between)
    (second : Grows others between later) : Grows (aliases ++ others) plan later where
  wellNamed := second.wellNamed
  keeps := List.Subset.trans first.keeps second.keeps
  adds := by
    intro join isJoin
    rcases second.adds join isJoin with earlier | added
    · exact (first.adds join earlier).imp_right (List.mem_append_left _)
    · exact Or.inr (List.mem_append_right _ added)

theorem Grows.mono (grows : Grows aliases plan later) (subset : aliases ⊆ others) :
    Grows others plan later where
  wellNamed := grows.wellNamed
  keeps := grows.keeps
  adds := fun join isJoin => (grows.adds join isJoin).imp_right (@subset _)

theorem Grows.usingJunction (grows : Grows aliases plan later) :
    Grows aliases plan { later with usesJunction := true } where
  wellNamed :=
    { nodup := grows.wellNamed.nodup
      refers := grows.wellNamed.refers
      isFiled := grows.wellNamed.isFiled
      isJoined := grows.wellNamed.isJoined }
  keeps := grows.keeps
  adds := grows.adds

theorem WellNamed.not_mem_of_absent (wellNamed : plan.WellNamed) {key : String}
    (absent : plan.sources.get? key = none) : key ∉ plan.joins.map Join.knownAs := by
  intro isAlias
  obtain ⟨join, isJoin, rfl⟩ := List.mem_map.1 isAlias
  obtain ⟨source, filed⟩ := wellNamed.isFiled join isJoin
  rw [absent] at filed
  simp at filed

theorem WellNamed.add (wellNamed : plan.WellNamed) (join : Join) (source : Source)
    (absent : plan.sources.get? join.knownAs = none) (occurs : source.occurrence = join.occurrence)
    (refers : join.owner.table ∈ plan.tables) :
    Grows [join.knownAs] plan
      { plan with
        joins := plan.joins ++ [join]
        sources := plan.sources.insert join.knownAs source } := by
  have fresh := wellNamed.not_mem_of_absent absent
  have keeps : plan.tables ⊆ .root plan.entity.tableName ::
      (plan.joins ++ [join]).map Join.occurrence := by
    rw [List.map_append]
    exact List.subset_append_left plan.tables _
  have there : join.occurrence ∈ .root plan.entity.tableName ::
      (plan.joins ++ [join]).map Join.occurrence := by simp
  refine ⟨⟨?_, ?_, ?_, ?_⟩, keeps, ?_⟩
  · rw [List.map_append, List.map_singleton]
    refine List.nodup_append.2 ⟨wellNamed.nodup, List.nodup_singleton _, ?_⟩
    rintro other isOther _ isNew rfl
    exact fresh (List.mem_singleton.1 isNew ▸ isOther)
  · intro other isOther
    rcases List.mem_append.1 isOther with earlier | new
    · exact keeps (wellNamed.refers other earlier)
    · rw [List.mem_singleton.1 new]
      exact keeps refers
  · intro other isOther
    rw [Dictionary.get?_insert]
    split
    · exact ⟨source, rfl⟩
    · rename_i differs
      rcases List.mem_append.1 isOther with earlier | new
      · exact wellNamed.isFiled other earlier
      · exact absurd (by rw [List.mem_singleton.1 new]) differs
  · intro key found located
    rw [Dictionary.get?_insert] at located
    split at located
    · rename_i same
      obtain rfl := Option.some.inj located
      rw [occurs]
      exact ⟨by rw [same]; rfl, there⟩
    · obtain ⟨named, isTable⟩ := wellNamed.isJoined key found located
      exact ⟨named, keeps isTable⟩
  · intro other isOther
    rcases List.mem_append.1 isOther with earlier | new
    · exact Or.inl earlier
    · exact Or.inr (by rw [List.mem_singleton.1 new]; exact List.mem_singleton_self _)

theorem ensures_join (wellNamed : plan.WellNamed) {path : String}
    (absent : plan.sources.get? path = none) (occurs : source.occurrence = .joined path)
    {ownerColumn : Column} (refers : ownerColumn.table ∈ plan.tables) (table : String)
    (column : Column) :
    Ensures (join path table source column ownerColumn) plan fun value later =>
      value = source ∧ value.occurrence ∈ later.tables ∧ Grows [path] plan later := by
  unfold join
  apply Ensures.modify
  apply Ensures.pure
  refine ⟨rfl, ?_,
    wellNamed.add ⟨table, path, column.name, ownerColumn⟩ source absent occurs refers⟩
  simp [tables, occurs, Join.occurrence]

theorem ensures_linkTable (wellNamed : plan.WellNamed) (there : owner.occurrence ∈ plan.tables)
    (ownerKey : String) (member : LoadedAttribute) (path : String) :
    Ensures (linkTable owner ownerKey member path) plan fun source later =>
      source.occurrence = .joined (path ++ junctionSuffix) ∧ source.occurrence ∈ later.tables ∧
        Grows [path ++ junctionSuffix] plan later := by
  unfold linkTable
  apply Ensures.get
  dsimp only
  cases found : plan.sources.get? (path ++ junctionSuffix) with
  | some source =>
      obtain ⟨named, isTable⟩ := wellNamed.isJoined _ _ found
      exact Ensures.pure ⟨named, isTable, .refl wellNamed⟩
  | none =>
      cases member.link? with
      | none => exact Ensures.throw _
      | some link =>
          apply Ensures.lift
          intro column _
          apply Ensures.lift
          intro ownerColumn made
          rw [← Source.table_of_column made] at there
          refine Ensures.bind (ensures_join wellNamed found rfl there _ _) ?_
          rintro source later ⟨rfl, isTable, grows⟩
          apply Ensures.modify
          exact Ensures.pure ⟨rfl, isTable, grows.usingJunction⟩

/-- Joining the table of a junction adds no table for its target. -/
theorem Grows.absent_of_link (grows : Grows [path ++ junctionSuffix] plan later)
    (wellNamed : plan.WellNamed) (absent : plan.sources.get? path = none) :
    later.sources.get? path = none := by
  rw [Option.eq_none_iff_forall_ne_some]
  intro source located
  obtain ⟨named, isTable⟩ := grows.wellNamed.isJoined path source located
  rw [named, mem_tables_joined] at isTable
  obtain ⟨join, isJoin, same⟩ := List.mem_map.1 isTable
  rcases grows.adds join isJoin with earlier | added
  · exact wellNamed.not_mem_of_absent absent (same ▸ List.mem_map_of_mem earlier)
  · exact append_junctionSuffix_ne path ((List.mem_singleton.1 added).symm.trans same)

theorem ensures_targetTable (wellNamed : plan.WellNamed) (there : owner.occurrence ∈ plan.tables)
    (ownerKey : String) (member : LoadedAttribute) (target : LoadedEntity) (path : String) :
    Ensures (targetTable owner ownerKey member target path) plan fun source later =>
      source.occurrence = .joined path ∧ source.occurrence ∈ later.tables ∧
        Grows (relationAliases path member) plan later := by
  unfold targetTable
  apply Ensures.get
  dsimp only
  cases found : plan.sources.get? path with
  | some source =>
      obtain ⟨named, isTable⟩ := wellNamed.isJoined _ _ found
      exact Ensures.pure ⟨named, isTable, .refl wellNamed⟩
  | none =>
      apply Ensures.lift
      intro key _
      unfold relationAliases
      split
      · apply Ensures.lift
        intro column made
        rw [← Source.table_of_column made] at there
        rintro source later joined
        obtain ⟨rfl, isTable, grows⟩ := ensures_join wellNamed found rfl there _ _ _ _ joined
        exact ⟨rfl, isTable, grows⟩
      · refine Ensures.bind (ensures_linkTable wellNamed there ownerKey member path) ?_
        rintro linked between ⟨_, linkedThere, grows⟩
        cases member.link? with
        | none => exact Ensures.throw _
        | some link =>
            dsimp only
            apply Ensures.lift
            intro column made
            rw [← Source.table_of_column made] at linkedThere
            rintro source later joined
            obtain ⟨rfl, isTable, further⟩ := ensures_join grows.wellNamed
              (grows.absent_of_link wellNamed found) rfl linkedThere _ _ _ _ joined
            refine ⟨rfl, isTable, (grows.trans further).mono ?_⟩
            simp

/-- What steps lead through is joined, and the rest of a path starts where they end. -/
theorem ensures_follow (wellNamed : plan.WellNamed) (there : owner.occurrence ∈ plan.tables)
    (entity : LoadedEntity) (path : String) (steps : List LoadedAttribute) :
    Ensures (follow owner entity path steps) plan fun result later =>
      result.1.occurrence ∈ later.tables ∧
        (∀ stepPath ∈ stepPaths path steps, .joined stepPath ∈ later.tables) ∧
        ∃ passed, Grows passed plan later ∧
          ∀ leaf, aliasesAlong path leaf steps = passed ++ aliasesAlong result.2.2 leaf [] := by
  induction steps generalizing plan owner entity path with
  | nil => exact Ensures.pure ⟨there, nofun, [], .refl wellNamed, fun leaf => rfl⟩
  | cons step rest hypothesis =>
      unfold follow
      cases step.target? with
      | none => exact Ensures.throw _
      | some target =>
          dsimp only
          refine Ensures.bind (ensures_targetTable wellNamed there _ step target _) ?_
          rintro source between ⟨named, isTable, grows⟩ result later followed
          obtain ⟨last, behind, passed, further, along⟩ :=
            hypothesis grows.wellNamed isTable target (joinPath path step.field) _ _ followed
          refine ⟨last, ?_, relationAliases (joinPath path step.field) step ++ passed,
            grows.trans further, fun leaf => ?_⟩
          · unfold stepPaths
            exact List.forall_mem_cons.2 ⟨further.keeps (named ▸ isTable), behind⟩
          · rw [List.append_assoc, ← along leaf]
            rfl

theorem ensures_columnFor (wellNamed : plan.WellNamed) (resolved : ResolvedPath) :
    Ensures (columnFor resolved) plan fun column later =>
      column.table ∈ later.tables ∧
        (∀ path ∈ resolved.relationshipPaths, .joined path ∈ later.tables) ∧
        Grows resolved.aliases plan later := by
  have root : plan.root.occurrence ∈ plan.tables := List.mem_cons_self
  unfold columnFor
  apply Ensures.get
  refine Ensures.bind (ensures_follow wellNamed root plan.entity "" resolved.steps) ?_
  rintro ⟨owner, entity, path⟩ between ⟨isTable, behind, passed, grows, along⟩
  have aliases : resolved.aliases = _ := along resolved.leaf
  rw [aliases]
  dsimp only at isTable ⊢
  unfold aliasesAlong
  split
  · refine Ensures.bind (ensures_linkTable grows.wellNamed isTable _ _ _) ?_
    rintro linked later ⟨_, linkedThere, further⟩
    cases resolved.leaf.link? with
    | none => exact Ensures.throw _
    | some link =>
        apply Ensures.of_lift
        intro column made
        rw [Source.table_of_column made]
        exact ⟨linkedThere, fun stepPath isStep => further.keeps (behind stepPath isStep),
          grows.trans further⟩
  · apply Ensures.of_lift
    intro column made
    rw [Source.table_of_column made, List.append_nil]
    exact ⟨isTable, behind, grows⟩

/-- Work on items that need and use tables has all of them joined in the end. -/
theorem ensures_mapM {α β : Type} {work : α → JoinM β} {aliases : α → List String}
    {needs : α → List Occurrence} {uses : β → List Occurrence}
    (each : ∀ item (plan : JoinPlan), plan.WellNamed → Ensures (work item) plan fun value later =>
      needs item ⊆ later.tables ∧ uses value ⊆ later.tables ∧ Grows (aliases item) plan later)
    (wellNamed : plan.WellNamed) (items : List α) :
    Ensures (items.mapM work) plan fun values later =>
      (∀ item ∈ items, needs item ⊆ later.tables) ∧ (∀ value ∈ values, uses value ⊆ later.tables) ∧
        Grows (items.flatMap aliases) plan later := by
  induction items generalizing plan with
  | nil =>
      rw [List.mapM_nil]
      exact Ensures.pure ⟨nofun, nofun, .refl wellNamed⟩
  | cons item rest hypothesis =>
      rw [List.mapM_cons]
      refine Ensures.bind (each item plan wellNamed) ?_
      rintro value between ⟨needed, used, grows⟩
      refine Ensures.bind (hypothesis grows.wellNamed) ?_
      rintro values later ⟨neededByRest, usedByRest, further⟩
      exact Ensures.pure
        ⟨List.forall_mem_cons.2 ⟨List.Subset.trans needed further.keeps, neededByRest⟩,
          List.forall_mem_cons.2 ⟨List.Subset.trans used further.keeps, usedByRest⟩,
          grows.trans further⟩

end JoinPlan

end Sql

namespace ResolvedPath

open Sql

def relationshipTables (resolved : ResolvedPath) : List Occurrence :=
  resolved.relationshipPaths.map Occurrence.joined

end ResolvedPath

namespace Listing

open Sql Success

variable {operators : Operators} {entity : LoadedEntity} {filters : List ResolvedFilter}
  {sorts : List ResolvedSort} {filtering : List Condition} {sorted : List SortColumn}
  {plan : JoinPlan}

theorem ensures_filterConditions (stay : operators.StayOnColumn) (wellNamed : plan.WellNamed)
    (filters : List ResolvedFilter) :
    Ensures (filterConditions operators filters) plan fun filtering later =>
      (∀ filter ∈ filters, filter.target.relationshipTables ⊆ later.tables) ∧
        (∀ condition ∈ filtering, condition.columns.map Column.table ⊆ later.tables) ∧
        JoinPlan.Grows (filters.flatMap fun filter => filter.target.aliases) plan later := by
  apply JoinPlan.ensures_mapM _ wellNamed
  intro filter plan wellNamed
  refine Ensures.bind (JoinPlan.ensures_columnFor wellNamed filter.target) ?_
  rintro column later ⟨isTable, behind, grows⟩
  apply Ensures.of_lift
  intro condition made
  have about := ResolvedFilter.columns_condition stay made
  refine ⟨fun _ => List.forall_mem_map.2 behind _, fun _ => List.forall_mem_map.2 ?_ _, grows⟩
  intro other isOther
  rw [List.mem_singleton.1 (about isOther)]
  exact isTable

theorem ensures_sortColumns (wellNamed : plan.WellNamed) (sorts : List ResolvedSort) :
    Ensures (sortColumns sorts) plan fun sorted later =>
      (∀ sort ∈ sorts, sort.target.relationshipTables ⊆ later.tables) ∧
        (∀ column ∈ sorted, [column.column.table] ⊆ later.tables) ∧
        JoinPlan.Grows (sorts.flatMap fun sort => sort.target.aliases) plan later := by
  apply JoinPlan.ensures_mapM _ wellNamed
  intro sort plan wellNamed
  refine Ensures.bind (JoinPlan.ensures_columnFor wellNamed sort.target) ?_
  rintro column later ⟨isTable, behind, grows⟩
  exact Ensures.pure ⟨fun _ => List.forall_mem_map.2 behind _, by simpa using isTable, grows⟩

/-- No two planned tables have the same alias, and the relationships of filters and
sorts all have one. -/
theorem grows_of_planned (stay : operators.StayOnColumn)
    (planned : (Listing.planned operators filters sorts).run { entity } =
      .ok ((filtering, sorted), plan)) :
    JoinPlan.Grows ((paths filters sorts).flatMap ResolvedPath.aliases) { entity } plan ∧
      (∀ path ∈ paths filters sorts, path.relationshipTables ⊆ plan.tables) ∧
      (∀ condition ∈ filtering, condition.columns.map Column.table ⊆ plan.tables) ∧
      ∀ column ∈ sorted, column.column.table ∈ plan.tables := by
  simp only [Listing.planned, run_bind_eq_ok, StateT.run_pure, pure_eq_ok, Prod.mk.injEq]
    at planned
  obtain ⟨_, between, filteringMade, _, _, sortedMade, ⟨rfl, rfl⟩, rfl⟩ := planned
  obtain ⟨filterPaths, filterColumns, grows⟩ :=
    ensures_filterConditions stay (JoinPlan.wellNamed_start entity) filters _ _ filteringMade
  obtain ⟨sortPaths, sortColumns, further⟩ :=
    ensures_sortColumns grows.wellNamed sorts _ _ sortedMade
  refine ⟨?_, ?_, ?_, fun column isColumn => sortColumns column isColumn List.mem_cons_self⟩
  · unfold paths
    rw [List.flatMap_append, List.flatMap_map, List.flatMap_map]
    exact grows.trans further
  · rw [forall_mem_paths]
    exact ⟨fun filter isFilter => List.Subset.trans (filterPaths filter isFilter) further.keeps,
      sortPaths⟩
  · exact fun condition isCondition =>
      List.Subset.trans (filterColumns condition isCondition) further.keeps

end Listing

namespace Sql.Select

/-- The tables of a statement: the root, and those that are joined to it. -/
def tables (statement : Select) : List Occurrence :=
  .root statement.root :: statement.joins.map Join.occurrence

def tablesNamed (statement : Select) (name : String) : List Occurrence :=
  statement.tables.filter fun table => table.name = name

/-- The columns that a statement mentions anywhere. -/
def columns (statement : Select) : List Column :=
  statement.projections.map Projection.column ++
    (statement.joins.flatMap fun join => [⟨join.occurrence, join.column⟩, join.owner]) ++
    statement.condition.columns ++ statement.order.map OrderTerm.column

/-- Names are told apart where the root is not called like an alias. -/
theorem nodup_names_iff {statement : Select}
    (nodup : (statement.joins.map Join.knownAs).Nodup) :
    (statement.tables.map Occurrence.name).Nodup ↔
      statement.root ∉ statement.joins.map Join.knownAs := by
  have names : statement.tables.map Occurrence.name =
      statement.root :: statement.joins.map Join.knownAs := by
    unfold tables
    rw [List.map_cons, List.map_map]
    rfl
  rw [names, List.nodup_cons, and_iff_left nodup]

theorem filter_eq_singleton_of_nodup {α : Type} {name : α → String} {items : List α}
    (nodup : (items.map name).Nodup) {item : α} (member : item ∈ items) :
    items.filter (fun other => name other = name item) = [item] := by
  induction items with
  | nil => simp at member
  | cons first rest hypothesis =>
      obtain ⟨fresh, restNodup⟩ := List.nodup_cons.1 nodup
      rcases List.mem_cons.1 member with rfl | later
      · have none : rest.filter (fun other => name other = name item) = [] := by
          rw [List.filter_eq_nil_iff]
          intro other isOther same
          exact fresh (of_decide_eq_true same ▸ List.mem_map_of_mem isOther)
        rw [List.filter_cons_of_pos (by simp), none]
      · have differs : name first ≠ name item :=
          fun same => fresh (same ▸ List.mem_map_of_mem later)
        rw [List.filter_cons_of_neg (by simpa using differs), hypothesis restNodup later]

/-- Each column is known by its table's name just where all names are told apart. -/
theorem tablesNamed_eq_iff {statement : Select}
    (nodup : (statement.joins.map Join.knownAs).Nodup)
    (inTables : ∀ column ∈ statement.columns, column.table ∈ statement.tables) :
    (∀ column ∈ statement.columns,
      statement.tablesNamed column.table.name = [column.table]) ↔
      statement.root ∉ statement.joins.map Join.knownAs := by
  constructor
  · intro denotes isAlias
    obtain ⟨join, isJoin, same⟩ := List.mem_map.1 isAlias
    have mentioned : (⟨join.occurrence, join.column⟩ : Column) ∈ statement.columns := by
      unfold columns
      simp only [List.mem_append, List.mem_flatMap]
      exact Or.inl (Or.inl (Or.inr ⟨join, isJoin, List.mem_cons_self⟩))
    have both : .root statement.root ∈ statement.tablesNamed join.occurrence.name := by
      unfold tablesNamed tables
      rw [List.mem_filter]
      exact ⟨List.mem_cons_self, decide_eq_true same.symm⟩
    rw [denotes _ mentioned] at both
    exact absurd (List.mem_singleton.1 both) Occurrence.noConfusion
  · intro notAlias column isColumn
    exact filter_eq_singleton_of_nodup ((nodup_names_iff nodup).2 notAlias)
      (inTables column isColumn)

end Sql.Select

namespace Listing

open Sql Success

variable {operators : Operators} {entity : LoadedEntity} {filters : List ResolvedFilter}
  {sorts : List ResolvedSort} {cursor : ResolvedCursor} {pagination : Pagination} {size : Int}
  {listing : Listing}

theorem columns_of_conditions {filtering conditions : List Condition} {sorted : List SortColumn}
    (made : Listing.conditions entity cursor filtering sorted = .ok conditions) :
    conditions.flatMap Condition.columns ⊆
      filtering.flatMap Condition.columns ++ sorted.map SortColumn.column := by
  unfold Listing.conditions at made
  split at made
  · obtain rfl := Except.ok.inj made
    exact List.subset_append_left _ _
  · obtain ⟨beyond, beyondMade, gathered⟩ := (bind_eq_ok _ _ _).1 made
    obtain rfl := (pure_eq_ok _ _).1 gathered
    rw [List.flatMap_append, List.flatMap_singleton]
    exact List.append_subset.2 ⟨List.subset_append_left _ _,
      List.subset_append_of_subset_right _ (Keyset.columns_condition beyondMade)⟩

/-- What is true of the columns of filters, sorts and joins, and of the entity's own,
is true of all. -/
theorem forall_mem_columns {good : Column → Prop} {filtering : List Condition}
    {sorted : List SortColumn} {plan : JoinPlan}
    (planned : (Listing.planned operators filters sorts).run { entity } =
      .ok ((filtering, sorted), plan))
    (built : Listing.build operators entity filters sorts cursor pagination size = .ok listing)
    (own : ∀ name ∈ ownColumns entity, good ⟨.root entity.tableName, name⟩)
    (ofSorts : ∀ column ∈ sorted, good column.column)
    (ofJoins : ∀ join ∈ plan.joins, good ⟨join.occurrence, join.column⟩ ∧ good join.owner)
    (ofFilters : ∀ condition ∈ filtering, ∀ column ∈ condition.columns, good column) :
    ∀ column ∈ listing.statement.columns, good column := by
  obtain ⟨conditions, passed, conditionsMade, _, rfl⟩ := build_eq_ok planned built
  intro column isColumn
  unfold Select.columns at isColumn
  simp only [List.mem_append, or_assoc] at isColumn
  rcases isColumn with selected | joined | conditioned | ordered
  · obtain ⟨projection, isSelected, rfl⟩ := List.mem_map.1 selected
    rcases eq_of_mem_projections isSelected with ⟨name, isOwn, rfl⟩ | ⟨sort, isSort, rfl⟩
    · exact own name isOwn
    · exact ofSorts sort isSort
  · obtain ⟨join, isJoin, either⟩ := List.mem_flatMap.1 joined
    simp only [List.mem_cons, List.not_mem_nil, or_false] at either
    rcases either with rfl | rfl
    · exact (ofJoins join isJoin).1
    · exact (ofJoins join isJoin).2
  · have about := Condition.columns_simplify_subset _ conditioned
    rw [Condition.columns_all] at about
    rcases List.mem_append.1 (columns_of_conditions conditionsMade about) with filtered | sorting
    · obtain ⟨condition, isCondition, ofFilter⟩ := List.mem_flatMap.1 filtered
      exact ofFilters condition isCondition column ofFilter
    · obtain ⟨sort, isSort, rfl⟩ := List.mem_map.1 sorting
      exact ofSorts sort isSort
  · obtain ⟨term, isTerm, rfl⟩ := List.mem_map.1 ordered
    obtain ⟨sort, isSort, rfl⟩ := List.mem_map.1 isTerm
    exact ofSorts sort isSort

/-- The columns of a statement are of the root, or of a joined table. -/
theorem column_mem_tables (stay : operators.StayOnColumn)
    {filtering : List Condition} {sorted : List SortColumn} {plan : JoinPlan}
    (planned : (Listing.planned operators filters sorts).run { entity } =
      .ok ((filtering, sorted), plan))
    (built : Listing.build operators entity filters sorts cursor pagination size = .ok listing) :
    listing.statement.tables = plan.tables ∧
      ∀ column ∈ listing.statement.columns, column.table ∈ plan.tables := by
  obtain ⟨grows, _, filterColumns, sortTables⟩ := grows_of_planned stay planned
  have root : .root entity.tableName ∈ plan.tables := grows.keeps List.mem_cons_self
  have sameRoot : plan.entity.tableName = entity.tableName := by
    simpa [JoinPlan.tables, Join.occurrence, eq_comm] using root
  constructor
  · obtain ⟨conditions, passed, _, _, rfl⟩ := build_eq_ok planned built
    rw [JoinPlan.tables, sameRoot]
    rfl
  · refine forall_mem_columns planned built (fun _ _ => root) sortTables ?_ ?_
    · exact fun join isJoin => ⟨List.mem_cons_of_mem _ (List.mem_map_of_mem isJoin),
        grows.wellNamed.refers join isJoin⟩
    · exact fun condition isCondition => List.forall_mem_map.1 (filterColumns condition isCondition)

/-- Joined tables have aliases of their own, which are the paths of the relationships and join
tables of filters and sorts. So each column is known by the name of its table just where the root is
not called like an alias. -/
theorem names_told_apart_iff (operators : Operators) (stay : operators.StayOnColumn)
    (built : Listing.build operators entity filters sorts cursor pagination size = .ok listing) :
    let statement := listing.statement
    let aliases := statement.joins.map Join.knownAs
    aliases.Nodup ∧
      ((statement.tables.map Occurrence.name).Nodup ↔ entity.tableName ∉ aliases) ∧
      ((∀ column ∈ statement.columns,
          statement.tablesNamed column.table.name = [column.table]) ↔
        entity.tableName ∉ aliases) ∧
      (∀ path ∈ paths filters sorts, path.relationshipPaths ⊆ aliases) ∧
      aliases ⊆ (paths filters sorts).flatMap ResolvedPath.aliases := by
  intro statement aliases
  obtain ⟨filtering, sorted, plan, planned⟩ := exists_planned built
  obtain ⟨grows, behind, _, _⟩ := grows_of_planned stay planned
  obtain ⟨sameTables, inTables⟩ := column_mem_tables stay planned built
  obtain ⟨root, joins⟩ : statement.root = entity.tableName ∧ statement.joins = plan.joins := by
    obtain ⟨conditions, passed, _, _, same⟩ := build_eq_ok planned built
    unfold statement
    rw [same]
    exact ⟨rfl, rfl⟩
  have nodup : aliases.Nodup := by
    unfold aliases
    rw [joins]
    exact grows.wellNamed.nodup
  refine ⟨nodup, root ▸ Select.nodup_names_iff nodup,
    root ▸ Select.tablesNamed_eq_iff nodup (sameTables ▸ inTables), ?_, ?_⟩
  · intro path isPath relationship isOn
    have isTable := behind path isPath (List.mem_map_of_mem isOn)
    rw [JoinPlan.mem_tables_joined, ← joins] at isTable
    exact isTable
  · intro key isAlias
    obtain ⟨join, isJoin, rfl⟩ := List.mem_map.1 isAlias
    rw [joins] at isJoin
    exact (grows.adds join isJoin).resolve_left List.not_mem_nil

/-- Categories, whose table and whose relationship to the parent are called alike. -/
def categories : StoredEntity where
  name := "Category"
  tableName := "category"
  attributes :=
    [.ofColumn "id" .int, .ofColumn "name" .string,
      { field := "category", dataType := .lookup, options := "Category" }]

def childrenOfTools : ResolvedFilter where
  target :=
    { path := "category.name"
      relationship := "category"
      steps :=
        [{ field := "category", dataType := .lookup, options := "Category", tableName := "category"
           relation := .lookup categories.load }]
      leaf := (Attribute.ofColumn "name" .string).load "category" }
  combination := .all
  constraints := [⟨"eq", [.text "tools"]⟩]

/-- Categories and their parents go by one name, and a filter for the one may be for the other. -/
theorem categories_hide_parents :
    ∃ listing, Listing.build .standard categories.load [childrenOfTools] [] {} {} 20 = .ok listing ∧
      listing.statement.joins.map Join.knownAs = ["category"] ∧
      ¬(listing.statement.tables.map Occurrence.name).Nodup ∧
      ¬∀ column ∈ listing.statement.columns,
        listing.statement.tablesNamed column.table.name = [column.table] := by
  obtain ⟨listing, built, aliases⟩ :
      ∃ listing, Listing.build .standard categories.load [childrenOfTools] [] {} {} 20 =
          .ok listing ∧ listing.statement.joins.map Join.knownAs = ["category"] := ⟨_, rfl, rfl⟩
  obtain ⟨_, apart, denotes, _⟩ :=
    names_told_apart_iff .standard Operators.stayOnColumn_standard built
  have isAlias : categories.load.tableName ∈ listing.statement.joins.map Join.knownAs := by
    rw [aliases]
    exact List.mem_singleton_self _
  exact ⟨listing, built, aliases, fun nodup => apart.1 nodup isAlias,
    fun each => denotes.1 each isAlias⟩

end Listing
end SchemaQuery
