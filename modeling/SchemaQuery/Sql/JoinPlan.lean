import SchemaQuery.Sql.Select

/-!
# Join plans

A join plan grows the tables of a statement along the relationships that paths
go through.  Each relationship path has one occurrence of its target's table,
under the path as alias, and each junction one of its join table.  A path that
shares its beginning with an earlier one shares the joins for it.
-/

namespace SchemaQuery
namespace Sql

structure Source where
  occurrence : Occurrence
  columns : List String
deriving DecidableEq, Repr, Inhabited

namespace Source

/-- The table of an entity, with its local columns and its primary key. -/
def ofEntity (occurrence : Occurrence) (entity : LoadedEntity) : Source where
  occurrence := occurrence
  columns := entity.localAttributes.map (·.field) ++ [entity.primaryKey]

def column (source : Source) (name : String) : Except Fault Column :=
  if name ∈ source.columns then .ok ⟨source.occurrence, name⟩ else .error (.unknownColumn name)

end Source

/-- The tables joined so far, by the paths that lead to them. -/
structure JoinPlan where
  entity : LoadedEntity
  sources : Dictionary Source := []
  joins : List Join := []
  usesJunction : Bool := false
deriving Inhabited

abbrev JoinM := StateT JoinPlan (Except Fault)

namespace JoinPlan

def junctionSuffix : String := "__junction"

def root (plan : JoinPlan) : Source :=
  .ofEntity (.root plan.entity.tableName) plan.entity

/-- Joins a table under a path by equating one of its columns with another. -/
def join (path table : String) (source : Source) (column : Column) (owner : Column) :
    JoinM Source := do
  modify fun plan =>
    { plan with
      joins := plan.joins ++ [⟨table, path, column.name, owner⟩]
      sources := plan.sources.insert path source }
  return source

/-- The join table of a junction, joined to its owner at most once. -/
def linkTable (owner : Source) (ownerKey : String) (member : LoadedAttribute)
    (path : String) : JoinM Source := do
  let key := path ++ junctionSuffix
  match (← get).sources.get? key with
  | some source => return source
  | none =>
      match member.link? with
      | none => throw .unexpandedJunction
      | some link =>
          let source : Source := ⟨.joined key, [link.sourceColumn, link.targetColumn]⟩
          let source ←
            join key link.tableName source (← source.column link.sourceColumn)
              (← owner.column ownerKey)
          modify fun plan => { plan with usesJunction := true }
          return source

/-- The table of an attribute's target, which is joined at most once. -/
def targetTable (owner : Source) (ownerKey : String) (member : LoadedAttribute)
    (target : LoadedEntity) (path : String) : JoinM Source := do
  match (← get).sources.get? path with
  | some source => return source
  | none =>
      let source := Source.ofEntity (.joined path) target
      let key ← source.column target.primaryKey
      if member.dataType = .lookup then
        join path target.tableName source key (← owner.column member.field)
      else
        let linked ← linkTable owner ownerKey member path
        match member.link? with
        | none => throw .unexpandedJunction
        | some link => join path target.tableName source key (← linked.column link.targetColumn)

/-- Joins the tables that steps lead through, and answers the last one. -/
def follow (owner : Source) (entity : LoadedEntity) (path : String) :
    List LoadedAttribute → JoinM (Source × LoadedEntity × String)
  | [] => return (owner, entity, path)
  | member :: rest =>
      match member.target? with
      | none => throw .unexpandedJunction
      | some target => do
          let stepPath := joinPath path member.field
          let source ← targetTable owner entity.primaryKey member target stepPath
          follow source target stepPath rest

/-- The column of a path, which for a junction holds the keys of its targets. -/
def columnFor (resolved : ResolvedPath) : JoinM Column := do
  let plan ← get
  let (owner, entity, path) ← follow plan.root plan.entity "" resolved.steps
  if resolved.leaf.dataType = .junction then
    let leafPath := joinPath path resolved.leaf.field
    let linked ← linkTable owner entity.primaryKey resolved.leaf leafPath
    match resolved.leaf.link? with
    | none => throw .unexpandedJunction
    | some link => linked.column link.targetColumn
  else owner.column resolved.leaf.field

end JoinPlan

end Sql
end SchemaQuery
