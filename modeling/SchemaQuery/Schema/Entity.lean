import SchemaQuery.Schema.DataType
import SchemaQuery.Text.Blank
import SchemaQuery.Text.Words

/-!
# Entities and attributes

An entity is a table with attributes.  As stored, a compound attribute merely
names the entity that it points at.  In a loaded entity it may also carry that
entity: a lookup carries its target, a junction its join table and its target.
Loading expands relationships only where they are needed, so a loaded entity
may hold compound attributes that are not expanded.

An entity is generic in its attributes, and both forms share it.
-/

namespace SchemaQuery

structure Attribute where
  field : String
  header : String := ""
  dataType : DataType := .string
  displayType : DisplayType := .text
  inList : Bool := true
  inDetail : Bool := true
  isDefault : Bool := false
  options : String := ""
  validation : String := ""
  validationMessage : String := ""
deriving DecidableEq, Repr, Inhabited

namespace Attribute

/-- The attribute for a column; its header is the column's title. -/
def ofColumn (column : String) (dataType : DataType) : Attribute where
  field := column
  header := Text.titled column
  dataType := dataType

def targetName? (declared : Attribute) : Option String :=
  if declared.dataType.isCompound then
    let name := Text.trim declared.options
    if name = "" then none else some name
  else none

end Attribute

structure Entity (α : Type) where
  name : String
  tableName : String := ""
  titleAttribute : String := ""
  primaryKey : String := "id"
  defaultPageSize : Int := 0
  attributes : List α := []
deriving DecidableEq, Repr, Inhabited

/-- A many-to-many relationship: the join table with both its columns, and the entity
on the far side. -/
structure Junction (α : Type) where
  tableName : String
  sourceName : String
  sourceColumn : String
  targetColumn : String
  target : Entity α
deriving Repr, Inhabited

inductive Relation (α : Type) where
  | unexpanded
  | lookup (target : Entity α)
  | junction (link : Junction α)
deriving Repr, Inhabited

/-- An attribute with its declaration, its table, and what it carries. -/
structure LoadedAttribute extends Attribute where
  tableName : String := ""
  relation : Relation LoadedAttribute := .unexpanded
deriving Inhabited

abbrev StoredEntity := Entity Attribute

/-- An entity whose compound attributes may carry their targets. -/
abbrev LoadedEntity := Entity LoadedAttribute

class Declared (α : Type) where
  declaration : α → Attribute

instance : Declared Attribute where
  declaration declared := declared

instance : Declared LoadedAttribute where
  declaration loaded := loaded.toAttribute

namespace Entity

variable {α : Type} [Declared α]

def find? (entity : Entity α) (field : String) : Option α :=
  entity.attributes.find? fun candidate => (Declared.declaration candidate).field == field

def fields (entity : Entity α) : List String :=
  entity.attributes.map fun candidate => (Declared.declaration candidate).field

/-- The attributes with a column in the entity's own table: all but junctions. -/
def localAttributes (entity : Entity α) : List α :=
  entity.attributes.filter fun candidate =>
    (Declared.declaration candidate).dataType != .junction

theorem field_of_find? {entity : Entity α} {field : String} {found : α}
    (located : entity.find? field = some found) :
    (Declared.declaration found).field = field := by
  simpa using List.find?_some located

theorem mem_of_find? {entity : Entity α} {field : String} {found : α}
    (located : entity.find? field = some found) : found ∈ entity.attributes :=
  List.mem_of_find?_eq_some located

theorem isSome_find?_iff {entity : Entity α} {field : String} :
    (entity.find? field).isSome = true ↔ field ∈ entity.fields := by
  simp [find?, fields, List.find?_isSome]

end Entity

namespace Entity

/-- An entity declared without a table name has the table of its underscored name. -/
def withTableName (entity : StoredEntity) : StoredEntity :=
  if entity.tableName = "" then
    { entity with tableName := Text.underscored entity.name }
  else entity

inductive Defect where
  | declaredTwice (field entity : String)
  | unknownTitle (field : String)
  | unknownKey (field : String)
deriving DecidableEq, Repr

/-- The first defect of an entity: a repeated field, or a missing title or primary key. -/
def defect? (entity : StoredEntity) : Option Defect :=
  match firstRepeated [] entity.fields with
  | some field => some (.declaredTwice field entity.name)
  | none =>
      if entity.titleAttribute ≠ "" ∧ entity.find? entity.titleAttribute = none then
        some (.unknownTitle entity.titleAttribute)
      else if entity.find? entity.primaryKey = none then
        some (.unknownKey entity.primaryKey)
      else none
where
  /-- The first of some names that has occurred before. -/
  firstRepeated (seen : List String) : List String → Option String
    | [] => none
    | name :: rest => if name ∈ seen then some name else firstRepeated (name :: seen) rest

/-- The entity with its primary key declared, as an integer in front. -/
def withDefaultAttributes (entity : StoredEntity) : StoredEntity :=
  match entity.find? entity.primaryKey with
  | some _ => entity
  | none =>
      { entity with attributes := .ofColumn entity.primaryKey .int :: entity.attributes }

end Entity

/-- The attribute as it is loaded from a table, with its relationship unexpanded. -/
def Attribute.load (declared : Attribute) (tableName : String) : LoadedAttribute where
  toAttribute := declared
  tableName := tableName

def Entity.load (entity : StoredEntity) : LoadedEntity :=
  { entity with attributes := entity.attributes.map (·.load entity.tableName) }

namespace Entity

/-- The attribute of the primary key, an integer column if it is not declared. -/
def primaryKeyAttribute (entity : LoadedEntity) : LoadedAttribute :=
  (entity.find? entity.primaryKey).getD
    { field := entity.primaryKey, dataType := .int, tableName := entity.tableName }

@[simp]
theorem field_primaryKeyAttribute (entity : LoadedEntity) :
    entity.primaryKeyAttribute.field = entity.primaryKey := by
  unfold primaryKeyAttribute
  cases located : entity.find? entity.primaryKey with
  | none => rfl
  | some found => exact field_of_find? located

end Entity

namespace LoadedAttribute

def isLoaded (loaded : LoadedAttribute) : Bool :=
  match loaded.dataType, loaded.relation with
  | .lookup, .lookup _ => true
  | .lookup, _ => false
  | .junction, .junction _ => true
  | .junction, _ => false
  | _, _ => true

def target? (loaded : LoadedAttribute) : Option LoadedEntity :=
  match loaded.relation with
  | .unexpanded => none
  | .lookup target => some target
  | .junction link => some link.target

def link? (loaded : LoadedAttribute) : Option (Junction LoadedAttribute) :=
  match loaded.relation with
  | .junction link => some link
  | _ => none

inductive Misfit where
  | twoRelations (field : String)
  | lookupElsewhere (field : String) (dataType : DataType)
  | junctionElsewhere (field : String) (dataType : DataType)
deriving DecidableEq, Repr

def withLookup (loaded : LoadedAttribute) (target : LoadedEntity) :
    Except Misfit LoadedAttribute :=
  if loaded.link?.isSome then .error (.twoRelations loaded.field)
  else if loaded.dataType ≠ .lookup then .error (.lookupElsewhere loaded.field loaded.dataType)
  else .ok { loaded with relation := .lookup target }

def withJunction (loaded : LoadedAttribute) (link : Junction LoadedAttribute) :
    Except Misfit LoadedAttribute :=
  match loaded.relation with
  | .lookup _ => .error (.twoRelations loaded.field)
  | _ =>
      if loaded.dataType ≠ .junction then
        .error (.junctionElsewhere loaded.field loaded.dataType)
      else .ok { loaded with relation := .junction link }

end LoadedAttribute

/-- The name of the join table of a junction, by which loading recognises it. -/
def junctionTableName (source target field : String) : String :=
  "_".intercalate ([source, target, field].map Text.underscored)

namespace Junction

/-- The columns of a join table, named for its two sides unless these are the same. -/
def columnsBetween (source target : String) : String × String :=
  let sourceKey := Text.underscored source
  let targetKey := Text.underscored target
  if sourceKey = targetKey then ("source_id", "target_id")
  else (sourceKey ++ "_id", targetKey ++ "_id")

def between (sourceName : String) (target : LoadedEntity) (field : String) :
    Junction LoadedAttribute where
  tableName := junctionTableName sourceName target.name field
  sourceName := sourceName
  sourceColumn := (columnsBetween sourceName target.name).1
  targetColumn := (columnsBetween sourceName target.name).2
  target := target

end Junction

end SchemaQuery
