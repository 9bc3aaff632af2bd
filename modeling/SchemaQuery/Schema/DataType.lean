/-!
# Types of attributes

An attribute has a data type, which decides what its column holds, and a display
type, which says how a form shows it.  Two data types are compound: a lookup
points at one entity through a column of its own, a junction at many through a
join table.
-/

namespace SchemaQuery

inductive DataType where
  | string
  | text
  | int
  | float
  | bool
  | datetime
  | date
  | lookup
  | junction
deriving DecidableEq, Repr, Inhabited

namespace DataType

def all : List DataType :=
  [.string, .text, .int, .float, .bool, .datetime, .date, .lookup, .junction]

def name : DataType → String
  | .string => "String"
  | .text => "Text"
  | .int => "Int"
  | .float => "Float"
  | .bool => "Bool"
  | .datetime => "Datetime"
  | .date => "Date"
  | .lookup => "Lookup"
  | .junction => "Junction"

def label : DataType → String
  | .string => "DataType.STRING"
  | .text => "DataType.TEXT"
  | .int => "DataType.INT"
  | .float => "DataType.FLOAT"
  | .bool => "DataType.BOOL"
  | .datetime => "DataType.DATETIME"
  | .date => "DataType.DATE"
  | .lookup => "DataType.LOOKUP"
  | .junction => "DataType.JUNCTION"

def ofName? (name : String) : Option DataType :=
  all.find? fun dataType => dataType.name == name

/-- Whether attributes of the type point at an entity. -/
def isCompound : DataType → Bool
  | .lookup => true
  | .junction => true
  | _ => false

@[simp]
theorem ofName?_name (dataType : DataType) : ofName? dataType.name = some dataType := by
  cases dataType <;> decide

end DataType

inductive DisplayType where
  | text
  | textarea
  | number
  | datetime
  | date
  | dropdown
  | lookup
  | junction
  | image
deriving DecidableEq, Repr, Inhabited

namespace DisplayType

def all : List DisplayType :=
  [.text, .textarea, .number, .datetime, .date, .dropdown, .lookup, .junction, .image]

def name : DisplayType → String
  | .text => "text"
  | .textarea => "textarea"
  | .number => "number"
  | .datetime => "datetime"
  | .date => "date"
  | .dropdown => "dropdown"
  | .lookup => "lookup"
  | .junction => "junction"
  | .image => "image"

def ofName? (name : String) : Option DisplayType :=
  all.find? fun displayType => displayType.name == name

@[simp]
theorem ofName?_name (displayType : DisplayType) :
    ofName? displayType.name = some displayType := by
  cases displayType <;> decide

end DisplayType

end SchemaQuery
