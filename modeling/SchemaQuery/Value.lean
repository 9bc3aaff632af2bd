import SchemaQuery.Calendar.Timestamp
import SchemaQuery.Number.Binary64

/-!
# Values

Requests, rows and cursors carry values whose type is only known when they meet
an attribute of a schema.  A value is a scalar of one of the column types, or a
nest of lists and records as structured requests and tokens may hold them.
-/

namespace SchemaQuery

/-- A value of any type. Text with half of a surrogate pair is kept as code points, as are all keys
of a record with such a key. -/
inductive Value where
  | null
  | bool (truth : Bool)
  | int (number : Int)
  | float (number : Number.Binary64)
  | decimal (digits : String)
  | text (content : String)
  | unpaired (codes : List Nat)
  | bytes (content : List UInt8)
  | date (day : Calendar.Date)
  | timestamp (moment : Calendar.Timestamp)
  | list (items : List Value)
  | tuple (items : List Value)
  | record (entries : List (String × Value))
  | unpairedRecord (entries : List (List Nat × Value))
deriving Inhabited

namespace Value

/-- The values offered where several may stand. -/
def candidates : Value → List Value
  | .text content => [.text content]
  | .unpaired codes => [.unpaired codes]
  | .list items => items
  | .tuple items => items
  | .record entries => entries.map fun entry => .text entry.1
  | .unpairedRecord entries => entries.map fun entry => .unpaired entry.1
  | .bytes content => content.map fun byte => .int byte.toNat
  | _ => []

def isSet : Value → Bool
  | .null => false
  | .bool truth => truth
  | .int number => number != 0
  | .float number => !number.isZero
  | .decimal digits => digits.toList.any fun digit => digit.isAlphanum && digit != '0'
  | .text content => content != ""
  | .unpaired codes => !codes.isEmpty
  | .bytes content => !content.isEmpty
  | .date _ => true
  | .timestamp _ => true
  | .list items => !items.isEmpty
  | .tuple items => !items.isEmpty
  | .record entries => !entries.isEmpty
  | .unpairedRecord entries => !entries.isEmpty

def isBool : Value → Bool
  | .bool _ => true
  | _ => false

def isNull : Value → Bool
  | .null => true
  | _ => false

end Value

end SchemaQuery
