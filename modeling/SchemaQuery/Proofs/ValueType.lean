import SchemaQuery.Proofs.Database
import SchemaQuery.Schema.DataType

/-!
# Values of a type

A column of a data type holds values of that type, and it may lack a value.  Keys
are integers, so lookups and junctions hold integers.
-/

namespace SchemaQuery
namespace Value

def isOfType : DataType → Value → Bool
  | .string, .text _ => true
  | .string, .unpaired _ => true
  | .text, .text _ => true
  | .text, .unpaired _ => true
  | .int, .int _ => true
  | .float, .float _ => true
  | .bool, .bool _ => true
  | .datetime, .timestamp _ => true
  | .date, .date _ => true
  | .lookup, .int _ => true
  | .junction, .int _ => true
  | _, _ => false

/-- Whether a column of a data type may hold a value, or lack one. -/
def fits (dataType : DataType) (value : Value) : Bool :=
  value.isNull || value.isOfType dataType

/-- Whether JSON holds a value without loss: integers, text and dates, or no value. -/
def isExact : Value → Bool
  | .null => true
  | .int _ => true
  | .text _ => true
  | .date _ => true
  | _ => false

theorem isBool_eq_false_of_fits {dataType : DataType} {value : Value}
    (fitting : value.fits dataType = true) (noFlag : dataType ≠ .bool) :
    value.isBool = false := by
  cases value <;> cases dataType <;> simp_all [fits, isNull, isOfType, isBool]

theorem isBool_of_isOfType {value : Value} (ofType : value.isOfType .bool = true) :
    value.isBool = true := by
  cases value <;> simp_all [isOfType, isBool]

end Value
end SchemaQuery
