import SchemaQuery.Refusal

/-!
# Registered casters

Which caster a data type has may be changed: another one may be registered for
it, and a type may be left without any.
-/

namespace SchemaQuery

abbrev Casters := DataType → Option Caster

namespace Casters

def standard : Casters := fun dataType => some (Cast.standard dataType)

def register (casters : Casters) (dataType : DataType) (caster : Caster) : Casters :=
  fun asked => if asked = dataType then some caster else casters asked

def remove (casters : Casters) (dataType : DataType) : Casters :=
  fun asked => if asked = dataType then none else casters asked

def cast (casters : Casters) (dataType : DataType) (raw : Value) : Except Refusal Value :=
  match casters dataType with
  | none => .error (.casterMissing dataType)
  | some caster =>
      match caster raw with
      | .ok value => .ok value
      | .error fault => .error (.notCastable raw dataType fault)

def castFor (casters : Casters) (declared : Attribute) (raw : Value) : Except Refusal Value :=
  match casters.cast declared.dataType raw with
  | .ok value => .ok value
  | .error refusal => .error (.attributeValue declared.field refusal)

@[simp]
theorem cast_standard (dataType : DataType) (raw : Value) :
    standard.cast dataType raw =
      match Cast.standard dataType raw with
      | .ok value => .ok value
      | .error fault => .error (.notCastable raw dataType fault) := rfl

theorem cast_standard_eq_ok (dataType : DataType) (raw typed : Value) :
    standard.cast dataType raw = .ok typed ↔ Cast.standard dataType raw = .ok typed := by
  rw [cast_standard]
  cases Cast.standard dataType raw <;> simp

theorem castFor_standard_eq_ok (declared : Attribute) (raw typed : Value) :
    standard.castFor declared raw = .ok typed ↔
      Cast.standard declared.dataType raw = .ok typed := by
  rw [← cast_standard_eq_ok]
  unfold castFor
  cases standard.cast declared.dataType raw <;> simp

end Casters

end SchemaQuery
