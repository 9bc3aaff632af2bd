/-!
# Double-precision numbers

The numbers of a `Float` column are binary fractions with 53 significant bits.
They are kept here as exact data, so that reading and writing them is integer
arithmetic: a finite number is its sign, a significand below `2 ^ 53` and a
power of two not below `-1074`.  The significand is at least `2 ^ 52` unless
the power is the least one.
-/

namespace SchemaQuery
namespace Number

def powerOfTwo (exponent : Nat) : Nat :=
  Nat.pow 2 exponent

def powerOfTen (exponent : Nat) : Nat :=
  Nat.pow 10 exponent

inductive Binary64 where
  | nan
  | infinite (negative : Bool)
  | finite (negative : Bool) (significand : Nat) (power : Int)
deriving Repr, DecidableEq, Inhabited

/-- The quotient rounded to the nearest integer, a half to the even neighbour. -/
def roundedQuotient (numerator denominator : Nat) : Nat :=
  let quotient := numerator / denominator
  let twice := 2 * (numerator % denominator)
  if twice < denominator then quotient
  else if denominator < twice then quotient + 1
  else if quotient % 2 = 0 then quotient
  else quotient + 1

/-- Twice the distance to the rounded quotient is at most the denominator. -/
theorem roundedQuotient_mem {numerator denominator : Nat} (positive : 0 < denominator) :
    2 * numerator ≤ (2 * roundedQuotient numerator denominator + 1) * denominator ∧
      2 * roundedQuotient numerator denominator * denominator ≤
        2 * numerator + denominator := by
  have division := Nat.div_add_mod numerator denominator
  have small := Nat.mod_lt numerator positive
  generalize numerator / denominator = quotient at *
  generalize numerator % denominator = remainder at *
  have expanded : numerator = quotient * denominator + remainder := by
    rw [← division, Nat.mul_comm]
  subst expanded
  have lower : roundedQuotient (quotient * denominator + remainder) denominator = quotient ∧
        2 * remainder ≤ denominator ∨
      roundedQuotient (quotient * denominator + remainder) denominator = quotient + 1 ∧
        denominator ≤ 2 * remainder := by
    have quotientEq : (quotient * denominator + remainder) / denominator = quotient := by
      rw [Nat.add_comm, Nat.add_mul_div_right _ _ positive, Nat.div_eq_of_lt small,
        Nat.zero_add]
    have remainderEq : (quotient * denominator + remainder) % denominator = remainder := by
      rw [Nat.add_comm, Nat.add_mul_mod_self_right, Nat.mod_eq_of_lt small]
    simp only [roundedQuotient, quotientEq, remainderEq]
    split
    · exact Or.inl ⟨rfl, by omega⟩
    · split
      · exact Or.inr ⟨rfl, by omega⟩
      · split
        · exact Or.inl ⟨rfl, by omega⟩
        · exact Or.inr ⟨rfl, by omega⟩
  rcases lower with ⟨rounded, bound⟩ | ⟨rounded, bound⟩ <;> rw [rounded] <;>
    constructor <;> simp only [Nat.add_mul, Nat.mul_add, Nat.mul_assoc] <;> omega

namespace Binary64

def signedZero (negative : Bool) : Binary64 :=
  .finite negative 0 (-1074)

/-- The number nearest to `significand * 2 ^ power`, where a carry may move to the next power. -/
def ofRounded (negative : Bool) (significand : Nat) (power : Int) : Binary64 :=
  let carried := significand = powerOfTwo 53
  let significand := if carried then powerOfTwo 52 else significand
  let power := if carried then power + 1 else power
  if 971 < power then .infinite negative else .finite negative significand power

def ofFraction (negative : Bool) (numerator denominator : Nat) : Binary64 :=
  if numerator = 0 then signedZero negative
  else
    let estimate : Int := (Nat.log2 numerator : Int) - Nat.log2 denominator - 53
    let scaled (power : Int) : Nat × Nat :=
      (numerator * powerOfTwo (-power).toNat, denominator * powerOfTwo power.toNat)
    let tooSmall := scaled (estimate + 1)
    let normal :=
      if tooSmall.1 < powerOfTwo 52 * tooSmall.2 then estimate else estimate + 1
    let power := max normal (-1074)
    let fraction := scaled power
    ofRounded negative (roundedQuotient fraction.1 fraction.2) power

/-- The number nearest to `digits * 10 ^ exponent`. -/
def ofDecimal (negative : Bool) (digits : Nat) (exponent : Int) : Binary64 :=
  if digits = 0 then signedZero negative
  else
    let magnitude := exponent + (Nat.toDigits 10 digits).length
    if 400 < magnitude then .infinite negative
    else if magnitude < -400 then signedZero negative
    else
      ofFraction negative (digits * powerOfTen exponent.toNat) (powerOfTen (-exponent).toNat)

def ofInt? (number : Int) : Option Binary64 :=
  match ofFraction (number < 0) number.natAbs 1 with
  | .infinite _ => none
  | result => some result

/-- The integer that a number is equal to, if any. -/
def toInt? : Binary64 → Option Int
  | .nan => none
  | .infinite _ => none
  | .finite negative significand power =>
      let signed (magnitude : Nat) : Int := if negative then -magnitude else magnitude
      if 0 ≤ power then some (signed (significand * powerOfTwo power.toNat))
      else if significand % powerOfTwo (-power).toNat = 0 then
        some (signed (significand / powerOfTwo (-power).toNat))
      else none

def isZero : Binary64 → Bool
  | .finite _ significand _ => significand == 0
  | _ => false

end Binary64

end Number
end SchemaQuery
