import SchemaQuery.Number.Binary64

/-!
# The fewest digits that read back

A double-precision number is written with as few decimal digits as still single
it out.  The reals that round to the number form an interval; among the decimal
grids of one digit, two digits and so on up to seventeen, the first grid with a
point in the interval is taken, and of its points the one nearest to the number.
-/

namespace SchemaQuery
namespace Number

/-- A positive number with the interval of the reals that round to it, as fractions. -/
structure RoundingInterval where
  lower : Nat
  value : Nat
  upper : Nat
  denominator : Nat
  closed : Bool
deriving Repr, DecidableEq

namespace RoundingInterval

/-- The interval of `significand * 2 ^ power`, half as wide below a power of two. -/
def ofFinite (significand : Nat) (power : Int) : RoundingInterval :=
  let narrow := significand = powerOfTwo 52 ∧ -1074 < power
  let shifted := power - 2
  let scale := powerOfTwo shifted.toNat
  { lower := (4 * significand - if narrow then 1 else 2) * scale
    value := 4 * significand * scale
    upper := (4 * significand + 2) * scale
    denominator := powerOfTwo (-shifted).toNat
    closed := significand % 2 == 0 }

def decimalPoint (interval : RoundingInterval) : Int :=
  if interval.denominator ≤ interval.value then
    (Nat.toDigits 10 (interval.value / interval.denominator)).length
  else
    let inverse := (interval.denominator + interval.value - 1) / interval.value
    if inverse ≤ 1 then 0 else 1 - (Nat.toDigits 10 (inverse - 1)).length

def holds (interval : RoundingInterval) (point scale : Nat) : Bool :=
  let lower := interval.lower * scale
  let upper := interval.upper * scale
  (lower < point && point < upper) ||
    (interval.closed && (lower == point || point == upper))

/-- The point of a grid nearest to the value; of two the even. -/
def nearestOnGrid? (interval : RoundingInterval) (exponent : Int) : Option Nat :=
  let scale := powerOfTen (-exponent).toNat
  let step := powerOfTen exponent.toNat * interval.denominator
  let value := interval.value * scale
  let below := value / step
  let above := below + 1
  match interval.holds (below * step) scale, interval.holds (above * step) scale with
  | false, false => none
  | true, false => some below
  | false, true => some above
  | true, true =>
      let down := value - below * step
      let up := above * step - value
      some (if down < up then below
        else if up < down then above
        else if below % 2 = 0 then below else above)

def shortestFrom (interval : RoundingInterval) (point : Int) :
    (remaining digits : Nat) → Nat × Int
  | 0, _ => (0, 0)
  | remaining + 1, digits =>
      match interval.nearestOnGrid? (point - digits) with
      | some decimal => (decimal, point - digits)
      | none => shortestFrom interval point remaining (digits + 1)

def shortest (interval : RoundingInterval) : Nat × Int :=
  interval.shortestFrom interval.decimalPoint 17 1

end RoundingInterval

end Number
end SchemaQuery
