import SchemaQuery.Number.Literal

/-!
# Written numbers

What numbers look like when they are written.  A natural number is a run of digits that
starts with a zero only where it is zero, and the run denotes it.  A double-precision
number is written in three parts: a whole part of this kind, digits behind a point, and an
exponent.  One of the latter two is always there, which tells it from an integer.
-/

namespace SchemaQuery
namespace Number

theorem ascii_of_isDigit {character : Char} (isDigit : character.isDigit = true) :
    character.toNat < 128 := by
  simp only [Char.isDigit, Bool.and_eq_true, decide_eq_true_eq] at isDigit
  have upper := UInt32.le_iff_toNat_le.1 isDigit.2
  change character.toNat ≤ 57 at upper
  omega

def AreDigits (characters : List Char) : Prop :=
  ∀ character ∈ characters, character.isDigit = true

namespace AreDigits

theorem append {first second : List Char} (left : AreDigits first) (right : AreDigits second) :
    AreDigits (first ++ second) := by
  intro character member
  rcases List.mem_append.1 member with here | there
  · exact left character here
  · exact right character there

theorem subset {characters part : List Char} (digits : AreDigits characters)
    (within : part ⊆ characters) : AreDigits part := by
  intro character member
  exact digits character (within member)

theorem zeros (count : Nat) : AreDigits (List.replicate count '0') := by
  intro character member
  rw [(List.mem_replicate.1 member).2]
  decide

theorem takeWhile_append {digits rest : List Char} (all : AreDigits digits)
    (stops : rest.head?.any Char.isDigit = false) :
    (digits ++ rest).takeWhile Char.isDigit = digits ∧
      (digits ++ rest).dropWhile Char.isDigit = rest := by
  induction digits with
  | nil =>
      cases rest with
      | nil => exact ⟨rfl, rfl⟩
      | cons character rest =>
          have noDigit : character.isDigit = false := stops
          simp [noDigit]
  | cons digit digits hypothesis =>
      obtain ⟨taken, dropped⟩ := hypothesis fun character member =>
        all character (List.mem_cons_of_mem _ member)
      have isDigit := all digit List.mem_cons_self
      simp [isDigit, taken, dropped]

end AreDigits

theorem areDigits_digitsOf (number : Nat) : AreDigits (digitsOf number) := by
  intro character member
  exact Nat.isDigit_of_mem_toDigits (by decide) (by decide) member

theorem digitsOf_ne_nil (number : Nat) : digitsOf number ≠ [] :=
  Nat.toDigits_ne_nil

theorem naturalOfDigits_digitsOf (number : Nat) :
    naturalOfDigits (digitsOf number) = number :=
  Nat.ofDigitChars_ten_toDigits

/-- Whether digits start with a zero only if there is nothing else. -/
def StartsWell (digits : List Char) : Prop :=
  digits = ['0'] ∨ ∃ first rest, digits = first :: rest ∧ first ≠ '0'

/-- The digits of a positive number start with one that is not zero. -/
theorem exists_digitsOf {number : Nat} (positive : 0 < number) :
    ∃ first rest, digitsOf number = first :: rest ∧ first ≠ '0' := by
  induction number using Nat.strongRecOn with
  | ind number hypothesis =>
      by_cases single : number < 10
      · refine ⟨number.digitChar, [], Nat.toDigits_of_lt_base single, ?_⟩
        rw [Ne, Nat.digitChar_eq_zero]
        omega
      · obtain ⟨first, rest, shape, nonzero⟩ :=
          hypothesis (number / 10) (by omega) (by omega)
        refine ⟨first, rest ++ [(number % 10).digitChar], ?_, nonzero⟩
        unfold digitsOf at shape ⊢
        rw [Nat.toDigits_of_base_le (by decide) (by omega), shape]
        rfl

theorem startsWell_digitsOf (number : Nat) : StartsWell (digitsOf number) := by
  rcases Nat.eq_zero_or_pos number with rfl | positive
  · exact Or.inl (Nat.toDigits_zero 10)
  · exact Or.inr (exists_digitsOf positive)

theorem areDigits_paddedDigits (width number : Nat) : AreDigits (paddedDigits width number) :=
  (AreDigits.zeros _).append (areDigits_digitsOf number)

theorem naturalOfDigits_paddedDigits (width number : Nat) :
    naturalOfDigits (paddedDigits width number) = number := by
  unfold paddedDigits
  change Nat.ofDigitChars 10 (_ ++ _) 0 = number
  rw [Nat.ofDigitChars_append, Nat.ofDigitChars_replicate_zero, Nat.mul_zero]
  exact naturalOfDigits_digitsOf number

theorem length_paddedDigits (width : Nat) {number : Nat} (positive : 0 < width)
    (fits : number < Nat.pow 10 width) : (paddedDigits width number).length = width := by
  have short : (digitsOf number).length ≤ width :=
    (Nat.length_toDigits_le_iff (by decide) positive).2 fits
  unfold paddedDigits
  rw [List.length_append, List.length_replicate]
  omega

theorem paddedDigits_ne_nil (width number : Nat) : paddedDigits width number ≠ [] := by
  unfold paddedDigits
  intro empty
  exact digitsOf_ne_nil number (List.append_eq_nil_iff.1 empty).2

/-- The parts of a written number that is no integer. -/
structure WrittenDecimal where
  whole : List Char
  fraction : List Char
  exponent : Option (Bool × List Char)
  whole_digits : AreDigits whole
  whole_starts : StartsWell whole
  fraction_digits : AreDigits fraction
  exponent_digits : ∀ negative digits, exponent = some (negative, digits) →
    AreDigits digits ∧ digits ≠ []
  not_integer : fraction ≠ [] ∨ exponent ≠ none

namespace WrittenDecimal

def fractionText (fraction : List Char) : List Char :=
  if fraction.isEmpty then [] else '.' :: fraction

def exponentText : Option (Bool × List Char) → List Char
  | none => []
  | some (negative, digits) => 'e' :: (if negative then '-' else '+') :: digits

def text (written : WrittenDecimal) : List Char :=
  written.whole ++ fractionText written.fraction ++ exponentText written.exponent

def exponentValue (exponent : Option (Bool × List Char)) : Option Int :=
  exponent.map fun parts => signed parts.1 (naturalOfDigits parts.2)

/-- The double-precision number that the parts stand for, with a sign. -/
def number (written : WrittenDecimal) (negative : Bool) : Binary64 :=
  .ofDecimal negative (naturalOfDigits (written.whole ++ written.fraction))
    ((exponentValue written.exponent).getD 0 - written.fraction.length)

end WrittenDecimal

structure Significant (digits : List Char) : Prop where
  areDigits : AreDigits digits
  starts : ∃ first rest, digits = first :: rest ∧ first ≠ '0'

namespace Significant

theorem digitsOf {number : Nat} (positive : 0 < number) :
    Significant (Number.digitsOf number) :=
  ⟨areDigits_digitsOf number, exists_digitsOf positive⟩

/-- The zeros at the end can go, because the first digit stays. -/
theorem withoutTrailingZeros {digits : List Char} (significant : Significant digits) :
    Significant (Number.withoutTrailingZeros digits) := by
  obtain ⟨first, rest, shape, nonzero⟩ := significant.starts
  refine ⟨?_, ?_⟩
  · apply significant.areDigits.subset
    intro character member
    have within := List.mem_reverse.1 member
    exact List.mem_reverse.1 (List.dropWhile_sublist _ |>.subset within)
  · refine ⟨first, Number.withoutTrailingZeros rest, ?_, nonzero⟩
    have stays : (first == '0') = false := beq_eq_false_iff_ne.2 nonzero
    unfold Number.withoutTrailingZeros
    rw [shape, List.reverse_cons, List.dropWhile_append]
    split
    · rename_i emptied
      rw [List.isEmpty_iff] at emptied
      simp [emptied, stays]
    · simp

end Significant

/-- Digits around a point make a number that is no integer. -/
theorem exists_positional {digits : List Char} (significant : Significant digits)
    (point : Int) : ∃ written : WrittenDecimal, positional digits point = written.text := by
  obtain ⟨first, rest, shape, nonzero⟩ := significant.starts
  unfold positional
  split
  · refine ⟨⟨['0'], List.replicate (-point).toNat '0' ++ digits, none, AreDigits.zeros 1,
      Or.inl rfl, (AreDigits.zeros _).append significant.areDigits, by simp, Or.inl ?_⟩, ?_⟩
    · simp [shape]
    · simp [WrittenDecimal.text, WrittenDecimal.fractionText, WrittenDecimal.exponentText, shape]
  · rename_i positive
    dsimp only
    have wholeStarts : ∃ first rest, digits.take point.toNat ++
        List.replicate (point.toNat - digits.length) '0' = first :: rest ∧ first ≠ '0' := by
      obtain ⟨count, counted⟩ : ∃ count, point.toNat = count + 1 :=
        ⟨point.toNat - 1, by omega⟩
      rw [shape, counted, List.take_succ_cons]
      exact ⟨first, _, rfl, nonzero⟩
    have wholeDigits : AreDigits (digits.take point.toNat ++
        List.replicate (point.toNat - digits.length) '0') :=
      (significant.areDigits.subset (List.take_subset _ _)).append (AreDigits.zeros _)
    have fractionDigits : AreDigits (if (digits.drop point.toNat).isEmpty then ['0']
        else digits.drop point.toNat) := by
      split
      · exact AreDigits.zeros 1
      · exact significant.areDigits.subset (List.drop_subset _ _)
    have fractionGiven : (if (digits.drop point.toNat).isEmpty then ['0']
        else digits.drop point.toNat) ≠ [] := by
      split
      · simp
      · rename_i nonempty
        simpa using nonempty
    refine ⟨⟨_, _, none, wholeDigits, Or.inr wholeStarts, fractionDigits, by simp,
      Or.inl fractionGiven⟩, ?_⟩
    have given : (if (digits.drop point.toNat).isEmpty then ['0']
        else digits.drop point.toNat).isEmpty = false := by
      rw [List.isEmpty_eq_false_iff]
      exact fractionGiven
    simp only [WrittenDecimal.text, WrittenDecimal.fractionText, WrittenDecimal.exponentText,
      given, Bool.false_eq_true, if_false, List.append_nil]

/-- Digits with an exponent make a number that is no integer. -/
theorem exists_scientific {digits : List Char} (significant : Significant digits)
    (exponent : Int) :
    ∃ written : WrittenDecimal, scientific digits exponent = written.text := by
  obtain ⟨first, rest, shape, nonzero⟩ := significant.starts
  have digitsAll := significant.areDigits
  rw [shape] at digitsAll
  have firstDigits : AreDigits [first] :=
    digitsAll.subset (List.cons_subset_cons first (List.nil_subset rest))
  have restDigits : AreDigits rest := digitsAll.subset (List.subset_cons_self first rest)
  refine ⟨⟨[first], rest, some (decide (exponent < 0), paddedDigits 2 exponent.natAbs),
    firstDigits, Or.inr ⟨first, [], rfl, nonzero⟩, restDigits, ?_,
    Or.inr (Option.some_ne_none _)⟩, ?_⟩
  · rintro negative digits same
    obtain ⟨_, rfl⟩ := Prod.mk.inj (Option.some.inj same)
    exact ⟨areDigits_paddedDigits _ _, paddedDigits_ne_nil _ _⟩
  · rw [shape]
    unfold scientific WrittenDecimal.text WrittenDecimal.fractionText
      WrittenDecimal.exponentText
    cases rest with
    | nil => simp
    | cons second rest => simp

namespace RoundingInterval

theorem powerOfTen_pos (exponent : Nat) : 0 < powerOfTen exponent :=
  Nat.pow_pos (by decide)

/-- Zero does not round to a positive number. -/
theorem nearestOnGrid?_pos {interval : RoundingInterval} {exponent : Int} {decimal : Nat}
    (lower : 0 < interval.lower) (upper : 0 < interval.upper)
    (found : interval.nearestOnGrid? exponent = some decimal) : 0 < decimal := by
  have scalePositive := powerOfTen_pos (-exponent).toNat
  have zeroOutside : interval.holds 0 (powerOfTen (-exponent).toNat) = false := by
    have lowerScaled := Nat.mul_pos lower scalePositive
    have upperScaled := Nat.mul_pos upper scalePositive
    unfold holds
    simp only [Bool.or_eq_false_iff, Bool.and_eq_false_iff, decide_eq_false_iff_not,
      beq_eq_false_iff_ne]
    exact ⟨Or.inl (by omega), Or.inr (by omega)⟩
  apply Nat.pos_of_ne_zero
  rintro rfl
  unfold nearestOnGrid? at found
  dsimp only at found
  split at found
  · simp at found
  · rename_i within _
    rw [Option.some.inj found, Nat.zero_mul, zeroOutside] at within
    exact absurd within Bool.false_ne_true
  · simp at found
  · rename_i within _
    have chosen := Option.some.inj found
    have below : interval.value * powerOfTen (-exponent).toNat /
        (powerOfTen exponent.toNat * interval.denominator) = 0 := by
      split at chosen
      · exact chosen
      · split at chosen
        · exact absurd chosen (Nat.succ_ne_zero _)
        · split at chosen
          · exact chosen
          · exact absurd chosen (Nat.succ_ne_zero _)
    rw [below, Nat.zero_mul, zeroOutside] at within
    exact absurd within Bool.false_ne_true

/-- The shortest decimal of a positive number is positive, unless the search fails. -/
theorem shortestFrom_pos {interval : RoundingInterval} (lower : 0 < interval.lower)
    (upper : 0 < interval.upper) (point : Int) (remaining digits : Nat) :
    0 < (interval.shortestFrom point remaining digits).1 ∨
      interval.shortestFrom point remaining digits = (0, 0) := by
  induction remaining generalizing digits with
  | zero => exact Or.inr rfl
  | succ remaining hypothesis =>
      rw [shortestFrom]
      split
      · rename_i found
        exact Or.inl (nearestOnGrid?_pos lower upper found)
      · exact hypothesis (digits + 1)

theorem shortest_pos {significand : Nat} (positive : 0 < significand) (power : Int) :
    0 < ((ofFinite significand power).shortest).1 ∨
      (ofFinite significand power).shortest = (0, 0) := by
  apply shortestFrom_pos
  · apply Nat.mul_pos
    · split <;> omega
    · exact Nat.pow_pos (by decide)
  · exact Nat.mul_pos (by omega) (Nat.pow_pos (by decide))

end RoundingInterval

def writtenZero : WrittenDecimal where
  whole := ['0']
  fraction := ['0']
  exponent := none
  whole_digits := AreDigits.zeros 1
  whole_starts := Or.inl rfl
  fraction_digits := AreDigits.zeros 1
  exponent_digits := by simp
  not_integer := Or.inl (List.cons_ne_nil _ _)

/-- A finite number is written behind its sign as a number that is no integer. -/
theorem exists_writeBinary64 (negative : Bool) (significand : Nat) (power : Int) :
    ∃ written : WrittenDecimal, (writeBinary64 (.finite negative significand power)).toList =
      if negative then '-' :: written.text else written.text := by
  have behindSign {magnitude : List Char}
      (shaped : ∃ written : WrittenDecimal, magnitude = written.text) :
      ∃ written : WrittenDecimal, (if negative then '-' :: magnitude else magnitude) =
        if negative then '-' :: written.text else written.text := by
    obtain ⟨written, rfl⟩ := shaped
    exact ⟨written, rfl⟩
  rw [writeBinary64]
  simp only [String.toList_ofList]
  apply behindSign
  by_cases isZero : significand = 0
  · rw [if_pos isZero]
    exact ⟨writtenZero, rfl⟩
  · rw [if_neg isZero]
    rcases RoundingInterval.shortest_pos (Nat.pos_of_ne_zero isZero) power with
      positive | failed
    · have significant := (Significant.digitsOf positive).withoutTrailingZeros
      split
      · exact exists_scientific significant _
      · exact exists_positional significant _
    · rw [failed]
      exact ⟨writtenZero, rfl⟩

end Number
end SchemaQuery
