import SchemaQuery.Proofs.JsonText
import SchemaQuery.Proofs.Success
import SchemaQuery.Proofs.WrittenNumber

/-!
# Reading numbers that have been written

A number ends where a value is closed.  Up to there integers are read as they were, and
decimals as the double-precision number that is nearest to them.
-/

namespace SchemaQuery
namespace Codec
namespace Json

/-- Whether nothing follows that could go on with a value. -/
def Closes (rest : List Char) : Prop :=
  rest = [] ∨ ∃ following, rest = ',' :: following ∨ rest = '\x7d' :: following

theorem Closes.head? {rest : List Char} (closes : Closes rest) :
    rest.head? = none ∨ rest.head? = some ',' ∨ rest.head? = some '\x7d' := by
  rcases closes with rfl | ⟨following, rfl | rfl⟩
  · exact Or.inl rfl
  · exact Or.inr (Or.inl rfl)
  · exact Or.inr (Or.inr rfl)

theorem Closes.noDigit {rest : List Char} (closes : Closes rest) :
    rest.head?.any Char.isDigit = false := by
  rcases closes.head? with head | head | head <;> rw [head] <;> rfl

theorem Closes.noPoint {rest : List Char} (closes : Closes rest) : rest.head? ≠ some '.' := by
  rcases closes.head? with head | head | head <;> rw [head] <;> decide

open Number (AreDigits StartsWell WrittenDecimal)

theorem splitWhole_append {digits rest : List Char} (all : AreDigits digits)
    (starts : StartsWell digits) (stops : rest.head?.any Char.isDigit = false) :
    splitWhole (digits ++ rest) = (digits, rest) := by
  rcases starts with rfl | ⟨first, others, rfl, nonzero⟩
  · rfl
  · obtain ⟨taken, dropped⟩ := all.takeWhile_append stops
    rw [List.cons_append] at taken dropped ⊢
    rw [splitWhole, taken, dropped]
    intro tail same
    exact nonzero (List.cons.inj same).1

theorem splitFraction_append {fraction rest : List Char} (all : AreDigits fraction)
    (stops : rest.head?.any Char.isDigit = false) (noPoint : rest.head? ≠ some '.') :
    splitFraction (WrittenDecimal.fractionText fraction ++ rest) = (fraction, rest) := by
  unfold WrittenDecimal.fractionText
  cases fraction with
  | nil =>
      rw [List.isEmpty_nil, if_pos rfl, List.nil_append, splitFraction]
      intro tail same
      rw [same] at noPoint
      exact noPoint rfl
  | cons digit digits =>
      obtain ⟨taken, dropped⟩ := all.takeWhile_append stops
      rw [List.isEmpty_cons, if_neg Bool.false_ne_true, List.cons_append, splitFraction, taken,
        dropped]
      rfl

theorem splitFraction_of_closes {rest : List Char} (closes : Closes rest) :
    splitFraction rest = ([], rest) := by
  rcases closes with rfl | ⟨following, rfl | rfl⟩ <;> rfl

theorem splitExponent_of_closes {rest : List Char} (closes : Closes rest) :
    splitExponent rest = (none, rest) := by
  rcases closes with rfl | ⟨following, rfl | rfl⟩ <;> rfl

theorem splitExponent_append {negative : Bool} {digits rest : List Char}
    (all : AreDigits digits) (nonempty : digits ≠ []) (closes : Closes rest) :
    splitExponent (WrittenDecimal.exponentText (some (negative, digits)) ++ rest) =
      (some (Number.signed negative (Number.naturalOfDigits digits)), rest) := by
  have signRead : Number.readSign ((if negative then '-' else '+') :: digits ++ rest) =
      (negative, digits ++ rest) := by
    cases negative <;> rfl
  obtain ⟨taken, dropped⟩ := all.takeWhile_append closes.noDigit
  have given : digits.isEmpty = false := by
    rw [List.isEmpty_eq_false_iff]
    exact nonempty
  rw [WrittenDecimal.exponentText, List.cons_append, splitExponent, signRead]
  dsimp only
  rw [taken, dropped, given]
  rfl

def signText (negative : Bool) : List Char :=
  if negative then ['-'] else []

theorem exists_first {digits : List Char} (all : AreDigits digits) (starts : StartsWell digits) :
    ∃ first others, digits = first :: others ∧ first.isDigit = true := by
  rcases starts with rfl | ⟨first, others, rfl, _⟩
  · exact ⟨'0', [], rfl, rfl⟩
  · exact ⟨first, others, rfl, all first List.mem_cons_self⟩

theorem ne_of_isDigit {first other : Char} (isDigit : first.isDigit = true)
    (noDigit : other.isDigit = false) : first ≠ other := by
  rintro rfl
  rw [isDigit] at noDigit
  exact Bool.false_ne_true noDigit.symm

/-- What starts with a digit behind a sign is read as a number. -/
theorem readValue_number (budget : Nat) (negative : Bool) {first : Char} (tail : List Char)
    (isDigit : first.isDigit = true) :
    readValue (budget + 1) (signText negative ++ first :: tail) =
      readNumber (signText negative ++ first :: tail) := by
  have differs {other : Char} (noDigit : other.isDigit = false) : (other == first) = false :=
    beq_eq_false_iff_ne.2 (Ne.symm (ne_of_isDigit isDigit noDigit))
  have starts (sign : Char) (rest : List Char) {other : Char} (unequal : sign ≠ other) :
      ∀ tail, sign :: rest = other :: tail → False := by
    intro tail same
    exact unequal (List.cons.inj same).1
  have noName (other : Char) (noDigit : other.isDigit = false) (letters : List Char) :
      (other :: letters).isPrefixOf (first :: tail) = false := by
    rw [List.isPrefixOf, differs noDigit, Bool.false_and]
  cases negative with
  | true =>
      change readValue (budget + 1) ('-' :: first :: tail) = readNumber ('-' :: first :: tail)
      -- Only infinity has a name with a minus sign, and no digit follows in it.
      have unnamed : (namedValues.find? fun named =>
          named.1.isPrefixOf ('-' :: first :: tail)) = none := by
        have noInfinity := noName 'I' rfl "nfinity".toList
        simp only [namedValues, List.find?_cons, List.find?_nil]
        change (match ("Infinity".toList).isPrefixOf (first :: tail) with
          | true => _
          | false => none) = none
        rw [show "Infinity".toList = 'I' :: "nfinity".toList from rfl, noInfinity]
      rw [readValue, readPlain, unnamed]
      · exact starts _ _ (by decide)
      · exact starts _ _ (by decide)
      · exact starts _ _ (by decide)
  | false =>
      change readValue (budget + 1) (first :: tail) = readNumber (first :: tail)
      have unnamed : (namedValues.find? fun named =>
          named.1.isPrefixOf (first :: tail)) = none := by
        rw [List.find?_eq_none]
        intro named member
        simp only [namedValues, List.mem_cons, List.not_mem_nil, or_false] at member
        rw [Bool.not_eq_true]
        rcases member with rfl | rfl | rfl | rfl | rfl | rfl
        · exact noName 'n' rfl _
        · exact noName 't' rfl _
        · exact noName 'f' rfl _
        · exact noName 'N' rfl _
        · exact noName 'I' rfl _
        · exact noName '-' rfl _
      rw [readValue, readPlain, unnamed]
      · exact starts _ _ (ne_of_isDigit isDigit rfl)
      · exact starts _ _ (ne_of_isDigit isDigit rfl)
      · exact starts _ _ (ne_of_isDigit isDigit rfl)

theorem readNumber_parts (negative : Bool) {digits rest : List Char} (all : AreDigits digits)
    (starts : StartsWell digits) (stops : rest.head?.any Char.isDigit = false)
    {fraction afterFraction left : List Char} {exponent : Option Int}
    (fractionSplit : splitFraction rest = (fraction, afterFraction))
    (exponentSplit : splitExponent afterFraction = (exponent, left)) :
    readNumber (signText negative ++ digits ++ rest) =
      if fraction.isEmpty && exponent.isNone then
        if Number.integerDigitLimit < digits.length then .error (.tooManyDigits digits.length)
        else .ok (.int (Number.signed negative (Number.naturalOfDigits digits)), left)
      else
        .ok (.float (Number.Binary64.ofDecimal negative
          (Number.naturalOfDigits (digits ++ fraction)) (exponent.getD 0 - fraction.length)),
          left) := by
  obtain ⟨first, others, shape, isDigit⟩ := exists_first all starts
  have given : digits.isEmpty = false := by
    rw [shape]
    rfl
  have wholeSplit := splitWhole_append all starts stops
  have signSplit : splitMinus (signText negative ++ digits ++ rest) =
      (negative, digits ++ rest) := by
    cases negative with
    | true => rfl
    | false =>
        rw [signText, if_neg Bool.false_ne_true, List.nil_append, shape, List.cons_append,
          splitMinus]
        intro tail same
        exact ne_of_isDigit isDigit rfl (List.cons.inj same).1
  unfold readNumber
  rw [signSplit]
  dsimp only
  rw [wholeSplit]
  dsimp only
  rw [fractionSplit]
  dsimp only
  rw [exponentSplit]
  dsimp only
  rw [given, if_neg Bool.false_ne_true]

theorem readValue_parts (budget : Nat) (negative : Bool) {digits rest : List Char}
    (all : AreDigits digits) (starts : StartsWell digits)
    (stops : rest.head?.any Char.isDigit = false)
    {fraction afterFraction left : List Char} {exponent : Option Int}
    (fractionSplit : splitFraction rest = (fraction, afterFraction))
    (exponentSplit : splitExponent afterFraction = (exponent, left)) :
    readValue (budget + 1) (signText negative ++ digits ++ rest) =
      if fraction.isEmpty && exponent.isNone then
        if Number.integerDigitLimit < digits.length then .error (.tooManyDigits digits.length)
        else .ok (.int (Number.signed negative (Number.naturalOfDigits digits)), left)
      else
        .ok (.float (Number.Binary64.ofDecimal negative
          (Number.naturalOfDigits (digits ++ fraction)) (exponent.getD 0 - fraction.length)),
          left) := by
  rw [← readNumber_parts negative all starts stops fractionSplit exponentSplit]
  obtain ⟨first, others, rfl, isDigit⟩ := exists_first all starts
  rw [List.append_assoc, List.cons_append]
  exact readValue_number budget negative _ isDigit

theorem writeInteger_eq_ok {number : Int} {written : List Char}
    (made : writeInteger number = .ok written) :
    written = signText (decide (number < 0)) ++ Number.digitsOf number.natAbs ∧
      (Number.digitsOf number.natAbs).length ≤ Number.integerDigitLimit := by
  unfold writeInteger at made
  split at made
  · simp at made
  · rename_i short
    refine ⟨?_, Nat.le_of_not_lt short⟩
    rw [← Except.ok.inj made]
    unfold Number.writeInteger signText
    rw [String.toList_ofList]
    by_cases negative : number < 0 <;> simp [negative]

theorem readValue_writeInteger {number : Int} {written rest : List Char}
    (made : writeInteger number = .ok written) (budget : Nat) (closes : Closes rest) :
    readValue (budget + 1) (written ++ rest) = .ok (.int number, rest) := by
  obtain ⟨rfl, short⟩ := writeInteger_eq_ok made
  have sameNumber : Number.signed (decide (number < 0)) number.natAbs = number := by
    unfold Number.signed
    by_cases negative : number < 0
    · rw [decide_eq_true negative, if_pos rfl]
      omega
    · rw [decide_eq_false negative, if_neg Bool.false_ne_true]
      omega
  rw [readValue_parts budget _ (Number.areDigits_digitsOf _)
    (Number.startsWell_digitsOf _) closes.noDigit (splitFraction_of_closes closes)
    (splitExponent_of_closes closes), List.isEmpty_nil, Option.isNone_none, Bool.true_and,
    if_pos rfl, if_neg (Nat.not_lt.2 short), Number.naturalOfDigits_digitsOf, sameNumber]

theorem splitExponent_exponentText {exponent : Option (Bool × List Char)}
    (given : ∀ negative digits, exponent = some (negative, digits) →
      AreDigits digits ∧ digits ≠ [])
    {rest : List Char} (closes : Closes rest) :
    splitExponent (WrittenDecimal.exponentText exponent ++ rest) =
      (WrittenDecimal.exponentValue exponent, rest) := by
  cases exponent with
  | none => exact splitExponent_of_closes closes
  | some parts =>
      obtain ⟨all, nonempty⟩ := given parts.1 parts.2 rfl
      exact splitExponent_append all nonempty closes

theorem readValue_writtenDecimal (written : WrittenDecimal) (negative : Bool) (budget : Nat)
    {rest : List Char} (closes : Closes rest) :
    readValue (budget + 1) (signText negative ++ written.text ++ rest) =
      .ok (.float (written.number negative), rest) := by
  have exponentHead :
      (WrittenDecimal.exponentText written.exponent ++ rest).head? = some 'e' ∨
        (WrittenDecimal.exponentText written.exponent ++ rest).head? = rest.head? := by
    cases written.exponent with
    | none => exact Or.inr rfl
    | some parts => exact Or.inl rfl
  have exponentStops :
      (WrittenDecimal.exponentText written.exponent ++ rest).head?.any Char.isDigit =
        false := by
    rcases exponentHead with head | head <;> rw [head]
    · rfl
    · exact closes.noDigit
  have exponentNoPoint :
      (WrittenDecimal.exponentText written.exponent ++ rest).head? ≠ some '.' := by
    rcases exponentHead with head | head <;> rw [head]
    · decide
    · exact closes.noPoint
  have fractionStops : (WrittenDecimal.fractionText written.fraction ++
      (WrittenDecimal.exponentText written.exponent ++ rest)).head?.any Char.isDigit =
        false := by
    cases written.fraction with
    | nil => exact exponentStops
    | cons digit digits => rfl
  have noInteger : (written.fraction.isEmpty &&
      (WrittenDecimal.exponentValue written.exponent).isNone) = false := by
    rw [Bool.and_eq_false_iff]
    rcases written.not_integer with given | given
    · exact Or.inl (List.isEmpty_eq_false_iff.2 given)
    · right
      rw [WrittenDecimal.exponentValue, Option.isNone_map, Option.isNone_eq_false_iff,
        Option.isSome_iff_ne_none]
      exact given
  have read := readValue_parts budget negative written.whole_digits
    written.whole_starts fractionStops
    (splitFraction_append written.fraction_digits exponentStops exponentNoPoint)
    (splitExponent_exponentText written.exponent_digits closes)
  rw [noInteger, if_neg Bool.false_ne_true] at read
  unfold WrittenDecimal.text WrittenDecimal.number
  simp only [List.append_assoc] at read ⊢
  exact read

theorem isSpace_of_isDigit {character : Char} (isDigit : character.isDigit = true) :
    isSpace character = false := by
  have differs {other : Char} (noDigit : other.isDigit = false) : (character == other) = false :=
    beq_eq_false_iff_ne.2 (ne_of_isDigit isDigit noDigit)
  unfold isSpace
  rw [differs rfl, differs rfl, differs rfl, differs rfl]
  rfl

theorem number_starts (negative : Bool) {digits : List Char} (all : AreDigits digits)
    (starts : StartsWell digits) (behind : List Char) :
    ∃ first tail, signText negative ++ digits ++ behind = first :: tail ∧
      isSpace first = false := by
  obtain ⟨first, others, rfl, isDigit⟩ := exists_first all starts
  cases negative with
  | true => exact ⟨'-', _, rfl, rfl⟩
  | false => exact ⟨first, _, rfl, isSpace_of_isDigit isDigit⟩

theorem ascii_signText (negative : Bool) :
    ∀ character ∈ signText negative, character.toNat < 128 := by
  cases negative <;> exact ascii_of_all (by decide)

theorem ascii_of_areDigits {digits : List Char} (all : AreDigits digits) :
    ∀ character ∈ digits, character.toNat < 128 := by
  intro character member
  exact Number.ascii_of_isDigit (all character member)

theorem ascii_fractionText {fraction : List Char} (all : AreDigits fraction) :
    ∀ character ∈ WrittenDecimal.fractionText fraction, character.toNat < 128 := by
  unfold WrittenDecimal.fractionText
  split
  · exact ascii_of_all rfl
  · exact @ascii_append ['.'] _ (ascii_of_all (by decide)) (ascii_of_areDigits all)

theorem ascii_exponentText {exponent : Option (Bool × List Char)}
    (given : ∀ negative digits, exponent = some (negative, digits) →
      AreDigits digits ∧ digits ≠ []) :
    ∀ character ∈ WrittenDecimal.exponentText exponent, character.toNat < 128 := by
  cases exponent with
  | none => exact ascii_of_all rfl
  | some parts =>
      obtain ⟨negative, digits⟩ := parts
      have digitsAscii := ascii_of_areDigits (given negative digits rfl).1
      intro character member
      rw [WrittenDecimal.exponentText, List.mem_cons, List.mem_cons] at member
      rcases member with rfl | rfl | within
      · decide
      · cases negative <;> decide
      · exact digitsAscii character within

end Json
end Codec
end SchemaQuery
