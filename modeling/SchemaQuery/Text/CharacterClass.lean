/-!
# Classes of characters

Unicode describes a property of characters by the code points that have it.
Such a class is kept here as the list of its closed ranges, in ascending order.
-/

namespace SchemaQuery
namespace Text

structure CharacterClass where
  ranges : List (Nat × Nat)
deriving Repr, DecidableEq

namespace CharacterClass

def contains (members : CharacterClass) (character : Char) : Bool :=
  members.ranges.any fun range =>
    range.1 ≤ character.toNat && character.toNat ≤ range.2

theorem contains_eq_true_iff (members : CharacterClass) (character : Char) :
    members.contains character = true ↔
      ∃ range ∈ members.ranges,
        range.1 ≤ character.toNat ∧ character.toNat ≤ range.2 := by
  simp [contains]

end CharacterClass

end Text
end SchemaQuery
