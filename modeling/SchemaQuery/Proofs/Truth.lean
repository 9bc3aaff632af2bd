/-!
# Three-valued logic

A condition on a row holds or fails, or it is unknown where a missing value keeps
it from doing either.  A row is wanted only if its condition holds, so this file
says when conjunctions and disjunctions hold, and which regroupings of them keep
their truth.
-/

namespace SchemaQuery
namespace Sql

inductive Truth where
  | holds
  | fails
  | unknown
deriving DecidableEq, Repr, Inhabited

namespace Truth

def ofBool (decided : Bool) : Truth :=
  if decided then .holds else .fails

def not : Truth → Truth
  | .holds => .fails
  | .fails => .holds
  | .unknown => .unknown

def and : Truth → Truth → Truth
  | .fails, _ => .fails
  | _, .fails => .fails
  | .holds, .holds => .holds
  | _, _ => .unknown

def or : Truth → Truth → Truth
  | .holds, _ => .holds
  | _, .holds => .holds
  | .fails, .fails => .fails
  | _, _ => .unknown

def all (truths : List Truth) : Truth :=
  truths.foldr and .holds

def any (truths : List Truth) : Truth :=
  truths.foldr or .fails

@[simp]
theorem ofBool_eq_holds (decided : Bool) : ofBool decided = .holds ↔ decided = true := by
  cases decided <;> simp [ofBool]

@[simp]
theorem and_eq_holds (first second : Truth) :
    first.and second = .holds ↔ first = .holds ∧ second = .holds := by
  cases first <;> cases second <;> decide

@[simp]
theorem or_eq_holds (first second : Truth) :
    first.or second = .holds ↔ first = .holds ∨ second = .holds := by
  cases first <;> cases second <;> decide

@[simp]
theorem and_holds (truth : Truth) : truth.and .holds = truth := by
  cases truth <;> rfl

@[simp]
theorem or_fails (truth : Truth) : truth.or .fails = truth := by
  cases truth <;> rfl

@[simp]
theorem fails_or (truth : Truth) : Truth.fails.or truth = truth := by
  cases truth <;> rfl

@[simp]
theorem and_fails (truth : Truth) : truth.and .fails = .fails := by
  cases truth <;> rfl

theorem and_assoc (first second third : Truth) :
    (first.and second).and third = first.and (second.and third) := by
  cases first <;> cases second <;> cases third <;> rfl

theorem or_assoc (first second third : Truth) :
    (first.or second).or third = first.or (second.or third) := by
  cases first <;> cases second <;> cases third <;> rfl

@[simp]
theorem all_nil : all [] = .holds := rfl

@[simp]
theorem any_nil : any [] = .fails := rfl

@[simp]
theorem all_cons (truth : Truth) (rest : List Truth) :
    all (truth :: rest) = truth.and (all rest) := rfl

@[simp]
theorem any_cons (truth : Truth) (rest : List Truth) :
    any (truth :: rest) = truth.or (any rest) := rfl

@[simp]
theorem all_append (before behind : List Truth) :
    all (before ++ behind) = (all before).and (all behind) := by
  induction before with
  | nil => cases found : all behind <;> simp [found, and]
  | cons truth rest hypothesis => simp [hypothesis, and_assoc]

@[simp]
theorem any_append (before behind : List Truth) :
    any (before ++ behind) = (any before).or (any behind) := by
  induction before with
  | nil => simp
  | cons truth rest hypothesis => simp [hypothesis, or_assoc]

theorem all_eq_holds (truths : List Truth) :
    all truths = .holds ↔ ∀ truth ∈ truths, truth = .holds := by
  induction truths with
  | nil => simp
  | cons truth rest hypothesis => simp [hypothesis]

theorem any_eq_holds (truths : List Truth) :
    any truths = .holds ↔ .holds ∈ truths := by
  induction truths with
  | nil => simp
  | cons truth rest hypothesis =>
      rw [any_cons, or_eq_holds, hypothesis, List.mem_cons, eq_comm]

theorem all_eq_fails_of_mem {truths : List Truth} (member : Truth.fails ∈ truths) :
    all truths = .fails := by
  induction truths with
  | nil => simp at member
  | cons truth rest hypothesis =>
      rcases List.mem_cons.1 member with rfl | later
      · rfl
      · rw [all_cons, hypothesis later, and_fails]

end Truth

end Sql
end SchemaQuery
