import SchemaQuery.Catalog

/-!
# What comes of work on a catalog

Work on a catalog answers something or fails, and either way leaves a catalog behind.
This file says what both are for work in several steps.
-/

namespace SchemaQuery
namespace Catalog

variable {ε ε' α β : Type}

def answer (work : CatalogM ε α) (catalog : Catalog) : Except ε α :=
  (work.run.run catalog).1

def after (work : CatalogM ε α) (catalog : Catalog) : Catalog :=
  (work.run.run catalog).2

variable (catalog : Catalog)

@[simp]
theorem answer_pure (value : α) : answer (pure value : CatalogM ε α) catalog = .ok value := rfl

@[simp]
theorem after_pure (value : α) : after (pure value : CatalogM ε α) catalog = catalog := rfl

@[simp]
theorem answer_throw (failure : ε) :
    answer (throw failure : CatalogM ε α) catalog = .error failure := rfl

@[simp]
theorem after_throw (failure : ε) :
    after (throw failure : CatalogM ε α) catalog = catalog := rfl

theorem answer_bind (work : CatalogM ε α) (next : α → CatalogM ε β) :
    answer (work >>= next) catalog =
      match answer work catalog with
      | .ok value => answer (next value) (after work catalog)
      | .error failure => .error failure := by
  unfold answer after
  rw [ExceptT.run_bind, StateT.run_bind]
  obtain ⟨outcome, between⟩ := work.run.run catalog
  cases outcome <;> rfl

theorem after_bind (work : CatalogM ε α) (next : α → CatalogM ε β) :
    after (work >>= next) catalog =
      match answer work catalog with
      | .ok value => after (next value) (after work catalog)
      | .error _ => after work catalog := by
  unfold answer after
  rw [ExceptT.run_bind, StateT.run_bind]
  obtain ⟨outcome, between⟩ := work.run.run catalog
  cases outcome <;> rfl

/-- Work in two steps succeeds if both do, one after the other. -/
theorem answer_bind_eq_ok (work : CatalogM ε α) (next : α → CatalogM ε β) (result : β) :
    answer (work >>= next) catalog = .ok result ↔
      ∃ value, answer work catalog = .ok value ∧
        answer (next value) (after work catalog) = .ok result := by
  rw [answer_bind]
  cases answer work catalog <;> simp

@[simp]
theorem answer_adapt (change : ε → ε') (work : CatalogM ε α) :
    answer (ExceptT.adapt change work) catalog = (answer work catalog).mapError change := rfl

@[simp]
theorem after_adapt (change : ε → ε') (work : CatalogM ε α) :
    after (ExceptT.adapt change work) catalog = after work catalog := rfl

end Catalog
end SchemaQuery
