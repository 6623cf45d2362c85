import Mathlib.Tactic.Common

/-!
# Computations with assertions

A computation that stops the program when an assertion fails: `Except` with the text of
the failed assertion as its error. `bind_eq_ok` peels such a computation apart.
-/

namespace Tox4j.Misc

universe u v

/-- A value, or the text of the assertion that failed. -/
abbrev Checked (α : Type u) := Except String α

namespace Checked

variable {α : Type u} {β : Type v}

/-- `assert (condition)`: the program goes on only when the condition holds. -/
def assert (condition : Bool) (text : String) : Checked PUnit.{u + 1} :=
  if condition then .ok ⟨⟩ else .error text

/-- The computation ends without a failed assertion. -/
def Succeeds (x : Checked α) : Prop := ∃ a, x = .ok a

@[simp] theorem assert_eq_ok {condition : Bool} {text : String} {u : PUnit.{u + 1}} :
    assert condition text = .ok u ↔ condition = true := by
  cases condition <;> simp [assert]

@[simp] theorem bind_eq_ok {α β : Type u} {x : Checked α} {f : α → Checked β} {b : β} :
    (x >>= f) = .ok b ↔ ∃ a, x = .ok a ∧ f a = .ok b := by
  cases x with
  | error text => simp [bind, Except.bind]
  | ok a => simp [bind, Except.bind]

@[simp] theorem map_eq_ok {α β : Type u} {x : Checked α} {f : α → β} {b : β} :
    f <$> x = .ok b ↔ ∃ a, x = .ok a ∧ f a = b := by
  cases x with
  | error text => simp [Functor.map, Except.map]
  | ok a => simp [Functor.map, Except.map]

@[simp] theorem ok_bind {α β : Type u} (a : α) (f : α → Checked β) :
    ((.ok a : Checked α) >>= f) = f a := rfl

@[simp] theorem pure_eq_ok {a b : α} : (pure a : Checked α) = .ok b ↔ a = b := by
  simp [pure, Except.pure]

theorem Succeeds.ok (a : α) : Succeeds (.ok a : Checked α) := ⟨a, rfl⟩

end Checked

/-- A loop over a list whose steps all return. -/
theorem mapM_map_pure {m : Type u → Type v} [Monad m] [LawfulMonad m] {α β γ : Type u}
    {f : β → m γ} {k : α → β} {g : α → γ} (hf : ∀ a, f (k a) = pure (g a)) (as : List α) :
    (as.map k).mapM f = pure (as.map g) := by
  have hcomp : f ∘ k = fun a => pure (g a) := funext hf
  rw [List.mapM_map, hcomp, List.mapM_pure]

end Tox4j.Misc
