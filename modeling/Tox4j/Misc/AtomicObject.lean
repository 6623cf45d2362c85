import Mathlib.Logic.Function.Basic
import Tox4j.Misc.Run

/-!
# Atomic objects and linearizability

An atomic object is used by threads: a thread calls an operation, the operation takes effect in
one step, and the call returns. Between these, other threads may do the same. A system is
linearizable when the calls and the replies of each of its runs are those of a run of an atomic
object; such a run is found with `Run.simulates`, one step of the system after the other.
-/

namespace Tox4j.Misc

universe u v w

/-- When every step of a system is matched by a run of another one that shows the same, so is every
    run. `R` relates the states of the two. -/
theorem Run.simulates {σ : Type u} {ι : Type v} {α κ ο : Type w} {step : σ → ι → σ → Prop}
    {astep : α → κ → α → Prop} {R : σ → α → Prop} (shown : ι → List ο) (visible : κ → List ο)
    (hstep : ∀ s l s' a, R s a → step s l s' →
      ∃ ks a', Run astep a ks a' ∧ R s' a' ∧ ks.flatMap visible = shown l)
    {s₀ s : σ} {a₀ : α} {ls : List ι} (h₀ : R s₀ a₀) (h : Run step s₀ ls s) :
    ∃ ks a, Run astep a₀ ks a ∧ R s a ∧ ks.flatMap visible = ls.flatMap shown := by
  induction h with
  | nil => exact ⟨[], a₀, .nil, h₀, rfl⟩
  | snoc _ hs ih =>
    obtain ⟨ks, a, hrun, hR, hshown⟩ := ih
    obtain ⟨ks', a', hrun', hR', hshown'⟩ := hstep _ _ _ a hR hs
    refine ⟨ks ++ ks', a', hrun.append hrun', hR', ?_⟩
    rw [List.flatMap_append, List.flatMap_append, hshown, hshown', List.flatMap_singleton]

/-- What a thread is doing with an object. -/
inductive Phase (Op Reply : Type) where
  | idle
  /-- The operation was called and has had no effect yet. -/
  | called (op : Op)
  /-- The operation has taken effect and is about to return. -/
  | answered (reply : Reply)
  deriving DecidableEq, Repr

/-- What can happen at an object. -/
inductive AtomicLabel (T Op Reply : Type) where
  | call (t : T) (op : Op)
  | commit (t : T) (op : Op) (reply : Reply)
  | ret (t : T) (reply : Reply)
  deriving DecidableEq, Repr

/-- What can be seen from outside of an object. -/
inductive Visible (T Op Reply : Type) where
  | call (t : T) (op : Op)
  | ret (t : T) (reply : Reply)
  deriving DecidableEq, Repr

namespace AtomicLabel

variable {T Op Reply : Type}

def thread : AtomicLabel T Op Reply → T
  | .call t _ | .commit t _ _ | .ret t _ => t

def visible : AtomicLabel T Op Reply → List (Visible T Op Reply)
  | .call t op => [.call t op]
  | .commit _ _ _ => []
  | .ret t reply => [.ret t reply]

/-- The operations that take effect, with their replies. -/
def committed : AtomicLabel T Op Reply → List (Op × Reply)
  | .commit _ op reply => [(op, reply)]
  | .call _ _ | .ret _ _ => []

end AtomicLabel

/-- The state of an object and what the threads are doing with it. -/
structure AtomicObject (σ T Op Reply : Type) where
  state : σ
  phase : T → Phase Op Reply := fun _ => .idle

namespace AtomicObject

variable {σ T Op Reply : Type} [DecidableEq T] {effect : σ → Op × Reply → σ → Prop}
  {a a₀ : AtomicObject σ T Op Reply} {ls : List (AtomicLabel T Op Reply)}

def enter (a : AtomicObject σ T Op Reply) (t : T) (phase : Phase Op Reply) :
    AtomicObject σ T Op Reply :=
  { a with phase := Function.update a.phase t phase }

@[simp] theorem enter_state (t : T) (phase : Phase Op Reply) : (a.enter t phase).state = a.state :=
  rfl

@[simp] theorem enter_phase_self (t : T) (phase : Phase Op Reply) :
    (a.enter t phase).phase t = phase := Function.update_self ..

theorem enter_phase_ne {t t' : T} (hne : t' ≠ t) (phase : Phase Op Reply) :
    (a.enter t phase).phase t' = a.phase t' := Function.update_of_ne hne ..

/-- `effect` says what an operation does to the state, and what it replies. -/
inductive Step (effect : σ → Op × Reply → σ → Prop) (a : AtomicObject σ T Op Reply) :
    AtomicLabel T Op Reply → AtomicObject σ T Op Reply → Prop
  | call {t} (op) : a.phase t = .idle → Step effect a (.call t op) (a.enter t (.called op))
  | commit {t op reply state} : a.phase t = .called op → effect a.state (op, reply) state →
      Step effect a (.commit t op reply) { a.enter t (.answered reply) with state }
  | ret {t reply} : a.phase t = .answered reply →
      Step effect a (.ret t reply) (a.enter t .idle)

/-- The operations take effect one after the other, as if there was one thread. -/
theorem sequential (h : Run (Step effect) a₀ ls a) :
    Run effect a₀.state (ls.flatMap AtomicLabel.committed) a.state := by
  induction h with
  | nil => exact .nil
  | snoc _ hs ih =>
    rw [List.flatMap_append, List.flatMap_singleton]
    cases hs with
    | call op hidle => simpa [AtomicLabel.committed] using ih
    | commit hcalled heffect => exact .snoc ih heffect
    | ret hanswered => simpa [AtomicLabel.committed] using ih

/-- What one thread sees of its own operations. -/
inductive ThreadStep (t : T) : Phase Op Reply → AtomicLabel T Op Reply → Phase Op Reply → Prop
  | call (op) : ThreadStep t .idle (.call t op) (.called op)
  | commit (op reply) : ThreadStep t (.called op) (.commit t op reply) (.answered reply)
  | ret (reply) : ThreadStep t (.answered reply) (.ret t reply) .idle

/-- Every operation of a thread takes effect once, between its call and its return, which has the
    reply. -/
theorem thread_run (h : Run (Step effect) a₀ ls a) (t : T) :
    Run (ThreadStep t) (a₀.phase t) (ls.filter fun l => l.thread = t) (a.phase t) := by
  induction h with
  | nil => exact .nil
  | @snoc ls a a' l _ hs ih =>
    rw [List.filter_append]
    by_cases heq : l.thread = t
    · rw [List.filter_cons_of_pos (by simpa using heq), List.filter_nil]
      subst heq
      cases hs with
      | call op hidle =>
        rw [AtomicLabel.thread] at ih ⊢
        rw [hidle] at ih
        rw [enter_phase_self]
        exact .snoc ih (.call op)
      | commit hcalled heffect =>
        rw [AtomicLabel.thread] at ih ⊢
        rw [hcalled] at ih
        simp only [enter_phase_self]
        exact .snoc ih (.commit _ _)
      | ret hanswered =>
        rw [AtomicLabel.thread] at ih ⊢
        rw [hanswered] at ih
        rw [enter_phase_self]
        exact .snoc ih (.ret _)
    · have hsame : a'.phase t = a.phase t := by
        cases hs with
        | call op hidle => exact enter_phase_ne (Ne.symm heq) _
        | commit hcalled heffect => exact enter_phase_ne (Ne.symm heq) _
        | ret hanswered => exact enter_phase_ne (Ne.symm heq) _
      rw [List.filter_cons_of_neg (by simpa using heq), List.filter_nil, List.append_nil, hsame]
      exact ih

end AtomicObject

end Tox4j.Misc
