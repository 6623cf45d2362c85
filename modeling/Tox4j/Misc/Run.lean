import Mathlib.Data.List.Induction
import Mathlib.Tactic.Common

/-!
# Runs of labelled transition relations

A system is a relation `step : σ → ι → σ → Prop` between a state, the label of what
happens and the next state. A run lists the labels in the order they happened. The
induction over runs is packaged once, in `Run.invariant`.
-/

namespace Tox4j.Misc

universe u v

/-- `Run step s₀ ls s`: the labels `ls`, in this order, lead from `s₀` to `s`. -/
inductive Run {σ : Type u} {ι : Type v} (step : σ → ι → σ → Prop) (s₀ : σ) :
    List ι → σ → Prop
  | nil : Run step s₀ [] s₀
  | snoc {ls : List ι} {s s' : σ} {l : ι} :
      Run step s₀ ls s → step s l s' → Run step s₀ (ls ++ [l]) s'

/-- The steps of a system that meet a condition on the state before them and their label. -/
def Guarded {σ : Type u} {ι : Type v} (ok : σ → ι → Prop) (step : σ → ι → σ → Prop) :
    σ → ι → σ → Prop :=
  fun s l s' => ok s l ∧ step s l s'

namespace Run

variable {σ : Type u} {ι : Type v} {step : σ → ι → σ → Prop} {s₀ s s' : σ} {ls ms : List ι} {l : ι}

theorem single (h : step s₀ l s) : Run step s₀ [l] s := by
  have h' := Run.nil.snoc h
  exact h'

theorem append (h : Run step s₀ ls s) (h' : Run step s ms s') :
    Run step s₀ (ls ++ ms) s' := by
  induction h' with
  | nil => simpa using h
  | snoc _ hstep ih =>
    rw [← List.append_assoc]
    exact .snoc ih hstep

/-- The first step of a run that is not empty. -/
theorem cons (h : step s₀ l s) (h' : Run step s ls s') : Run step s₀ (l :: ls) s' :=
  (single h).append h'

theorem mono {step₂ : σ → ι → σ → Prop} (hsub : ∀ s l s', step s l s' → step₂ s l s')
    (h : Run step s₀ ls s) : Run step₂ s₀ ls s := by
  induction h with
  | nil => exact .nil
  | snoc _ hstep ih => exact .snoc ih (hsub _ _ _ hstep)

/-- A run whose labels meet a condition in every state is a guarded run. -/
theorem guard (ok : σ → ι → Prop) (h : Run step s₀ ls s) (hok : ∀ l ∈ ls, ∀ s, ok s l) :
    Run (Guarded ok step) s₀ ls s := by
  induction h with
  | nil => exact .nil
  | snoc _ hstep ih =>
    simp only [List.mem_append, List.mem_singleton] at hok
    exact .snoc (ih fun l hl => hok l (.inl hl)) ⟨hok _ (.inr rfl) _, hstep⟩

/-- What holds at the start and is kept by every step holds in every state reached. -/
theorem invariant {Inv : σ → Prop} (h₀ : Inv s₀)
    (hstep : ∀ s l s', Inv s → step s l s' → Inv s') (h : Run step s₀ ls s) : Inv s := by
  induction h with
  | nil => exact h₀
  | snoc _ hs ih => exact hstep _ _ _ ih hs

/-- Every state a run goes through is the end of a run that is a prefix of it. -/
theorem split (h : Run step s₀ (ls ++ ms) s') : ∃ s, Run step s₀ ls s ∧ Run step s ms s' := by
  induction ms using List.reverseRecOn generalizing s' with
  | nil => exact ⟨s', by simpa using h, .nil⟩
  | append_singleton ms m ih =>
    rw [← List.append_assoc] at h
    generalize hks : (ls ++ ms) ++ [m] = ks at h
    cases h with
    | nil => simp at hks
    | snoc hrun hs =>
      obtain ⟨rfl, hm⟩ := List.append_inj' hks rfl
      obtain rfl : m = _ := by simpa using hm
      obtain ⟨s, h₁, h₂⟩ := ih hrun
      exact ⟨s, h₁, .snoc h₂ hs⟩

/-- The last step of a run. -/
theorem of_snoc (h : Run step s₀ (ls ++ [l]) s') : ∃ s, Run step s₀ ls s ∧ step s l s' := by
  generalize hms : ls ++ [l] = ms at h
  cases h with
  | nil => simp at hms
  | snoc hrun hs =>
    obtain ⟨rfl, hl⟩ := List.append_inj' hms rfl
    obtain rfl : l = _ := by simpa using hl
    exact ⟨_, hrun, hs⟩

/-- When the steps are those of a function, the labels of a run determine where it ends. -/
theorem functional (hf : ∀ s l s₁ s₂, step s l s₁ → step s l s₂ → s₁ = s₂)
    (h : Run step s₀ ls s) (h' : Run step s₀ ls s') : s = s' := by
  induction h generalizing s' with
  | nil =>
    generalize hls : ([] : List ι) = ls at h'
    cases h' with
    | nil => rfl
    | snoc => simp at hls
  | @snoc ls s₁ s₂ l _ hs ih =>
    generalize hls : ls ++ [l] = ls' at h'
    cases h' with
    | nil => simp at hls
    | snoc hrun hs' =>
      obtain ⟨rfl, hl⟩ := List.append_inj' hls rfl
      obtain rfl : l = _ := by simpa using hl
      obtain rfl := ih hrun
      exact hf _ _ _ _ hs hs'

/-- A longer run is guarded when the shorter one is and its last step meets the condition. -/
theorem guarded_snoc (ok : σ → ι → Prop)
    (hf : ∀ s l s₁ s₂, step s l s₁ → step s l s₂ → s₁ = s₂) (h : Run step s₀ ls s)
    (hs : step s l s') :
    Run (Guarded ok step) s₀ (ls ++ [l]) s' ↔ Run (Guarded ok step) s₀ ls s ∧ ok s l := by
  constructor
  · intro hrun
    obtain ⟨mid, hmid, hlast⟩ := hrun.of_snoc
    obtain rfl : mid = s := functional hf (hmid.mono fun _ _ _ hs => hs.2) h
    exact ⟨hmid, hlast.1⟩
  · intro hboth
    exact .snoc hboth.1 ⟨hboth.2, hs⟩

/-- The runs of a step function: folding it over the labels executes a run. -/
theorem of_foldlM {σ ι ε : Type u} {f : σ → ι → Except ε σ} {s₀ s : σ} {ls : List ι}
    (h : ls.foldlM f s₀ = .ok s) : Run (fun s l s' => f s l = .ok s') s₀ ls s := by
  induction ls generalizing s₀ with
  | nil =>
    cases h
    exact .nil
  | cons l ls ih =>
    rw [List.foldlM_cons] at h
    cases hl : f s₀ l with
    | error e => simp [hl, bind, Except.bind] at h
    | ok m => exact cons hl (ih (by simpa [hl, bind, Except.bind] using h))

end Run

end Tox4j.Misc
