import Mathlib.Data.List.Basic
import Mathlib.Tactic.Common
import Tox4j.Misc.Run

/-!
# Networks without outsiders

Parties of one kind send messages, and a network delivers them as it likes: a message that was
ever sent can be lost, or delivered any number of times, in any order and to anyone. When what a
party does for a good message keeps it from sending a bad one, no bad message is ever sent, and
`Run.closed` gives an invariant of every party by induction over the events of that party alone.
-/

namespace Tox4j.Misc

universe u v w x

/-- What a party does, what it has sent so far, and the message that an event delivers to it. -/
structure Party (σ : Type u) (ε : Type v) (μ : Type w) where
  step : σ → ε → σ → Prop
  sent : σ → List μ
  input : ε → Option μ

namespace Party

variable {σ : Type u} {ε : Type v} {μ : Type w} {ι : Type x} (party : Party σ ε μ)

/-- Some party has sent what the event delivers. -/
def Genuine (parties : ι → σ) (event : ε) : Prop :=
  ∀ message, party.input event = some message → ∃ i, message ∈ party.sent (parties i)

/-- One party makes a step. -/
def Step (parties : ι → σ) (label : ι × ε) (parties' : ι → σ) : Prop :=
  party.Genuine parties label.2 ∧ party.step (parties label.1) label.2 (parties' label.1) ∧
    ∀ i, i ≠ label.1 → parties' i = parties i

end Party

section

variable {ι : Type x} [DecidableEq ι] {ε : Type v}

/-- The events of one party. -/
def eventsOf (i : ι) (labels : List (ι × ε)) : List ε :=
  (labels.filter fun label => label.1 = i).map Prod.snd

theorem eventsOf_concat_self (i : ι) (labels : List (ι × ε)) (event : ε) :
    eventsOf i (labels ++ [(i, event)]) = eventsOf i labels ++ [event] := by
  simp [eventsOf]

theorem eventsOf_concat_of_ne {i : ι} {label : ι × ε} (h : i ≠ label.1)
    (labels : List (ι × ε)) : eventsOf i (labels ++ [label]) = eventsOf i labels := by
  simp [eventsOf, Ne.symm h]

variable {σ : Type u} {μ : Type w} {party : Party σ ε μ} {start parties : ι → σ}
  {labels : List (ι × ε)} {Inv : ι → List ε → σ → Prop}

/-- The events of a party and its state meet the invariant; it sends only good messages then, and
    no good message breaks the invariant. -/
theorem Run.closed (Good : μ → Prop) (hstart : ∀ i, Inv i [] (start i))
    (hsent : ∀ i events s, Inv i events s → ∀ message ∈ party.sent s, Good message)
    (hstep : ∀ i events s event s', Inv i events s →
      (∀ message, party.input event = some message → Good message) →
        party.step s event s' → Inv i (events ++ [event]) s')
    (hrun : Run party.Step start labels parties) (i : ι) :
    Inv i (eventsOf i labels) (parties i) := by
  induction hrun generalizing i with
  | nil => exact hstart i
  | @snoc labels parties parties' label _ hlast ih =>
    obtain ⟨hgenuine, hown, hothers⟩ := hlast
    by_cases hi : i = label.1
    · subst hi
      have hgood : ∀ message, party.input label.2 = some message → Good message := by
        intro message hinput
        obtain ⟨j, hmem⟩ := hgenuine message hinput
        exact hsent j _ _ (ih j) message hmem
      rw [eventsOf_concat_self]
      exact hstep _ _ _ _ _ (ih label.1) hgood hown
    · rw [eventsOf_concat_of_ne hi, hothers i hi]
      exact ih i

end

end Tox4j.Misc
