import Mathlib.Data.List.Basic
import Mathlib.Tactic.Common

/-!
# What has happened since

A history is a list of what happened, oldest first. `Since happens resets l` says that something
has happened in it and nothing has undone that. `Separated asks answers l` says that between any
two questions there is an answer. Both are followed through a history that grows at its end.
-/

namespace Tox4j.Misc

variable {α : Type} {happens resets asks answers : α → Prop} {l m : List α}

/-- Something that `happens` is in the list, and nothing after it `resets` it. -/
def Since (happens resets : α → Prop) (l : List α) : Prop :=
  ∃ a x b, l = a ++ x :: b ∧ happens x ∧ ∀ z ∈ b, ¬ resets z

/-- Between any two elements that ask there is one that answers. -/
def Separated (asks answers : α → Prop) (l : List α) : Prop :=
  ∀ a x b y c, l = a ++ x :: b ++ y :: c → asks x → asks y → ∃ z ∈ b, answers z

/-- An element of two lists put together is in one of them. -/
theorem append_eq_append_cons {a c : List α} {x : α} (h : l ++ m = a ++ x :: c) :
    (∃ a', a = l ++ a' ∧ m = a' ++ x :: c) ∨ ∃ c', l = a ++ x :: c' ∧ c = c' ++ m := by
  rcases List.append_eq_append_iff.mp h with ⟨a', rfl, hm⟩ | ⟨c', rfl, hc⟩
  · exact .inl ⟨a', rfl, hm⟩
  · cases c' with
    | nil => exact .inl ⟨[], by simp, by simpa using hc.symm⟩
    | cons z c' =>
      simp only [List.cons_append, List.cons.injEq] at hc
      obtain ⟨rfl, rfl⟩ := hc
      exact .inr ⟨c', rfl, rfl⟩

@[simp] theorem not_since_nil : ¬ Since happens resets [] := by
  intro h
  obtain ⟨a, x, b, heq, -⟩ := h
  simp at heq

theorem since_append : Since happens resets (l ++ m) ↔
    Since happens resets m ∨ Since happens resets l ∧ ∀ z ∈ m, ¬ resets z := by
  constructor
  · intro h
    obtain ⟨a, x, b, heq, hx, hb⟩ := h
    rcases append_eq_append_cons heq with ⟨a', -, hm⟩ | ⟨b', hl, rfl⟩
    · exact .inl ⟨a', x, b, hm, hx, hb⟩
    · refine .inr ⟨⟨a, x, b', hl, hx, ?_⟩, ?_⟩
      · intro z hz
        exact hb z (List.mem_append_left _ hz)
      · intro z hz
        exact hb z (List.mem_append_right _ hz)
  · intro h
    rcases h with ⟨a, x, b, rfl, hx, hb⟩ | ⟨⟨a, x, b, rfl, hx, hb⟩, hm⟩
    · exact ⟨l ++ a, x, b, (List.append_assoc ..).symm, hx, hb⟩
    · refine ⟨a, x, b ++ m, List.append_assoc .., hx, ?_⟩
      intro z hz
      rcases List.mem_append.mp hz with hz | hz
      · exact hb z hz
      · exact hm z hz

theorem since_singleton {x : α} : Since happens resets [x] ↔ happens x := by
  constructor
  · intro h
    obtain ⟨a, y, b, heq, hy, -⟩ := h
    obtain rfl : y = x := by
      have hmem : y ∈ [x] := heq ▸ List.mem_append_right _ List.mem_cons_self
      exact List.mem_singleton.mp hmem
    exact hy
  · intro h
    exact ⟨[], x, [], rfl, h, by simp⟩

/-- What happened is in the history. -/
theorem Since.exists_mem (h : Since happens resets l) : ∃ x ∈ l, happens x := by
  obtain ⟨a, x, b, rfl, hx, -⟩ := h
  exact ⟨x, by simp, hx⟩

theorem Since.of_mem {x : α} (hmem : x ∈ l) (hx : happens x) (hresets : ∀ z ∈ l, ¬ resets z) :
    Since happens resets l := by
  obtain ⟨a, b, rfl⟩ := List.append_of_mem hmem
  refine ⟨a, x, b, rfl, hx, ?_⟩
  intro z hz
  exact hresets z (List.mem_append_right _ (List.mem_cons_of_mem _ hz))

/-- A stretch in which nothing of the two happens changes nothing. -/
theorem since_append_of_forall_not (hhappens : ∀ z ∈ m, ¬ happens z)
    (hresets : ∀ z ∈ m, ¬ resets z) :
    Since happens resets (l ++ m) ↔ Since happens resets l := by
  rw [since_append]
  constructor
  · intro h
    rcases h with h | h
    · obtain ⟨x, hmem, hx⟩ := h.exists_mem
      exact absurd hx (hhappens x hmem)
    · exact h.1
  · intro h
    exact .inr ⟨h, hresets⟩

/-- The last thing that happened is what undoes it. -/
theorem not_since_append_singleton {x : α} (hx : ¬ happens x) (hresets : resets x) :
    ¬ Since happens resets (l ++ [x]) := by
  rw [since_append, since_singleton]
  intro h
  rcases h with h | h
  · exact hx h
  · exact h.2 x (List.mem_singleton_self x) hresets

/-- Questions are separated when none is asked while one is open. -/
theorem separated_iff : Separated asks answers l ↔
    ∀ a y c, l = a ++ y :: c → asks y → ¬ Since asks answers a := by
  constructor
  · intro h a y c hl hy hopen
    obtain ⟨a', x, b, rfl, hx, hb⟩ := hopen
    obtain ⟨z, hz, hanswers⟩ := h a' x b y c hl hx hy
    exact hb z hz hanswers
  · intro h a x b y c hl hx hy
    by_contra hnone
    refine h (a ++ x :: b) y c hl hy ⟨a, x, b, rfl, hx, ?_⟩
    intro z hz hanswers
    exact hnone ⟨z, hz, hanswers⟩

/-- Two histories one after the other: while a question of the first is open, the second asks
    none. -/
theorem Separated.append (hl : Separated asks answers l) (hm : Separated asks answers m)
    (hopen : Since asks answers l → ∀ y ∈ m, ¬ asks y) : Separated asks answers (l ++ m) := by
  rw [separated_iff] at *
  intro a y c heq hy hsince
  rcases append_eq_append_cons heq with ⟨a', rfl, rfl⟩ | ⟨c', rfl, rfl⟩
  · rcases since_append.mp hsince with hsince | ⟨hsince, -⟩
    · exact hm a' y c rfl hy hsince
    · exact hopen hsince y (by simp) hy
  · exact hl a y c' rfl hy hsince

@[simp] theorem Separated.nil : Separated asks answers [] := by
  intro a x b y c h
  simp at h

/-- A list in which at most one element asks. -/
theorem Separated.of_pairwise (h : m.Pairwise fun x y => ¬ (asks x ∧ asks y)) :
    Separated asks answers m := by
  rw [separated_iff]
  intro a y c heq hy hsince
  obtain ⟨x, hmem, hx⟩ := hsince.exists_mem
  rw [heq, List.pairwise_append] at h
  exact h.2.2 x hmem y List.mem_cons_self ⟨hx, hy⟩

/-- Questions are separated, and while one is open the flag `pending` is set. -/
structure Tracked (asks answers : α → Prop) (pending : Prop) (l : List α) : Prop where
  separated : Separated asks answers l
  pending : Since asks answers l → pending

namespace Tracked

variable {pending pending' : Prop}

theorem nil : Tracked asks answers pending [] where
  separated := .nil
  pending h := absurd h not_since_nil

/-- Nothing is asked, and the flag stays unless there is an answer. -/
theorem append_answers (h : Tracked asks answers pending l) (hasks : ∀ z ∈ m, ¬ asks z)
    (hpending : pending → (∃ z ∈ m, answers z) ∨ pending') :
    Tracked asks answers pending' (l ++ m) := by
  constructor
  · refine h.separated.append (.of_pairwise ?_) fun _ => hasks
    apply List.pairwise_of_forall_mem_list
    intro x hx y _ hboth
    exact hasks x hx hboth.1
  · intro hsince
    rcases since_append.mp hsince with hsince | ⟨hsince, hopen⟩
    · obtain ⟨z, hz, hask⟩ := hsince.exists_mem
      exact absurd hask (hasks z hz)
    · rcases hpending (h.pending hsince) with ⟨z, hz, hanswers⟩ | hstays
      · exact absurd hanswers (hopen z hz)
      · exact hstays

/-- At most one question is asked, where the flag was not set, and that sets it. -/
theorem append_asks (h : Tracked asks answers pending l)
    (honce : m.Pairwise fun x y => ¬ (asks x ∧ asks y))
    (hasks : ∀ z ∈ m, asks z → ¬ pending ∧ pending') (hstays : pending → pending') :
    Tracked asks answers pending' (l ++ m) := by
  constructor
  · refine h.separated.append (.of_pairwise honce) ?_
    intro hopen z hz hask
    exact (hasks z hz hask).1 (h.pending hopen)
  · intro hsince
    rcases since_append.mp hsince with hsince | ⟨hsince, -⟩
    · obtain ⟨z, hz, hask⟩ := hsince.exists_mem
      exact (hasks z hz hask).2
    · exact hstays (h.pending hsince)

end Tracked

end Tox4j.Misc
