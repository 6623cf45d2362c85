import Mathlib.Data.List.Basic
import Mathlib.Data.List.Forall2
import Mathlib.Logic.Function.Basic

/-!
# Events that wait to be collected

Events are stored as they happen, each under its kind, and reported all at once, kind by kind, when
they are collected. For every kind there is one listener or none; what nobody listens to is thrown
away. For each kind alone this is a queue: an event goes to the listener that is registered for its
kind at the next collection, once and in the order in which the events happened.
-/

namespace Tox4j.Misc

/-- What happens to a mailbox. -/
inductive Mail (Event Kind Listener : Type) where
  | register (kind : Kind) (listener : Option Listener)
  | event (event : Event)
  | collect
  deriving DecidableEq, Repr

/-- The calls of a listener, if there is one. -/
def calling {Listener Call : Type} (listener : Option Listener) (calls : List Call) :
    List (Listener × Call) :=
  match listener with
  | none => []
  | some l => calls.map (l, ·)

section

variable {Event Kind Listener Call Box : Type} [DecidableEq Kind]

@[simp] theorem calling_nil (listener : Option Listener) :
    calling listener ([] : List Call) = [] := by
  cases listener <;> rfl

theorem calling_append (listener : Option Listener) (calls calls' : List Call) :
    calling listener (calls ++ calls') = calling listener calls ++ calling listener calls' := by
  cases listener with
  | none => rfl
  | some l => exact List.map_append ..

/-- The listener of a kind at the next collection. -/
def collector (k : Kind) (listener : Option Listener) :
    List (Mail Event Kind Listener) → Option Listener
  | [] => none
  | .register k' l :: mails => collector k (if k' = k then l else listener) mails
  | .event _ :: mails => collector k listener mails
  | .collect :: _ => listener

/-- The events of a kind, each with the listener of the next collection. -/
def reported (kind : Event → Kind) (k : Kind) (listener : Option Listener) :
    List (Mail Event Kind Listener) → List (Listener × Event)
  | [] => []
  | .register k' l :: mails => reported kind k (if k' = k then l else listener) mails
  | .event e :: mails =>
      calling (collector k listener mails) (if kind e = k then [e] else []) ++
        reported kind k listener mails
  | .collect :: mails => reported kind k listener mails

/-- The events that have happened. -/
def happened : List (Mail Event Kind Listener) → List Event
  | [] => []
  | .event e :: mails => e :: happened mails
  | .register .. :: mails | .collect :: mails => happened mails

/-- No event is reported twice, or out of order. -/
theorem reported_sublist (kind : Event → Kind) (k : Kind) (listener : Option Listener)
    (mails : List (Mail Event Kind Listener)) :
    ((reported kind k listener mails).map Prod.snd).Sublist
      ((happened mails).filter fun e => kind e = k) := by
  induction mails generalizing listener with
  | nil => exact .slnil
  | cons mail mails ih =>
    cases mail with
    | register k' l => exact ih _
    | collect => exact ih _
    | event e =>
      rw [reported, happened]
      by_cases hk : kind e = k
      · rw [if_pos hk, List.filter_cons_of_pos (by simpa using hk)]
        cases collector k listener mails with
        | none => exact (ih listener).cons e
        | some l => exact (ih listener).cons_cons e
      · rw [if_neg hk, List.filter_cons_of_neg (by simpa using hk), calling_nil]
        exact ih listener

omit [DecidableEq Kind] in
@[simp] theorem happened_append (mails mails' : List (Mail Event Kind Listener)) :
    happened (mails ++ mails') = happened mails ++ happened mails' := by
  induction mails with
  | nil => rfl
  | cons mail mails ih =>
    cases mail with
    | register | collect => exact ih
    | event e => exact congrArg (e :: ·) ih

omit [DecidableEq Kind] in
theorem happened_map_event (events : List Event) :
    happened (events.map fun e => (.event e : Mail Event Kind Listener)) = events := by
  induction events with
  | nil => rfl
  | cons e events ih => exact congrArg (e :: ·) ih

omit [DecidableEq Kind] in
theorem happened_map_register (keys : List Kind) (listener : Option Listener) :
    happened (keys.map fun k => (.register k listener : Mail Event Kind Listener)) = [] := by
  induction keys with
  | nil => rfl
  | cons k keys ih => exact ih

section

variable {Event' : Type}

/-- The same happens to two mailboxes, up to the form of the events. -/
inductive Mail.Alike (R : Event → Event' → Prop) :
    Mail Event Kind Listener → Mail Event' Kind Listener → Prop where
  | register (k : Kind) (listener : Option Listener) :
      Alike R (.register k listener) (.register k listener)
  | event {e : Event} {e' : Event'} (h : R e e') : Alike R (.event e) (.event e')
  | collect : Alike R .collect .collect

variable {R : Event → Event' → Prop} {mails : List (Mail Event Kind Listener)}
  {mails' : List (Mail Event' Kind Listener)}

theorem collector_alike (h : List.Forall₂ (Mail.Alike R) mails mails') (k : Kind)
    (listener : Option Listener) : collector k listener mails = collector k listener mails' := by
  induction h generalizing listener with
  | nil => rfl
  | cons hmail _ ih =>
    cases hmail with
    | register | event => exact ih _
    | collect => rfl

/-- What is reported does not depend on the form of the events when that leaves their kind and the
    call that reports them alone. -/
theorem reported_alike {kind : Event → Kind} {kind' : Event' → Kind} {call : Event → Call}
    {call' : Event' → Call} (hR : ∀ e e', R e e' → kind' e' = kind e ∧ call' e' = call e)
    (h : List.Forall₂ (Mail.Alike R) mails mails') (k : Kind) (listener : Option Listener) :
    (reported kind' k listener mails').map (Prod.map id call') =
      (reported kind k listener mails).map (Prod.map id call) := by
  induction h generalizing listener with
  | nil => rfl
  | cons hmail hmails ih =>
    cases hmail with
    | register | collect => exact ih _
    | event he =>
      obtain ⟨hkind, hcall⟩ := hR _ _ he
      rw [reported, reported, List.map_append, List.map_append, ih, hkind,
        collector_alike hmails k listener]
      congr 1
      split
      · cases collector k listener _ with
        | none => rfl
        | some l => exact congrArg (fun c => [(l, c)]) hcall
      · rw [calling_nil, calling_nil]
        rfl

end

/-- A mailbox: what an empty box is, how an event is stored, how the events of a kind are reported,
    and in what order the kinds are gone through. -/
structure Mailbox (Event Kind Call Box : Type) where
  empty : Box
  add : Box → Event → Box
  calls : Box → Kind → List Call
  order : List Kind

/-- An event is reported under its kind, behind those that are in the box already. -/
structure Mailbox.Lawful (m : Mailbox Event Kind Call Box) (kind : Event → Kind)
    (call : Event → Call) (callKind : Call → Kind) : Prop where
  calls_empty : ∀ k, m.calls m.empty k = []
  calls_add : ∀ box e k,
    m.calls (m.add box e) k = m.calls box k ++ if kind e = k then [call e] else []
  callKind_of_mem : ∀ box k, ∀ c ∈ m.calls box k, callKind c = k
  order_nodup : m.order.Nodup
  mem_order : ∀ k, k ∈ m.order

/-- The box, the listeners, and what has been reported so far. -/
structure Mailbox.State (Kind Listener Call Box : Type) where
  box : Box
  listeners : Kind → Option Listener
  heard : List (Listener × Call)

namespace Mailbox

variable {m : Mailbox Event Kind Call Box} {kind : Event → Kind} {call : Event → Call}
  {callKind : Call → Kind}

/-- The calls of a collection. -/
def replay (m : Mailbox Event Kind Call Box) (listeners : Kind → Option Listener) (box : Box) :
    List (Listener × Call) :=
  m.order.flatMap fun k => calling (listeners k) (m.calls box k)

def step (m : Mailbox Event Kind Call Box) (s : State Kind Listener Call Box) :
    Mail Event Kind Listener → State Kind Listener Call Box
  | .register k l => { s with listeners := Function.update s.listeners k l }
  | .event e => { s with box := m.add s.box e }
  | .collect => { s with box := m.empty, heard := s.heard ++ m.replay s.listeners s.box }

theorem foldl_register (m : Mailbox Event Kind Call Box) (listener : Option Listener)
    (keys : List Kind) (s : State Kind Listener Call Box) :
    (keys.map fun k => .register k listener).foldl m.step s =
      { s with
        listeners := keys.foldl (fun listeners k => Function.update listeners k listener)
          s.listeners } := by
  induction keys generalizing s with
  | nil => rfl
  | cons k keys ih => exact ih _

theorem foldl_event (m : Mailbox Event Kind Call Box) (events : List Event)
    (s : State Kind Listener Call Box) :
    (events.map .event).foldl m.step s = { s with box := events.foldl m.add s.box } := by
  induction events generalizing s with
  | nil => rfl
  | cons e events ih => exact ih _

/-- The part of a list that is put together from one list for each kind. -/
theorem filter_flatMap_kind {keys : List Kind} {f : Kind → List (Listener × Call)}
    (hnodup : keys.Nodup) (hf : ∀ k, ∀ c ∈ f k, callKind c.2 = k) (k : Kind) :
    (keys.flatMap f).filter (fun c => callKind c.2 = k) = if k ∈ keys then f k else [] := by
  induction keys with
  | nil => rfl
  | cons first keys ih =>
    obtain ⟨hfirst, hnodup⟩ := List.nodup_cons.mp hnodup
    rw [List.flatMap_cons, List.filter_append, ih hnodup]
    by_cases heq : first = k
    · subst heq
      have hall : (f first).filter (fun c => callKind c.2 = first) = f first :=
        List.filter_eq_self.mpr fun c hc => decide_eq_true (hf first c hc)
      rw [hall, if_neg hfirst, if_pos List.mem_cons_self, List.append_nil]
    · have hnone : (f first).filter (fun c => callKind c.2 = k) = [] :=
        List.filter_eq_nil_iff.mpr fun c hc hk =>
          heq ((hf first c hc).symm.trans (of_decide_eq_true hk))
      rw [hnone, List.nil_append]
      simp [Ne.symm heq]

/-- A collection tells the listener of a kind what is in the box. -/
theorem Lawful.filter_replay (h : m.Lawful kind call callKind)
    (listeners : Kind → Option Listener) (box : Box) (k : Kind) :
    (m.replay listeners box).filter (fun c => callKind c.2 = k) =
      calling (listeners k) (m.calls box k) := by
  have hf : ∀ k, ∀ c ∈ calling (listeners k) (m.calls box k), callKind c.2 = k := by
    intro k c hc
    cases hl : listeners k with
    | none =>
      rw [hl] at hc
      exact absurd hc List.not_mem_nil
    | some l =>
      rw [hl] at hc
      obtain ⟨c', hc', rfl⟩ := List.mem_map.mp hc
      exact h.callKind_of_mem box k c' hc'
  rw [replay, filter_flatMap_kind h.order_nodup hf, if_pos (h.mem_order k)]

theorem Lawful.mem_replay (h : m.Lawful kind call callKind) {listeners : Kind → Option Listener}
    {box : Box} {c : Listener × Call} : c ∈ m.replay listeners box ↔
      listeners (callKind c.2) = some c.1 ∧ c.2 ∈ m.calls box (callKind c.2) := by
  have hfilter : c ∈ (m.replay listeners box).filter (fun c' => callKind c'.2 = callKind c.2) ↔
      c ∈ m.replay listeners box := by
    simp
  rw [← hfilter, h.filter_replay]
  cases listeners (callKind c.2) with
  | none => simp [calling]
  | some l =>
    obtain ⟨l', call'⟩ := c
    simp [calling, and_comm, eq_comm]

/-- A relation between the calls of a kind holds between what a collection tells of it. -/
theorem Lawful.pairwise_replay (h : m.Lawful kind call callKind) {R : Call → Call → Prop}
    {box : Box} {k : Kind} (hR : (m.calls box k).Pairwise R) (listeners : Kind → Option Listener) :
    (m.replay listeners box).Pairwise fun c c' =>
      callKind c.2 = k → callKind c'.2 = k → R c.2 c'.2 := by
  have hfilter : ((m.replay listeners box).filter fun c => callKind c.2 = k).Pairwise
      fun c c' => R c.2 c'.2 := by
    rw [h.filter_replay]
    cases listeners k with
    | none => exact .nil
    | some l => exact List.pairwise_map.mpr hR
  rw [List.pairwise_filter] at hfilter
  refine hfilter.imp ?_
  intro c c' hboth hc hc'
  exact hboth (decide_eq_true hc) (decide_eq_true hc')

/-- What is heard of a kind: what was in the box, and then the events, each by the listener of the
    next collection. -/
theorem Lawful.heard_foldl (h : m.Lawful kind call callKind) (k : Kind)
    (mails : List (Mail Event Kind Listener)) (s : State Kind Listener Call Box) :
    (mails.foldl m.step s).heard.filter (fun c => callKind c.2 = k) =
      s.heard.filter (fun c => callKind c.2 = k) ++
        calling (collector k (s.listeners k) mails) (m.calls s.box k) ++
          (reported kind k (s.listeners k) mails).map (Prod.map id call) := by
  induction mails generalizing s with
  | nil => simp [collector, calling, reported]
  | cons mail mails ih =>
    rw [List.foldl_cons, ih]
    cases mail with
    | register k' l =>
      have hnow : (m.step s (.register k' l)).listeners k =
          if k' = k then l else s.listeners k := by
        by_cases heq : k' = k
        · rw [if_pos heq, heq]
          exact Function.update_self ..
        · rw [if_neg heq]
          exact Function.update_of_ne (Ne.symm heq) ..
      rw [hnow]
      rfl
    | event e =>
      simp only [step, collector, reported, h.calls_add, calling_append, List.map_append,
        List.append_assoc]
      congr 3
      by_cases hk : kind e = k
      · rw [if_pos hk, if_pos hk]
        cases collector k (s.listeners k) mails <;> rfl
      · rw [if_neg hk, if_neg hk, calling_nil, calling_nil]
        rfl
    | collect =>
      simp only [step, List.filter_append, h.filter_replay, h.calls_empty, calling_nil,
        List.append_nil, collector, reported]

/-- What the box holds of a kind after some more events. -/
theorem Lawful.calls_foldl_add (h : m.Lawful kind call callKind) (events : List Event) (box : Box)
    (k : Kind) : m.calls (events.foldl m.add box) k =
      m.calls box k ++ (events.filter fun e => kind e = k).map call := by
  induction events generalizing box with
  | nil => simp
  | cons e events ih =>
    rw [List.foldl_cons, ih, h.calls_add, List.append_assoc]
    by_cases hk : kind e = k
    · simp [hk]
    · simp [hk]

end Mailbox

end

end Tox4j.Misc
