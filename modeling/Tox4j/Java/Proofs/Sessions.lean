import Tox4j.Java.Proofs.Events
import Tox4j.Java.Sessions

/-!
# What the listeners of a `ToxCoreImpl` hear

An object does what a mailbox does, so each event reaches, once and in order, the listener that is
registered for its kind at the next `iteration`.
-/

namespace Tox4j.Java

open Tox4j.Misc

section

variable {Listener Bytes : Type} {proto : Protobuf Bytes}

theorem calls_kind (events : CoreEvents) (kind : EventKind) :
    ∀ call ∈ events.calls kind, call.kind = kind := by
  intro call hcall
  cases kind <;>
  · obtain ⟨_, _, rfl⟩ := List.mem_map.mp hcall
    rfl

theorem coreMailbox_lawful :
    coreMailbox.Lawful NativeEvent.kind NativeEvent.listenerCall ListenerCall.kind where
  calls_empty := CoreEvents.empty_calls
  calls_add := CoreEvents.add_calls
  callKind_of_mem := calls_kind
  order_nodup := replayOrder_nodup
  mem_order := mem_replayOrder

/-- The calls of one loop go to the callback of its kind. -/
theorem filterMap_calls (callbacks : EventKind → Option Listener) (events : CoreEvents)
    (kind : EventKind) :
    ((if (callbacks kind).isSome then events.calls kind else []).filterMap fun call =>
      (callbacks call.kind).map fun listener => (listener, call)) =
      calling (callbacks kind) (events.calls kind) := by
  cases hl : callbacks kind with
  | none => rfl
  | some l =>
    rw [Option.isSome_some, if_pos rfl, calling, ← List.filterMap_eq_map]
    refine List.filterMap_congr fun call hcall => ?_
    rw [calls_kind events kind call hcall, hl]
    rfl

/-- An iteration tells the listeners what is in the mailbox. -/
theorem step_iteration (h : proto.RoundTrips) (s : CoreSession Listener)
    (batch : List NativeEvent) : s.step proto (.iteration batch) = .ok { s with
      events := {}
      heard := s.heard ++
        coreMailbox.replay s.callbacks (batch.foldl CoreEvents.add s.events) } := by
  have hiteration : iteration proto (fun kind => (s.callbacks kind).isSome) s.events batch =
      (.ok (replayOrder.flatMap fun kind => if (s.callbacks kind).isSome then
        (batch.foldl CoreEvents.add s.events).calls kind else []), {}) := by
    simp [iteration, toxIteration, h _]
  have hheard : ((replayOrder.flatMap fun kind => if (s.callbacks kind).isSome then
      (batch.foldl CoreEvents.add s.events).calls kind else []).filterMap fun call =>
        (s.callbacks call.kind).map fun listener => (listener, call)) =
      coreMailbox.replay s.callbacks (batch.foldl CoreEvents.add s.events) := by
    rw [List.filterMap_flatMap]
    exact List.flatMap_congr fun kind _ => filterMap_calls s.callbacks _ kind
  rw [CoreSession.step, hiteration, ← hheard]
  rfl

/-- Whatever happens to an object happens to its mailbox. -/
theorem step_mailbox (h : proto.RoundTrips) (s : CoreSession Listener) (call : CoreCall Listener) :
    ∃ s', s.step proto call = .ok s' ∧
      s'.mailbox = call.mails.foldl coreMailbox.step s.mailbox := by
  cases call with
  | setCallback kind listener => exact ⟨_, rfl, rfl⟩
  | callback handler =>
    exact ⟨_, rfl, (coreMailbox.foldl_register handler handlerOrder s.mailbox).symm⟩
  | event event => exact ⟨_, rfl, rfl⟩
  | iteration batch =>
    refine ⟨_, step_iteration h s batch, ?_⟩
    rw [CoreCall.mails, List.foldl_append, Mailbox.foldl_event]
    rfl

theorem run_mailbox (h : proto.RoundTrips) (calls : List (CoreCall Listener))
    (s : CoreSession Listener) :
    ∃ s', s.run proto calls = .ok s' ∧
      s'.mailbox = (calls.flatMap CoreCall.mails).foldl coreMailbox.step s.mailbox := by
  induction calls generalizing s with
  | nil => exact ⟨s, rfl, rfl⟩
  | cons call calls ih =>
    obtain ⟨s₁, hstep, hmail⟩ := step_mailbox h s call
    obtain ⟨s', hrun, hmails⟩ := ih s₁
    refine ⟨s', ?_, ?_⟩
    · rw [CoreSession.run, List.foldlM_cons, hstep]
      exact hrun
    · rw [hmails, hmail, List.flatMap_cons, List.foldl_append]

end

/-- The events that happen to an object. -/
def CoreCall.events {Listener : Type} (calls : List (CoreCall Listener)) : List NativeEvent :=
  happened (calls.flatMap CoreCall.mails)

/-- What is heard of a kind are events of the kind, in order, and none of them twice. -/
theorem heardOf_sublist {Listener : Type} (kind : EventKind) (calls : List (CoreCall Listener)) :
    ((heardOf kind calls).map Prod.snd).Sublist
      (((CoreCall.events calls).filter fun event => event.kind = kind).map
        NativeEvent.listenerCall) := by
  have hsublist := reported_sublist NativeEvent.kind kind none (calls.flatMap CoreCall.mails)
  have hmap : (heardOf kind calls).map Prod.snd =
      ((reported NativeEvent.kind kind none (calls.flatMap CoreCall.mails)).map Prod.snd).map
        NativeEvent.listenerCall := by
    rw [heardOf, List.map_map, List.map_map]
    rfl
  rw [hmap]
  exact hsublist.map _

/-- However callbacks are set and iterations are called, an object goes on working, and for each
    kind its events are told in order and at most once, each to the listener that is registered
    when `iteration` is called next. -/
theorem listeners_hear {Listener Bytes : Type} (proto : Protobuf Bytes) (h : proto.RoundTrips)
    (calls : List (CoreCall Listener)) :
    ∃ s, CoreSession.run proto {} calls = .ok s ∧ ∀ kind,
      s.heard.filter (fun call => call.2.kind = kind) = heardOf kind calls ∧
        ((heardOf kind calls).map Prod.snd).Sublist
          (((CoreCall.events calls).filter fun event => event.kind = kind).map
            NativeEvent.listenerCall) := by
  obtain ⟨s, hrun, hmail⟩ := run_mailbox h calls {}
  refine ⟨s, hrun, fun kind => ⟨?_, heardOf_sublist kind calls⟩⟩
  have hheard := coreMailbox_lawful.heard_foldl kind (calls.flatMap CoreCall.mails)
    (CoreSession.mailbox {})
  rw [← hmail] at hheard
  have hempty : coreMailbox.calls ({} : CoreSession Listener).mailbox.box kind = [] :=
    coreMailbox_lawful.calls_empty kind
  rw [hempty, calling_nil, List.append_nil] at hheard
  exact hheard

/-- A listener for messages is replaced after the first iteration; nobody listens to names. -/
def listenerReplaced : List (CoreCall ℕ) :=
  [.setCallback .friendMessage (some 1), .iteration [.friendMessage 0 [0x61], .friendName 0 []],
    .event (.friendMessage 0 [0x62]), .setCallback .friendMessage (some 2),
    .iteration [.friendMessage 0 [0x63]], .event (.friendMessage 0 [0x64])]

theorem listeners_hear_listenerReplaced :
    heardOf .friendMessage listenerReplaced = [(1, .friendMessage 0 0 [0x61]),
      (2, .friendMessage 0 0 [0x62]), (2, .friendMessage 0 0 [0x63])] ∧
      ∃ s, CoreSession.run plainProtobuf {} listenerReplaced = .ok s ∧
        s.heard.filter (fun call => call.2.kind = .friendMessage) =
          heardOf .friendMessage listenerReplaced := by
  refine ⟨by rfl, ?_⟩
  obtain ⟨s, hrun, hheard⟩ := listeners_hear plainProtobuf (fun _ => rfl) listenerReplaced
  exact ⟨s, hrun, (hheard .friendMessage).1⟩

end Tox4j.Java
