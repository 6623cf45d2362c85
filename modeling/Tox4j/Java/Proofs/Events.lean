import Mathlib.Tactic
import Tox4j.Java.Events

/-!
# The order in which listeners are called

The lists of `CoreEvents` are the batch regrouped by kind, so the listeners see the events of a
friend in order exactly when these were in the order of `replayOrder` to begin with.
-/

namespace Tox4j.Java

open Tox4j.Adapter Tox4j.Misc

theorem mem_replayOrder (kind : EventKind) : kind ∈ replayOrder := by
  cases kind <;> decide

theorem replayOrder_nodup : replayOrder.Nodup := by decide

/-- A callback adds to the list of its kind, and to no other. -/
theorem CoreEvents.add_calls (events : CoreEvents) (event : NativeEvent) (kind : EventKind) :
    (events.add event).calls kind =
      events.calls kind ++ if event.kind = kind then [event.listenerCall] else [] := by
  cases event <;> cases kind <;> simp [CoreEvents.add, CoreEvents.calls, NativeEvent.kind,
    NativeEvent.listenerCall]

theorem CoreEvents.foldl_add_calls (events : CoreEvents) (batch : List NativeEvent)
    (kind : EventKind) :
    (batch.foldl CoreEvents.add events).calls kind =
      events.calls kind ++ (batch.filter fun e => e.kind = kind).map NativeEvent.listenerCall := by
  induction batch generalizing events with
  | nil => simp
  | cons event batch ih =>
    rw [List.foldl_cons, ih, CoreEvents.add_calls, List.append_assoc]
    by_cases h : event.kind = kind
    · simp [h]
    · simp [h]

theorem CoreEvents.empty_calls (kind : EventKind) : ({} : CoreEvents).calls kind = [] := by
  cases kind <;> rfl

/-- The calls of one iteration, with all callbacks registered. -/
theorem iteration_calls {Bytes : Type} {proto : Protobuf Bytes} (h : proto.RoundTrips)
    (batch : List NativeEvent) :
    (iteration proto (fun _ => true) {} batch).1 =
      .ok ((regroup replayOrder NativeEvent.kind batch).map NativeEvent.listenerCall) := by
  have hcalls : (replayOrder.flatMap fun kind => (batch.foldl CoreEvents.add {}).calls kind) =
      (regroup replayOrder NativeEvent.kind batch).map NativeEvent.listenerCall := by
    unfold regroup
    rw [List.map_flatMap]
    congr 1
    funext kind
    rw [CoreEvents.foldl_add_calls, CoreEvents.empty_calls, List.nil_append]
  simp [iteration, toxIteration, h _, hcalls]

/-- Whatever is registered, an iteration leaves no events for the next one. -/
theorem iteration_clears {Bytes : Type} (proto : Protobuf Bytes)
    (registered : EventKind → Bool) (events : CoreEvents) (batch : List NativeEvent) :
    (iteration proto registered events batch).2 = {} := by
  unfold iteration toxIteration
  dsimp only
  split <;> rfl

theorem listenerCall_friend (event : NativeEvent) (f : UInt32) :
    event.listenerCall.friend = some f.toInt32 ↔ event.friend = some f := by
  have hinj : ∀ g : UInt32, g.toInt32 = f.toInt32 ↔ g = f := by
    intro g
    constructor
    · intro h
      simpa using congrArg Int32.toUInt32 h
    · exact congrArg _
  cases event <;> simp [NativeEvent.listenerCall, NativeEvent.friend, ListenerCall.friend, hinj]

theorem listenerCall_kind (event : NativeEvent) : event.listenerCall.kind = event.kind := by
  cases event <;> rfl

theorem grouped_map_listenerCall (l : List NativeEvent) :
    Grouped replayOrder ListenerCall.kind (l.map NativeEvent.listenerCall) ↔
      Grouped replayOrder NativeEvent.kind l := by
  simp only [Grouped, List.pairwise_map, listenerCall_kind]

theorem filter_friend_map_listenerCall (l : List NativeEvent) (f : UInt32) :
    (l.map NativeEvent.listenerCall).filter (fun call => call.friend = some f.toInt32) =
      (l.filter fun event => event.friend = some f).map NativeEvent.listenerCall := by
  rw [List.filter_map]
  congr 2
  funext event
  exact decide_eq_decide.mpr (listenerCall_friend event f)

theorem seenInOrder_iff (batch : List NativeEvent) :
    SeenInOrder batch ((regroup replayOrder NativeEvent.kind batch).map
      NativeEvent.listenerCall) ↔ InReplayOrder batch := by
  refine forall_congr' fun f => ?_
  rw [filter_friend_map_listenerCall, filter_regroup, map_regroup listenerCall_kind,
    regroup_eq_self_iff replayOrder_nodup (fun call _ => mem_replayOrder call.kind),
    grouped_map_listenerCall]

/-- Listeners see each friend's events in order exactly for the batches in which they came in
    the order of the sixteen loops. -/
theorem delivers_in_order_iff {Bytes : Type} (proto : Protobuf Bytes) (h : proto.RoundTrips)
    (batch : List NativeEvent) : DeliversInOrder proto batch ↔ InReplayOrder batch := by
  unfold DeliversInOrder
  rw [iteration_calls h, ← seenInOrder_iff]
  constructor
  · intro hcalls
    obtain ⟨calls, hok, hseen⟩ := hcalls
    cases hok
    exact hseen
  · intro hseen
    exact ⟨_, rfl, hseen⟩

/-- A protobuf whose byte arrays are the messages themselves. -/
def plainProtobuf : Protobuf CoreEvents where
  serializeToArray := id
  parseFrom := some

/-- A name change that is followed by a message. -/
theorem delivers_name_then_message :
    plainProtobuf.RoundTrips ∧
      DeliversInOrder plainProtobuf [.friendName 0 [0x61], .friendMessage 0 [0x62]] := by
  refine ⟨fun _ => rfl, ?_⟩
  refine (delivers_in_order_iff plainProtobuf (fun _ => rfl) _).mpr ?_
  intro f
  refine List.Pairwise.filter _ ?_
  decide

/-- The friend's file 0x100 ends, and the friend offers a new file under the number. -/
def numberReused : List NativeEvent :=
  [.fileReceiveChunk 0 0x100 1 [], .fileReceive 0 0x100 .data 5 [0x61]]

/-- A message arrives, and the friend goes offline. -/
def goneOffline : List NativeEvent :=
  [.friendMessage 0 [0x61], .friendConnectionStatus 0 .none]

/-- The new file is announced before the old one ends, and the friend is reported offline before
    the message. -/
theorem events_swapped :
    (∀ batch ∈ [numberReused, goneOffline], ¬ DeliversInOrder plainProtobuf batch) ∧
      (iteration plainProtobuf (fun _ => true) {} numberReused).1 = .ok
        [.fileReceive 0 0x100 .data 5 [0x61], .fileReceiveChunk 0 0x100 1 []] ∧
      (iteration plainProtobuf (fun _ => true) {} goneOffline).1 = .ok
        [.friendConnectionStatus 0 .none, .friendMessage 0 0 [0x61]] := by
  have hreused : (iteration plainProtobuf (fun _ => true) {} numberReused).1 = .ok
      [.fileReceive 0 0x100 .data 5 [0x61], .fileReceiveChunk 0 0x100 1 []] := by rfl
  have hoffline : (iteration plainProtobuf (fun _ => true) {} goneOffline).1 = .ok
      [.friendConnectionStatus 0 .none, .friendMessage 0 0 [0x61]] := by rfl
  refine ⟨?_, hreused, hoffline⟩
  intro batch hbatch hdelivers
  obtain ⟨calls, hok, hseen⟩ := hdelivers
  have hzero := hseen 0
  rcases List.mem_pair.mp hbatch with hbatch | hbatch
  · subst hbatch
    rw [hreused] at hok
    cases hok
    revert hzero
    decide
  · subst hbatch
    rw [hoffline] at hok
    cases hok
    revert hzero
    decide

end Tox4j.Java
