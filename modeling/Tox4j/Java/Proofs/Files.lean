import Mathlib.Tactic
import Tox4j.Adapter.Proofs.Completion
import Tox4j.Java.Files
import Tox4j.Java.Proofs.Sessions

/-!
# A run of two Java clients is one of two adapters

What the adapters have reported is what the listeners have been told, followed by what still waits
in `CoreEvents`, so what the clients do is allowed for the adapters. What holds of the files there
holds of what the listeners hear.
-/

namespace Tox4j.Java

open Tox4j.Adapter Tox4j.Misc

section

variable {Bytes : Type} {proto : Protobuf Bytes} {friend : Side → UInt32} {a s : Side}

/-- The requests that are left when a client answers. -/
def requestsLeft (requests : List Request) : Move → List Request
  | .answer request _ => requests.erase request
  | .send .. | .iterate | .resume _ | .deliver _ => requests

/-- The offers that are left when a client accepts one. -/
def offersLeft (offers : List UInt32) : Move → List UInt32
  | .resume fileNumber => offers.erase fileNumber
  | .send .. | .iterate | .answer .. | .deliver _ => offers

/-- What a system keeps of the events of a turn. -/
structure Reported (sys : System) (a : Side) (move : Move) (events : List Event)
    (sys' : System) : Prop where
  requests : sys'.requests = Function.update sys.requests a
    (requestsLeft (sys.requests a) move ++ events.filterMap Event.request)
  offers : sys'.offers = Function.update sys.offers a
    (offersLeft (sys.offers a) move ++ events.filterMap Event.offer)
  chunks : sys'.chunks = Function.update sys.chunks a
    (sys.chunks a ++ events.filterMap Event.chunk)

theorem reported_after {sys : System} {tox : Adapter.NewTox} {actions : List Action} {move : Move}
    (hrequests : requestsLeft (sys.requests a) move = sys.requests a)
    (hoffers : offersLeft (sys.offers a) move = sys.offers a) :
    Reported sys a move (actions.filterMap Action.event?) (sys.after a tox actions) where
  requests := by rw [hrequests]; rfl
  offers := by rw [hoffers]; rfl
  chunks := rfl

/-- A turn that succeeds reports events, and the system keeps what the client has to know. -/
theorem step_reports {sys sys' : System} {lg : Legacy} {move : Move}
    (hstep : sys.step friend (a, lg, move) = .ok sys') :
    ∃ events, reports friend sys (a, lg, move) = .ok events ∧
      Reported sys a move events sys' := by
  cases move with
  | send kind content filename cause =>
    simp only [System.step, Checked.bind_eq_ok, Checked.pure_eq_ok, Prod.exists] at hstep
    obtain ⟨err, num, tox, actions, hsend, rfl⟩ := hstep
    refine ⟨actions.filterMap Action.event?, ?_, ?_⟩
    · simp only [reports, hsend]
      rfl
    · have hafter : Reported sys a (.send kind content filename cause)
          (actions.filterMap Action.event?) (sys.after a tox actions) := reported_after rfl rfl
      split
      · exact ⟨hafter.requests, hafter.offers, hafter.chunks⟩
      · exact hafter
  | iterate =>
    obtain rfl := Except.ok.inj hstep
    exact ⟨_, rfl, reported_after rfl rfl⟩
  | answer request data =>
    simp only [System.step, Checked.bind_eq_ok, Checked.pure_eq_ok, Prod.exists] at hstep
    obtain ⟨err, tox, actions, hsend, rfl⟩ := hstep
    refine ⟨actions.filterMap Action.event?, ?_, ?_, rfl, rfl⟩
    · simp only [reports, hsend]
      rfl
    · simp [System.after, System.answered, requestsLeft]
  | resume fileNumber =>
    simp only [System.step, Checked.bind_eq_ok, Checked.pure_eq_ok, Prod.exists] at hstep
    obtain ⟨err, tox, actions, hsend, rfl⟩ := hstep
    refine ⟨actions.filterMap Action.event?, ?_, rfl, ?_, rfl⟩
    · simp only [reports, hsend]
      rfl
    · simp [System.after, System.resumed, offersLeft]
  | deliver cause =>
    simp only [System.step] at hstep
    cases hin : sys.inFlight a with
    | nil => simp [hin] at hstep
    | cons packet packets =>
      rw [hin] at hstep
      simp only [Checked.bind_eq_ok, Checked.pure_eq_ok, Prod.exists] at hstep
      obtain ⟨tox, actions, hrun, rfl⟩ := hstep
      refine ⟨actions.filterMap Action.event?, ?_, ?_⟩
      · simp only [reports, hin, hrun]
        rfl
      · exact ⟨rfl, rfl, rfl⟩

theorem toUInt32_injective : Function.Injective Int32.toUInt32 := by
  intro x y h
  simpa using congrArg UInt32.toInt32 h

theorem native_injective : Function.Injective ChunkRequest.native := by
  intro r r' h
  simp only [ChunkRequest.native, Request.mk.injEq] at h
  obtain ⟨hnumber, hposition, hlength⟩ := h
  have hposition : r.position = r'.position := by
    simpa using congrArg UInt64.toInt64 hposition
  have hlength : r.length.toUInt32 = r'.length.toUInt32 := by
    simpa using congrArg UInt64.toUInt32 hlength
  cases r
  cases r'
  simp only [ChunkRequest.mk.injEq]
  exact ⟨toUInt32_injective hnumber, hposition, toUInt32_injective hlength⟩

/-- The client is told of the request that the adapter has made. -/
theorem request_native {event : Event}
    (h : ∀ r, event.request = some r → r.length.toNat ≤ 65535) :
    (nativeEvent event).listenerCall.request.map ChunkRequest.native = event.request := by
  cases event with
  | fileRequestChunk f num position length =>
    simp only [Event.request] at h
    simp only [nativeEvent, NativeEvent.listenerCall, ListenerCall.request, Event.request]
    by_cases hzero : length = 0
    · simp [hzero]
    · rw [if_neg hzero] at h
      have hsmall := h _ rfl
      dsimp only at hsmall
      have hback : length.toUInt32.toUInt64 = length := by
        rw [← UInt64.toNat_inj]
        simp
        omega
      have hne : length.toUInt32.toInt32 ≠ 0 := by
        intro heq
        have heq := congrArg Int32.toUInt32 heq
        simp only [UInt32.toUInt32_toInt32] at heq
        rw [heq] at hback
        exact hzero hback.symm
      rw [if_neg hzero, if_neg hne]
      simp [ChunkRequest.native, hback]
  | _ => rfl

theorem offer_native (event : Event) :
    (nativeEvent event).listenerCall.offer.map Int32.toUInt32 = event.offer := by
  cases event with
  | fileReceive f num kind size name =>
    simp [nativeEvent, NativeEvent.listenerCall, ListenerCall.offer, Event.offer]
  | _ => rfl

/-- The adapter's view of a chunk. -/
def nativeChunk (chunk : Int32 × Int64 × List UInt8) : UInt32 × UInt64 × List UInt8 :=
  (chunk.1.toUInt32, chunk.2.1.toUInt64, chunk.2.2)

theorem chunk_native (event : Event) :
    (nativeEvent event).listenerCall.chunk.map nativeChunk = event.chunk := by
  cases event with
  | fileReceiveChunk f num position data =>
    simp [nativeEvent, NativeEvent.listenerCall, ListenerCall.chunk, Event.chunk, nativeChunk]
  | _ => rfl

/-- What the client is told of the requests in a batch. -/
theorem requests_native {events : List Event}
    (h : ∀ r ∈ events.filterMap Event.request, r.length.toNat ≤ 65535) :
    (((events.map nativeEvent).map NativeEvent.listenerCall).filterMap
      ListenerCall.request).map ChunkRequest.native = events.filterMap Event.request := by
  rw [List.map_map, List.filterMap_map, List.map_filterMap]
  refine List.filterMap_congr fun event hevent => ?_
  exact request_native fun r hr => h r (List.mem_filterMap.mpr ⟨event, hevent, hr⟩)

theorem offers_native (events : List Event) :
    (((events.map nativeEvent).map NativeEvent.listenerCall).filterMap
      ListenerCall.offer).map Int32.toUInt32 = events.filterMap Event.offer := by
  rw [List.map_map, List.filterMap_map, List.map_filterMap]
  exact List.filterMap_congr fun event _ => offer_native event

theorem chunks_native (events : List Event) :
    (((events.map nativeEvent).map NativeEvent.listenerCall).filterMap
      ListenerCall.chunk).map nativeChunk = events.filterMap Event.chunk := by
  rw [List.map_map, List.filterMap_map, List.map_filterMap]
  exact List.filterMap_congr fun event _ => chunk_native event

section

variable {β : Type} {p : ListenerCall → Option β} {k : EventKind}

/-- What waits of a kind after a batch of events. -/
theorem filterMap_calls_foldl (hp : ∀ call, call.kind ≠ k → p call = none) (events : CoreEvents)
    (batch : List NativeEvent) :
    ((batch.foldl CoreEvents.add events).calls k).filterMap p =
      (events.calls k).filterMap p ++ (batch.map NativeEvent.listenerCall).filterMap p := by
  rw [CoreEvents.foldl_add_calls, List.filterMap_append]
  congr 1
  induction batch with
  | nil => rfl
  | cons event batch ih =>
    by_cases hk : event.kind = k
    · rw [List.filter_cons_of_pos (by simpa using hk), List.map_cons, List.map_cons,
        List.filterMap_cons, List.filterMap_cons, ih]
    · have hnone : p event.listenerCall = none := hp _ (by rwa [listenerCall_kind])
      rw [List.filter_cons_of_neg (by simpa using hk), List.map_cons, List.filterMap_cons, hnone,
        ih]

/-- What a listener for everything is told of a kind. -/
theorem filterMap_replay (hp : ∀ call, call.kind ≠ k → p call = none) (events : CoreEvents) :
    (replayOrder.flatMap events.calls).filterMap p = (events.calls k).filterMap p := by
  have hother : ∀ k', k' ≠ k → (events.calls k').filterMap p = [] := by
    intro k' hk'
    refine List.filterMap_eq_nil_iff.mpr fun call hcall => hp call ?_
    rwa [calls_kind events k' call hcall]
  have hone : ∀ keys : List EventKind, keys.Nodup →
      (keys.flatMap events.calls).filterMap p =
        if k ∈ keys then (events.calls k).filterMap p else [] := by
    intro keys hnodup
    induction keys with
    | nil => rfl
    | cons first keys ih =>
      obtain ⟨hfirst, hnodup⟩ := List.nodup_cons.mp hnodup
      rw [List.flatMap_cons, List.filterMap_append, ih hnodup]
      by_cases heq : first = k
      · subst heq
        rw [if_neg hfirst, if_pos List.mem_cons_self, List.append_nil]
      · rw [hother first heq]
        simp [Ne.symm heq]
  rw [hone replayOrder replayOrder_nodup, if_pos (mem_replayOrder k)]

/-- What a client has been told of a kind, or will be told by the next `iteration`. -/
def toldOrWaiting (p : ListenerCall → Option β) (k : EventKind) (told : Side → List β)
    (events : Side → CoreEvents) (s : Side) : List β :=
  told s ++ ((events s).calls k).filterMap p

theorem toldOrWaiting_add (hp : ∀ call, call.kind ≠ k → p call = none) (told : Side → List β)
    (events : Side → CoreEvents) (batch : List NativeEvent) :
    toldOrWaiting p k told
        (Function.update events a (batch.foldl CoreEvents.add (events a))) =
      Function.update (toldOrWaiting p k told events) a
        (toldOrWaiting p k told events a ++ (batch.map NativeEvent.listenerCall).filterMap p) := by
  funext s
  by_cases hs : s = a
  · subst hs
    simp only [toldOrWaiting, Function.update_self, filterMap_calls_foldl hp, List.append_assoc]
  · simp only [toldOrWaiting, Function.update_of_ne hs]

theorem toldOrWaiting_replay (hp : ∀ call, call.kind ≠ k → p call = none)
    {told told' : Side → List β} (events : Side → CoreEvents) (batch : List NativeEvent)
    (htold : told' = Function.update told a (told a ++
      (replayOrder.flatMap (batch.foldl CoreEvents.add (events a)).calls).filterMap p)) :
    toldOrWaiting p k told' (Function.update events a {}) =
      Function.update (toldOrWaiting p k told events) a
        (toldOrWaiting p k told events a ++ (batch.map NativeEvent.listenerCall).filterMap p) := by
  funext s
  by_cases hs : s = a
  · subst hs
    simp only [toldOrWaiting, htold, Function.update_self, filterMap_replay hp,
      filterMap_calls_foldl hp, CoreEvents.empty_calls, List.filterMap_nil, List.append_nil,
      List.append_assoc]
  · simp only [toldOrWaiting, htold, Function.update_of_ne hs]

end

namespace JavaSystem

/-- The requests that a client still has to answer. -/
def allRequests (js : JavaSystem) : Side → List ChunkRequest :=
  toldOrWaiting ListenerCall.request .fileRequestChunk js.requests js.events

/-- The offers that a client still has to resume. -/
def allOffers (js : JavaSystem) : Side → List Int32 :=
  toldOrWaiting ListenerCall.offer .fileReceive js.offers js.events

/-- The chunks received. -/
def allChunks (js : JavaSystem) : Side → List (Int32 × Int64 × List UInt8) :=
  toldOrWaiting ListenerCall.chunk .fileReceiveChunk
    (fun s => (js.heard s).filterMap ListenerCall.chunk) js.events

end JavaSystem

theorem request_of_kind (call : ListenerCall) (h : call.kind ≠ .fileRequestChunk) :
    call.request = none := by
  cases call <;> first | rfl | exact absurd rfl h

theorem offer_of_kind (call : ListenerCall) (h : call.kind ≠ .fileReceive) :
    call.offer = none := by
  cases call <;> first | rfl | exact absurd rfl h

theorem chunk_of_kind (call : ListenerCall) (h : call.kind ≠ .fileReceiveChunk) :
    call.chunk = none := by
  cases call <;> first | rfl | exact absurd rfl h

/-- The two ways in which a turn ends. -/
theorem report_cases (h : proto.RoundTrips) (js : JavaSystem) (move : JavaMove)
    (reported : List Event) :
    ∃ js', js.report proto a move reported = .ok js' ∧
      (js' = { js with
          events := Function.update js.events a
            ((reported.map nativeEvent).foldl CoreEvents.add (js.events a)) } ∨
        js' = JavaSystem.told { js with events := Function.update js.events a {} } a
          (replayOrder.flatMap
            ((reported.map nativeEvent).foldl CoreEvents.add (js.events a)).calls)) := by
  cases move with
  | iteration =>
    have hiteration : Java.iteration proto (fun _ => true) (js.events a)
        (reported.map nativeEvent) = (.ok (replayOrder.flatMap
          ((reported.map nativeEvent).foldl CoreEvents.add (js.events a)).calls), {}) := by
      simp [Java.iteration, toxIteration, h _]
    refine ⟨_, ?_, .inr rfl⟩
    rw [JavaSystem.report, hiteration]
    rfl
  | _ => exact ⟨_, rfl, .inl rfl⟩

/-- However a turn ends, the client is told what it reports, now or later. -/
theorem report_all (h : proto.RoundTrips) {js js' : JavaSystem} {move : JavaMove}
    {reported : List Event} (hreport : js.report proto a move reported = .ok js') :
    js'.sys = js.sys ∧
      js'.allRequests = Function.update js.allRequests a (js.allRequests a ++
        ((reported.map nativeEvent).map NativeEvent.listenerCall).filterMap
          ListenerCall.request) ∧
      js'.allOffers = Function.update js.allOffers a (js.allOffers a ++
        ((reported.map nativeEvent).map NativeEvent.listenerCall).filterMap
          ListenerCall.offer) ∧
      js'.allChunks = Function.update js.allChunks a (js.allChunks a ++
        ((reported.map nativeEvent).map NativeEvent.listenerCall).filterMap
          ListenerCall.chunk) := by
  obtain ⟨js'', hok, hends⟩ := report_cases (a := a) h js move reported
  obtain rfl := Except.ok.inj (hreport.symm.trans hok)
  rcases hends with rfl | rfl
  · exact ⟨rfl, toldOrWaiting_add request_of_kind _ _ _, toldOrWaiting_add offer_of_kind _ _ _,
      toldOrWaiting_add chunk_of_kind _ _ _⟩
  · refine ⟨rfl, toldOrWaiting_replay request_of_kind _ _ rfl,
      toldOrWaiting_replay offer_of_kind _ _ rfl, toldOrWaiting_replay chunk_of_kind _ _ ?_⟩
    funext s
    by_cases hs : s = a
    · subst hs
      simp only [JavaSystem.told, Function.update_self, List.filterMap_append]
    · simp only [JavaSystem.told, Function.update_of_ne hs]

end

end Tox4j.Java
