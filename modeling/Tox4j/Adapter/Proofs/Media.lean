import Mathlib.Tactic
import Tox4j.Adapter.Media
import Tox4j.Adapter.Proofs.Calls

/-!
# When both sides are told what a call carries

The record of an invitation has empty settings, so the `call` event announces nothing. The state
a side is told comes from its call type, of which there are too few for a side that sends video
only, and which stays that of the default settings for a side that sends nothing.
-/

namespace Tox4j.Adapter

open Tox4j.Misc

/-- The call type says what a side sends when it sends audio, or when it sends nothing and the
    default settings have no call type. -/
theorem startedState_makeSettings (defaultSettings : AvCSettings) (a v : UInt32) :
    CB.startedState (makeSettings defaultSettings a v).callType = .ok (sendingState a v) ↔
      a ≠ 0 ∨ v = 0 ∧ defaultSettings.callType = .zero := by
  by_cases hv : v = 0
  · by_cases ha : a = 0
    · cases htype : defaultSettings.callType <;>
        simp [makeSettings, sendingState, ha, hv, htype, CB.startedState]
    · simp [makeSettings, sendingState, ha, hv, CB.startedState]
  · by_cases ha : a = 0
    · simp [makeSettings, sendingState, ha, hv, CB.startedState]
    · simp [makeSettings, sendingState, ha, hv, CB.startedState]

/-- Nothing that a call is started with is a state it has before. -/
theorem startedState_ne {callType : CallType} {state : CallState}
    (h : CB.startedState callType = .ok state) : state ≠ .ended ∧ state ≠ .ringing := by
  cases callType <;> cases h <;> decide

/-- The call of a friend, which is known under an index and has not started yet. -/
structure Waiting (av : NewToxAv) (callIdx : Int32) (f : UInt32) (call : AvCall) : Prop where
  entry : av.callToFriend[callIdx]? = some f
  record : av.friendToCall[f]? = some call
  waiting : call.state = .ended ∨ call.state = .ringing

namespace Waiting

variable {av : NewToxAv} {callIdx : Int32} {f : UInt32} {call : AvCall}

theorem addCall (call : AvCall) (hf : av.friendToCall[f]? = none)
    (hstate : call.state = .ended) : Waiting (av.addCall f call) call.index f call where
  entry := (lookup_insert _ _ _ _).trans (if_pos rfl)
  record := (lookup_insertIfNew hf _ _).trans (if_pos rfl)
  waiting := .inl hstate

theorem setCall (h : Waiting av callIdx f call) (call' : AvCall)
    (hstate : call'.state = .ended ∨ call'.state = .ringing) :
    Waiting (av.setCall f call') callIdx f call' where
  entry := h.entry
  record := (lookup_insert _ _ _ _).trans (if_pos rfl)
  waiting := hstate

/-- A call that has not started yet starts in the state of its call type. -/
theorem start_iff (h : Waiting av callIdx f call) (actions : List AvAction) :
    (∃ av', CB.callstateOnStart av callIdx = .ok (av', actions)) ↔
      ∃ state, CB.startedState call.settings.callType = .ok state ∧
        actions = [.prepareTransmission callIdx, .callStateEvent f state] := by
  constructor
  · intro hstart
    obtain ⟨av', hstart⟩ := hstart
    obtain ⟨state, hstate, _, hactions⟩ := callstateOnStart_inv h.entry h.record hstart
    exact ⟨state, hstate, hactions⟩
  · intro hex
    obtain ⟨state, hstate, rfl⟩ := hex
    have hne : call.state ≠ state := by
      rcases h.waiting with heq | heq
      · rw [heq]
        exact (startedState_ne hstate).1.symm
      · rw [heq]
        exact (startedState_ne hstate).2.symm
    exact ⟨_, callstateOnStart_ok h.entry h.record hstate hne⟩

end Waiting

namespace CallEnds

variable {ends : CallEnds}

/-- Up to the start, nothing fails: the invitation announces no media, and on each side a call
    with the settings of that side waits. -/
theorem Idle.place_eq (h : ends.Idle) (defaultSettings : AvCSettings) (rates : BitRates)
    (ringing : Bool) :
    ∃ caller callee call answered,
      Waiting caller ends.outgoing ends.peer call ∧
      call.settings = makeSettings defaultSettings rates.callAudio rates.callVideo ∧
      Waiting callee ends.incoming ends.self answered ∧
      answered.settings = makeSettings defaultSettings rates.answerAudio rates.answerVideo ∧
      ends.place defaultSettings rates ringing = (do
        let (_, callerStarted) ← CB.callstateOnStart caller ends.outgoing
        let (_, calleeStarted) ← CB.callstateOnStart callee ends.incoming
        return ⟨[.callEvent ends.self false false], callerStarted, calleeStarted⟩) := by
  have hcall := Waiting.addCall ⟨ends.outgoing,
    makeSettings defaultSettings rates.callAudio rates.callVideo, .ended, false, false⟩
    h.caller rfl
  have hinvited := Waiting.addCall { index := ends.incoming } h.callee rfl
  have hanswered := hinvited.setCall ⟨ends.incoming,
    makeSettings defaultSettings rates.answerAudio rates.answerVideo, .ended, false, false⟩
    (.inl rfl)
  cases ringing with
  | false =>
    refine ⟨_, _, _, _, hcall, rfl, hanswered, rfl, ?_⟩
    simp only [place, newToxavCall_ok defaultSettings _ _ _ h.caller, Checked.ok_bind,
      callstateOnInvite_ok h.incoming h.callee, newToxavAnswer_ok defaultSettings _ _
      hinvited.record, Bool.false_eq_true, if_false]
  | true =>
    have hringing := hcall.setCall ⟨ends.outgoing,
      makeSettings defaultSettings rates.callAudio rates.callVideo, .ringing, false, false⟩
      (.inr rfl)
    refine ⟨_, _, _, _, hringing, rfl, hanswered, rfl, ?_⟩
    simp only [place, newToxavCall_ok defaultSettings _ _ _ h.caller, Checked.ok_bind,
      callstateOnInvite_ok h.incoming h.callee, newToxavAnswer_ok defaultSettings _ _
      hinvited.record, callstateOnRinging_ok hcall.entry hcall.record, if_true]

/-- The reports, in terms of the call types of the two sides. -/
theorem Idle.agree_iff_started (h : ends.Idle) (defaultSettings : AvCSettings) (rates : BitRates)
    (ringing : Bool) :
    ends.Agree defaultSettings rates ringing ↔
      (rates.callAudio = 0 ∧ rates.callVideo = 0) ∧
      CB.startedState (makeSettings defaultSettings rates.callAudio rates.callVideo).callType =
        .ok (sendingState rates.callAudio rates.callVideo) ∧
      CB.startedState (makeSettings defaultSettings rates.answerAudio
        rates.answerVideo).callType =
        .ok (sendingState rates.answerAudio rates.answerVideo) := by
  obtain ⟨caller, callee, call, answered, hcaller, hcall, hcallee, hanswered, hplace⟩ :=
    h.place_eq defaultSettings rates ringing
  rw [← hcall, ← hanswered]
  constructor
  · intro hagree
    obtain ⟨reports, hreports, hright⟩ := hagree
    rw [hplace] at hreports
    obtain ⟨⟨caller', callerStarted⟩, hstart, hreports⟩ := Checked.bind_eq_ok.mp hreports
    obtain ⟨⟨callee', calleeStarted⟩, hstart', hreports⟩ := Checked.bind_eq_ok.mp hreports
    cases hreports
    obtain ⟨state, hstate, hstarted⟩ := (hcaller.start_iff _).mp ⟨_, hstart⟩
    obtain ⟨state', hstate', hstarted'⟩ := (hcallee.start_iff _).mp ⟨_, hstart'⟩
    have hinvited := hright.invited
    have hcallerStarted := hstarted.symm.trans hright.callerStarted
    have hcalleeStarted := hstarted'.symm.trans hright.calleeStarted
    simp only [List.cons.injEq, AvAction.callEvent.injEq, AvAction.callStateEvent.injEq, true_and,
      and_true] at hinvited hcallerStarted hcalleeStarted
    rw [hstate, hstate', hcallerStarted, hcalleeStarted]
    exact ⟨by simpa using hinvited, rfl, rfl⟩
  · intro hstates
    obtain ⟨⟨haudio, hvideo⟩, hstate, hstate'⟩ := hstates
    obtain ⟨caller', hstart⟩ := (hcaller.start_iff _).mpr ⟨_, hstate, rfl⟩
    obtain ⟨callee', hstart'⟩ := (hcallee.start_iff _).mpr ⟨_, hstate', rfl⟩
    refine ⟨⟨[.callEvent ends.self false false], _, _⟩, ?_, ⟨?_, rfl, rfl⟩⟩
    · rw [hplace, hstart, hstart']
      rfl
    · simp [haudio, hvideo]

end CallEnds

/-- Both sides are told what a call carries exactly when the caller sends nothing, the callee does
    not send video alone, and the default settings of the legacy library have call type 0. -/
theorem media_agree_iff {ends : CallEnds} (h : ends.Idle) (defaultSettings : AvCSettings)
    (rates : BitRates) (ringing : Bool) :
    ends.Agree defaultSettings rates ringing ↔
      (rates.callAudio = 0 ∧ rates.callVideo = 0) ∧
      (rates.answerAudio ≠ 0 ∨ rates.answerVideo = 0) ∧ defaultSettings.callType = .zero := by
  rw [h.agree_iff_started, startedState_makeSettings, startedState_makeSettings]
  tauto

/-- Two adapters without any calls. -/
theorem idle_empty : ({} : CallEnds).Idle where
  caller := by simp
  callee := by simp
  incoming := by simp

/-- Nothing is sent either way: what the sides are told is right when the default settings have no
    call type, and wrong when that is audio. -/
theorem media_agree_silent :
    ({} : CallEnds).Agree {} ⟨0, 0, 0, 0⟩ true ∧
      ¬ ({} : CallEnds).Agree { callType := .audio } ⟨0, 0, 0, 0⟩ true := by
  constructor
  · exact (media_agree_iff idle_empty {} ⟨0, 0, 0, 0⟩ true).mpr ⟨⟨rfl, rfl⟩, .inr rfl, rfl⟩
  · intro hagree
    have htype := ((media_agree_iff idle_empty _ ⟨0, 0, 0, 0⟩ true).mp hagree).2.2
    cases htype

/-- With audio as the default call type: a call with audio is announced as one without, a callee
    that sends video only is told that it sends both, and one that sends nothing that it sends
    audio. -/
theorem media_disagree :
    ¬ ({} : CallEnds).Agree { callType := .audio } ⟨48, 0, 48, 0⟩ true ∧
      ¬ ({} : CallEnds).Agree { callType := .audio } ⟨0, 0, 0, 500⟩ true ∧
      ¬ ({} : CallEnds).Agree { callType := .audio } ⟨0, 0, 0, 0⟩ true := by
  simp only [idle_empty.agree_iff_started]
  decide

end Tox4j.Adapter
