import Mathlib.Tactic
import Tox4j.Adapter.Log
import Tox4j.Adapter.Proofs.Calls

/-!
# What a call that returns has done

A call of the A/V API, or a callback, fails an assertion or does one of a few things to the tables.
-/

namespace Tox4j.Adapter

open Tox4j.Misc

/-- What a call that returns has done to the tables, and what went out. -/
inductive AvApiCall.Returns (av : NewToxAv) : AvApiCall → NewToxAv → List AvOutput → Prop where
  | called {f a v : UInt32} {callIndex : Int32} {settings : AvCSettings}
      (hf : av.friendToCall[f]? = none) :
      Returns av (.call f a v 0 callIndex) (av.addCall f { index := callIndex, settings })
        [.action (.call f settings)]
  | invited {callIdx : Int32} {peerId : UInt32} {audio video : Bool} :
      Returns av (.callback (.invite callIdx peerId)) (av.addCall peerId { index := callIdx })
        [.action (.callEvent peerId audio video)]
  | notCalling {f a v : UInt32} {result : Int32} (hf : av.friendToCall[f]? = none) :
      Returns av (.answer f a v result) av []
  | answered {f a v : UInt32} {settings : AvCSettings} {record : AvCall}
      (hrecord : av.friendToCall[f]? = some record) :
      Returns av (.answer f a v 0) (av.setCall f { record with settings })
        [.action (.answer record.index settings)]
  | rang {callIdx : Int32} {f : UInt32} {record : AvCall}
      (hrecord : av.friendToCall[f]? = some record) :
      Returns av (.callback (.ringing callIdx)) (av.setCall f { record with state := .ringing })
        [.action (.callStateEvent f .ringing)]
  | started {callIdx : Int32} {f : UInt32} {record : AvCall} {state : CallState}
      (hrecord : av.friendToCall[f]? = some record) :
      Returns av (.callback (.start callIdx)) (av.setCall f { record with state })
        [.action (.prepareTransmission callIdx), .action (.callStateEvent f state)]
  | received {callIdx : Int32} {f : UInt32} {pcm : List Int16} {peerSettings : AvCSettings}
      {sampleCount : UInt64} {channels : UInt8} {samplingRate : UInt32} :
      Returns av (.callback (.audio callIdx pcm peerSettings)) av
        [.receiveAudioFrame f pcm sampleCount channels samplingRate]
  | asked : Returns av .afterToxavDo (Adapter.afterToxavDo av).1 (Adapter.afterToxavDo av).2
  | sentAudio {f : UInt32} {frame : AudioFrame} {record : AvCall} {data : List UInt8}
      (hrecord : av.friendToCall[f]? = some record) :
      Returns av (.sendAudioFrame f frame)
        (av.setCall f { record with audioEventPending := false }) [.sendAudio record.index data]

theorem avOutputs_eq_ok {x : Checked (NewToxAv × List AvAction)} {av : NewToxAv}
    {outputs : List AvOutput} (h : avOutputs x = .ok (av, outputs)) :
    ∃ actions, x = .ok (av, actions) ∧ outputs = actions.map .action := by
  simp only [avOutputs, Checked.bind_eq_ok, Checked.pure_eq_ok, Prod.exists, Prod.mk.injEq] at h
  obtain ⟨_, actions, hx, rfl, rfl⟩ := h
  exact ⟨actions, hx, rfl⟩

section

variable {av av' : NewToxAv} {outputs : List AvOutput}

theorem AvCallback.run_returns {cb : AvCallback} (hrun : cb.run av = .ok (av', outputs)) :
    (AvApiCall.callback cb).Returns av av' outputs := by
  cases cb with
  | invite callIdx peerId =>
    obtain ⟨actions, hinvite, rfl⟩ := avOutputs_eq_ok hrun
    simp only [CB.callstateOnInvite, Checked.bind_eq_ok, Checked.pure_eq_ok, Prod.exists,
      Prod.mk.injEq] at hinvite
    obtain ⟨_, -, call, -, _, _, -, rfl, rfl⟩ := hinvite
    exact .invited
  | ringing callIdx =>
    obtain ⟨actions, hringing, rfl⟩ := avOutputs_eq_ok hrun
    simp only [CB.callstateOnRinging, Checked.bind_eq_ok, Checked.pure_eq_ok, getCall_eq_ok,
      Prod.mk.injEq] at hringing
    obtain ⟨f, -, call, hcall, rfl, rfl⟩ := hringing
    exact .rang hcall
  | start callIdx =>
    obtain ⟨actions, hstart, rfl⟩ := avOutputs_eq_ok hrun
    simp only [CB.callstateOnStart, Checked.bind_eq_ok, Checked.pure_eq_ok, getCall_eq_ok,
      Prod.mk.injEq] at hstart
    obtain ⟨f, -, call, hcall, state, -, _, -, rfl, rfl⟩ := hstart
    exact .started hcall
  | ended how callIdx =>
    obtain ⟨actions, hended, -⟩ := avOutputs_eq_ok hrun
    cases how <;> cases hended
  | peerCSChange callIdx | selfCSChange callIdx | video callIdx =>
    obtain ⟨actions, hended, -⟩ := avOutputs_eq_ok hrun
    cases hended
  | audio callIdx pcm peerSettings =>
    simp only [AvCallback.run, CB.audio, Checked.bind_eq_ok, Checked.pure_eq_ok, Prod.mk.injEq]
      at hrun
    obtain ⟨f, -, call, -, rfl, rfl⟩ := hrun
    exact .received

theorem AvApiCall.run_returns {defaultSettings : AvCSettings} {lg : Toxav} {call : AvApiCall}
    (hrun : call.run defaultSettings lg av = .ok (av', outputs)) :
    call.Returns av av' outputs := by
  cases call with
  | call f a v result callIndex =>
    simp only [run, newToxavCall, Checked.bind_eq_ok, Checked.assert_eq_ok, Checked.pure_eq_ok,
      Prod.exists, Prod.mk.injEq, decide_eq_true_eq, Option.isNone_iff_eq_none] at hrun
    obtain ⟨_, mid, actions, ⟨_, hf, _, rfl, -, rfl, rfl⟩, rfl, rfl⟩ := hrun
    exact .called hf
  | answer f a v result =>
    simp only [run, Checked.bind_eq_ok, Checked.pure_eq_ok, Prod.exists, Prod.mk.injEq] at hrun
    obtain ⟨_, mid, actions, hanswer, rfl, rfl⟩ := hrun
    unfold newToxavAnswer at hanswer
    split at hanswer
    · next hf =>
      cases hanswer
      exact .notCalling hf
    · next record hrecord =>
      simp only [Checked.bind_eq_ok, Checked.assert_eq_ok, Checked.pure_eq_ok, Prod.mk.injEq,
        decide_eq_true_eq] at hanswer
      obtain ⟨_, rfl, -, rfl, rfl⟩ := hanswer
      exact .answered hrecord
  | callback cb => exact AvCallback.run_returns hrun
  | afterToxavDo =>
    cases hrun
    exact .asked
  | sendAudioFrame f frame =>
    simp only [run, newToxavSendAudioFrame, Checked.bind_eq_ok, Checked.pure_eq_ok, getCall_eq_ok,
      Prod.exists, Prod.mk.injEq] at hrun
    obtain ⟨_, _, _, ⟨record, hrecord, _, -, _, -, _, -, _, -, _, -, -, rfl, rfl⟩, rfl, rfl⟩ := hrun
    exact .sentAudio hrecord
  | sendVideoFrame f =>
    simp only [run, newToxavSendVideoFrame, Checked.bind_eq_ok] at hrun
    obtain ⟨_, heq, -⟩ := hrun
    cases heq

end

end Tox4j.Adapter
