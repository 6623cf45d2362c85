import Tox4j.Adapter.Frames
import Tox4j.Adapter.Proofs.AvSteps

/-!
# Which frames are requested

The switch of `new_toxav_iteration` falls through from video to audio, and the `break` that keeps a
call that sends video only from being asked for audio stands where video has just been asked for.
So such a call is asked for audio in the next iteration, while the video frame is still pending.
-/

namespace Tox4j.Adapter

open Tox4j.Misc

/-- The call sends video only, and the switch gets to the case for audio. -/
def AvCall.FallsThrough (call : AvCall) : Prop :=
  call.state = .sendingV ∧ call.videoEventPending = true ∧ call.audioEventPending = false

section

variable {f f' : UInt32} {call : AvCall}

theorem audio_mem_requestFrames :
    .requestAudioFrame f' ∈ (requestFrames f call).2 ↔
      f' = f ∧ (call.WantsAudio ∨ call.FallsThrough) := by
  obtain ⟨index, settings, state, audio, video⟩ := call
  cases state <;> cases audio <;> cases video <;>
    simp [requestFrames, requestAudioFrame, AvCall.WantsAudio, AvCall.FallsThrough]

theorem video_mem_requestFrames :
    .requestVideoFrame f' ∈ (requestFrames f call).2 ↔ f' = f ∧ call.WantsVideo := by
  obtain ⟨index, settings, state, audio, video⟩ := call
  cases state <;> cases audio <;> cases video <;>
    simp [requestFrames, requestAudioFrame, AvCall.WantsVideo]

/-- A call is asked for nothing but its frames. -/
theorem mem_requestFrames {output : AvOutput} (h : output ∈ (requestFrames f call).2) :
    output = .requestAudioFrame f ∨ output = .requestVideoFrame f := by
  obtain ⟨index, settings, state, audio, video⟩ := call
  cases state <;> cases audio <;> cases video <;>
    simp_all [requestFrames, requestAudioFrame, or_comm]

theorem nodup_requestFrames : (requestFrames f call).2.Nodup := by
  obtain ⟨index, settings, state, audio, video⟩ := call
  cases state <;> cases audio <;> cases video <;> simp [requestFrames, requestAudioFrame]

/-- What is pending stays pending. -/
theorem requestFrames_pending :
    (call.audioEventPending = true → (requestFrames f call).1.audioEventPending = true) ∧
      (call.videoEventPending = true → (requestFrames f call).1.videoEventPending = true) := by
  obtain ⟨index, settings, state, audio, video⟩ := call
  cases state <;> cases audio <;> cases video <;> simp [requestFrames, requestAudioFrame]

/-- Asking for a frame sets the flag, which was not set before. -/
theorem pending_of_mem_requestFrames {output : AvOutput} (h : output ∈ (requestFrames f call).2) :
    (output = .requestAudioFrame f → call.audioEventPending = false ∧
        (requestFrames f call).1.audioEventPending = true) ∧
      (output = .requestVideoFrame f → call.videoEventPending = false ∧
        (requestFrames f call).1.videoEventPending = true) := by
  obtain ⟨index, settings, state, audio, video⟩ := call
  cases state <;> cases audio <;> cases video <;>
    simp_all [requestFrames, requestAudioFrame]

theorem requestFrames_asked (h : ¬ call.FallsThrough) : (requestFrames f call).1 = call.asked := by
  obtain ⟨index, settings, state, audio, video⟩ := call
  cases state <;> cases audio <;> cases video <;>
    simp_all [requestFrames, requestAudioFrame, AvCall.FallsThrough, AvCall.asked,
      AvCall.WantsAudio, AvCall.WantsVideo]

end

theorem AvCallback.run_requests {cb : AvCallback} {av av' : NewToxAv} {outputs : List AvOutput}
    (hrun : cb.run av = .ok (av', outputs)) :
    ∀ output ∈ outputs, ∀ f, output ≠ .requestAudioFrame f ∧ output ≠ .requestVideoFrame f := by
  cases run_returns hrun with
  | invited | rang | started | received => simp

/-- The callbacks inside `toxav_do` ask for no frames. -/
theorem toxavDo_requests {callbacks : List AvCallback} {av mid : NewToxAv}
    {outputs : List AvOutput} (h : toxavDo callbacks av = .ok (mid, outputs)) :
    ∀ output ∈ outputs, ∀ f, output ≠ .requestAudioFrame f ∧ output ≠ .requestVideoFrame f := by
  induction callbacks generalizing av outputs with
  | nil =>
    cases h
    simp
  | cons callback callbacks ih =>
    simp only [toxavDo, Checked.bind_eq_ok, Checked.pure_eq_ok, Prod.exists, Prod.mk.injEq] at h
    obtain ⟨av', outputs₁, hcallback, _, outputs₂, hrest, rfl, rfl⟩ := h
    intro output hmem
    rcases List.mem_append.mp hmem with hmem | hmem
    · exact AvCallback.run_requests hcallback output hmem
    · exact ih hrest output hmem

section

variable {av : NewToxAv} {f : UInt32}

theorem friendToCall_afterToxavDo (av : NewToxAv) (f : UInt32) :
    (afterToxavDo av).1.friendToCall[f]? =
      av.friendToCall[f]?.map fun call => (requestFrames f call).1 :=
  getElem?_loopRecords _ _ _

theorem mem_afterToxavDo {output : AvOutput} : output ∈ (afterToxavDo av).2 ↔
    ∃ (f : UInt32) (call : AvCall), av.friendToCall[f]? = some call ∧
      output ∈ (requestFrames f call).2 :=
  mem_loopRecords

theorem audio_mem_afterToxavDo : .requestAudioFrame f ∈ (afterToxavDo av).2 ↔
    ∃ call, av.friendToCall[f]? = some call ∧ (call.WantsAudio ∨ call.FallsThrough) := by
  rw [mem_afterToxavDo]
  constructor
  · intro h
    obtain ⟨f', call, hcall, hmem⟩ := h
    obtain ⟨rfl, hwants⟩ := audio_mem_requestFrames.mp hmem
    exact ⟨call, hcall, hwants⟩
  · intro h
    obtain ⟨call, hcall, hwants⟩ := h
    exact ⟨f, call, hcall, audio_mem_requestFrames.mpr ⟨rfl, hwants⟩⟩

theorem video_mem_afterToxavDo : .requestVideoFrame f ∈ (afterToxavDo av).2 ↔
    ∃ call, av.friendToCall[f]? = some call ∧ call.WantsVideo := by
  rw [mem_afterToxavDo]
  constructor
  · intro h
    obtain ⟨f', call, hcall, hmem⟩ := h
    obtain ⟨rfl, hwants⟩ := video_mem_requestFrames.mp hmem
    exact ⟨call, hcall, hwants⟩
  · intro h
    obtain ⟨call, hcall, hwants⟩ := h
    exact ⟨f, call, hcall, video_mem_requestFrames.mpr ⟨rfl, hwants⟩⟩

/-- An iteration asks each call at most once for each of its frames. -/
theorem nodup_afterToxavDo (av : NewToxAv) : (afterToxavDo av).2.Nodup := by
  refine pairwise_loopRecords ?_ ?_
  · intro f call _
    exact nodup_requestFrames
  · intro f f' call call' hne _ _ a ha b hb heq
    subst heq
    rcases mem_requestFrames ha with rfl | rfl
    · rcases mem_requestFrames hb with h | h
      · exact hne (AvOutput.requestAudioFrame.inj h)
      · cases h
    · rcases mem_requestFrames hb with h | h
      · cases h
      · exact hne (AvOutput.requestVideoFrame.inj h)

theorem framesRequested_iff :
    FramesRequested av (afterToxavDo av).1 (afterToxavDo av).2 ↔
      ∀ (f : UInt32) (call : AvCall), av.friendToCall[f]? = some call → ¬ call.FallsThrough := by
  constructor
  · intro h f call hcall hfalls
    obtain ⟨call', hcall', hwants⟩ :=
      (h.audio f).mp (audio_mem_afterToxavDo.mpr ⟨call, hcall, .inr hfalls⟩)
    rw [hcall, Option.some.injEq] at hcall'
    subst hcall'
    rcases hwants.1 with hstate | hstate
    · rw [hfalls.1] at hstate
      cases hstate
    · rw [hfalls.1] at hstate
      cases hstate
  · intro h
    refine ⟨?_, fun f => video_mem_afterToxavDo, nodup_afterToxavDo av, ?_, ?_, rfl⟩
    · intro f
      rw [audio_mem_afterToxavDo]
      constructor
      · intro hex
        obtain ⟨call, hcall, hwants⟩ := hex
        exact ⟨call, hcall, hwants.resolve_right (h f call hcall)⟩
      · intro hex
        obtain ⟨call, hcall, hwants⟩ := hex
        exact ⟨call, hcall, .inl hwants⟩
    · intro output hmem
      obtain ⟨f, call, -, hmem⟩ := mem_afterToxavDo.mp hmem
      exact ⟨f, mem_requestFrames hmem⟩
    · intro f
      rw [friendToCall_afterToxavDo]
      cases hcall : av.friendToCall[f]? with
      | none => rfl
      | some call => exact congrArg some (requestFrames_asked (h f call hcall))

end

/-- An iteration asks for the frames that are wanted exactly when no call that sends video only
    still has a video frame pending and has no audio frame pending. -/
theorem iteration_requests_iff {callbacks : List AvCallback} {av mid : NewToxAv}
    {outputs : List AvOutput} (h : toxavDo callbacks av = .ok (mid, outputs)) :
    (∃ after requests, newToxavIteration callbacks av = .ok (after, outputs ++ requests) ∧
        FramesRequested mid after requests) ↔
      ∀ (f : UInt32) (call : AvCall), mid.friendToCall[f]? = some call → ¬ call.FallsThrough := by
  have hiteration : newToxavIteration callbacks av =
      .ok ((afterToxavDo mid).1, outputs ++ (afterToxavDo mid).2) := by
    simp only [newToxavIteration, h, Checked.ok_bind]
    rfl
  rw [← framesRequested_iff, hiteration]
  constructor
  · intro hex
    obtain ⟨after, requests, heq, hrequested⟩ := hex
    simp only [Except.ok.injEq, Prod.mk.injEq, List.append_cancel_left_eq] at heq
    rw [heq.1, heq.2]
    exact hrequested
  · intro hrequested
    exact ⟨_, _, rfl, hrequested⟩

/-- A `new_ToxAV` with a call that sends video only. -/
def sendsVideo (videoEventPending : Bool) : NewToxAv :=
  ({} : NewToxAv).setCall 0 { index := 0, state := .sendingV, videoEventPending }

theorem friendToCall_sendsVideo {videoEventPending : Bool} {f : UInt32} {call : AvCall}
    (h : (sendsVideo videoEventPending).friendToCall[f]? = some call) :
    call = { index := 0, state := .sendingV, videoEventPending } := by
  simp only [sendsVideo, NewToxAv.setCall, Std.ExtTreeMap.getElem?_insert] at h
  split at h
  · exact (Option.some.inj h).symm
  · simp at h

/-- The first iteration asks for a video frame only. -/
theorem first_iteration_requests :
    ∃ after requests, newToxavIteration [] (sendsVideo false) = .ok (after, [] ++ requests) ∧
      FramesRequested (sendsVideo false) after requests := by
  refine (iteration_requests_iff rfl).mpr ?_
  intro f call hcall hfalls
  rw [friendToCall_sendsVideo hcall] at hfalls
  cases hfalls.2.1

/-- The second iteration asks for an audio frame that nobody wants. -/
theorem second_iteration_requests_audio :
    newToxavIteration [] (sendsVideo true) =
        .ok ((sendsVideo true).setCall 0 ⟨0, {}, .sendingV, true, true⟩, [.requestAudioFrame 0]) ∧
      ¬ ∃ after requests, newToxavIteration [] (sendsVideo true) = .ok (after, [] ++ requests) ∧
        FramesRequested (sendsVideo true) after requests := by
  have hrun : newToxavIteration [] (sendsVideo true) =
      .ok ((sendsVideo true).setCall 0 ⟨0, {}, .sendingV, true, true⟩, [.requestAudioFrame 0]) := by
    rfl
  refine ⟨hrun, ?_⟩
  intro h
  obtain ⟨after, requests, heq, hrequested⟩ := h
  rw [hrun] at heq
  cases heq
  obtain ⟨call, hcall, hwants⟩ := (hrequested.audio 0).mp (List.mem_singleton.mpr rfl)
  rw [friendToCall_sendsVideo hcall] at hwants
  exact absurd hwants (by decide)

end Tox4j.Adapter
