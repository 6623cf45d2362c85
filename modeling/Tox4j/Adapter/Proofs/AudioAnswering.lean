import Tox4j.Adapter.Proofs.Answering

/-!
# Answering requests for audio frames

The same as for chunks: an answer inside the callback clears the flag that the loop then sets.
-/

namespace Tox4j.Adapter

open Tox4j.Misc

/-! ## One answer -/

section

variable {lg : Toxav} {client : FrameClient} {av : NewToxAv} {f : UInt32} {call : AvCall}
  {frame : AudioFrame}

instance : Decidable (FrameFails lg call frame) := inferInstanceAs (Decidable (_ ∨ _))

theorem newToxavSendAudioFrame_eq_ok (hcall : av.friendToCall[f]? = some call)
    {r : ErrSendFrame × NewToxAv × List AvOutput} :
    newToxavSendAudioFrame lg av f frame = .ok r ↔ ¬ FrameFails lg call frame ∧
      r = (.ok, av.setCall f { call with audioEventPending := false },
        [.sendAudio call.index ((lg.prepareAudioFrame call.index frame.pcm
          (frame.sampleCount * frame.channels.toUInt64)).2.take
            (lg.prepareAudioFrame call.index frame.pcm
              (frame.sampleCount * frame.channels.toUInt64)).1.toNatClampNeg)]) := by
  simp only [newToxavSendAudioFrame, getCall_eq_ok.mpr hcall, Checked.ok_bind, Checked.bind_eq_ok,
    Checked.assert_eq_ok, decide_eq_true_eq, Checked.pure_eq_ok, FrameFails, not_or, not_not,
    Int32.not_le, Int32.not_lt]
  constructor
  · intro h
    obtain ⟨_, hcount, _, hchannels, _, hrate, _, hprepare, _, hsend, rfl⟩ := h
    exact ⟨⟨hcount, hchannels, hrate, hprepare, hsend⟩, rfl⟩
  · intro h
    obtain ⟨⟨hcount, hchannels, hrate, hprepare, hsend⟩, rfl⟩ := h
    exact ⟨⟨⟩, hcount, ⟨⟩, hchannels, ⟨⟩, hrate, ⟨⟩, hprepare, ⟨⟩, hsend, rfl⟩

/-- The call after the answer of a client, unless an assertion fails. -/
def frameAnswered (client : FrameClient) (f : UInt32) (call : AvCall) : Option AvCall :=
  match client f with
  | none => some call
  | some (lg, frame) =>
    if FrameFails lg call frame then none else some { call with audioEventPending := false }

theorem friendToCall_setCall (av : NewToxAv) (f f' : UInt32) (call : AvCall) :
    (av.setCall f call).friendToCall[f']? =
      if f = f' then some call else av.friendToCall[f']? :=
  lookup_insert _ _ _ _

/-- An answer touches no other call. -/
theorem answerFrame_local (client : FrameClient) :
    LocalStep (fun (av : NewToxAv) (f : UInt32) => av.friendToCall[f]?) id (answerFrame client)
      (frameAnswered client) where
  ok {f av call call'} hcall hanswered := by
    change av.friendToCall[f]? = some call at hcall
    unfold frameAnswered at hanswered
    split at hanswered
    · next hclient =>
      obtain rfl := Option.some.inj hanswered
      exact ⟨av, [], by rw [answerFrame, hclient], hcall, fun _ _ => rfl⟩
    next lg frame hclient =>
    split at hanswered
    · cases hanswered
    next hfails =>
    obtain rfl := Option.some.inj hanswered
    refine ⟨_, _, by rw [answerFrame, hclient]; simp only
      [(newToxavSendAudioFrame_eq_ok hcall).mpr ⟨hfails, rfl⟩]; rfl, ?_, ?_⟩
    · exact (friendToCall_setCall ..).trans (if_pos rfl)
    · intro f' hf
      exact (friendToCall_setCall ..).trans (if_neg (Ne.symm hf))
  fails {f av call} hcall hanswered := by
    change av.friendToCall[f]? = some call at hcall
    unfold frameAnswered at hanswered
    split at hanswered
    · cases hanswered
    next lg frame hclient =>
    split at hanswered
    · next hfails =>
      rw [answerFrame, hclient]
      cases hresult : newToxavSendAudioFrame lg av f frame with
      | error e => exact ⟨e, by simp only [hresult]; rfl⟩
      | ok r => exact absurd hfails ((newToxavSendAudioFrame_eq_ok hcall).mp hresult).1
    · cases hanswered

/-! ## The loop -/

/-- The call after the case for audio, with a callback that answers. -/
def audioLoop (client : FrameClient) (f : UInt32) (call : AvCall) : Option AvCall :=
  if call.audioEventPending = false then
    (frameAnswered client f call).map fun call => { call with audioEventPending := true }
  else some call

/-- The call after the loop body, with a callback that answers. -/
def framesLoop (client : FrameClient) (f : UInt32) (call : AvCall) : Option AvCall :=
  match call.state with
  | .sendingV | .sendingAV =>
    if call.videoEventPending = false then
      if call.state = .sendingV then some { call with videoEventPending := true }
      else audioLoop client f { call with videoEventPending := true }
    else audioLoop client f call
  | .sendingA => audioLoop client f call
  | .ringing | .sendingNone | .paused | .ended | .error => some call

theorem audioAnswered_ok {call' : AvCall} (hcall : av.friendToCall[f]? = some call)
    (hloop : audioLoop client f call = some call') :
    ∃ av' outputs, audioAnswered client f call av = .ok (av', outputs) ∧
      av'.friendToCall[f]? = some call' ∧
      ∀ f' : UInt32, f' ≠ f → av'.friendToCall[f']? = av.friendToCall[f']? := by
  unfold audioLoop at hloop
  split at hloop
  · next hpending =>
    obtain ⟨answered, hanswered, rfl⟩ := Option.map_eq_some_iff.mp hloop
    obtain ⟨mid, outputs, hanswer, hself, hothers⟩ := (answerFrame_local client).ok hcall hanswered
    have hself' : mid.friendToCall[f]? = some answered := hself
    refine ⟨mid.setCall f { answered with audioEventPending := true }, _, by
      simp only [audioAnswered, hpending, Bool.not_false, if_true, hanswer, Checked.ok_bind,
        hself']; rfl, (friendToCall_setCall ..).trans (if_pos rfl), ?_⟩
    intro f' hf
    exact (friendToCall_setCall ..).trans ((if_neg (Ne.symm hf)).trans (hothers f' hf))
  · next hpending =>
    obtain rfl := Option.some.inj hloop
    rw [Bool.not_eq_false] at hpending
    exact ⟨av, [], by simp [audioAnswered, hpending], hcall, fun _ _ => rfl⟩

theorem audioAnswered_error (hcall : av.friendToCall[f]? = some call)
    (hloop : audioLoop client f call = none) : ∃ e, audioAnswered client f call av = .error e := by
  unfold audioLoop at hloop
  split at hloop
  · next hpending =>
    obtain ⟨e, hanswer⟩ := (answerFrame_local client).fails hcall (Option.map_eq_none_iff.mp hloop)
    exact ⟨e, by simp only [audioAnswered, hpending, Bool.not_false, if_true, hanswer]; rfl⟩
  · cases hloop

/-- The ways through the switch: nothing is requested, only video, only audio, or both. -/
theorem framesAnswered_cases (client : FrameClient) (hcall : av.friendToCall[f]? = some call) :
    (framesLoop client f call = some call ∧ framesAnswered client f av = .ok (av, [])) ∨
    (framesLoop client f call = some { call with videoEventPending := true } ∧
      framesAnswered client f av =
        .ok (av.setCall f { call with videoEventPending := true }, [.requestVideoFrame f])) ∨
    (framesLoop client f call = audioLoop client f call ∧
      framesAnswered client f av = audioAnswered client f call av) ∨
    (framesLoop client f call = audioLoop client f { call with videoEventPending := true } ∧
      framesAnswered client f av = do
        let (av, outputs) ← audioAnswered client f { call with videoEventPending := true }
          (av.setCall f { call with videoEventPending := true })
        return (av, .requestVideoFrame f :: outputs)) := by
  simp only [framesLoop, framesAnswered, hcall]
  obtain ⟨index, settings, state, audio, video⟩ := call
  cases state with
  | ringing | sendingNone | paused | ended | error => exact .inl ⟨rfl, rfl⟩
  | sendingA => exact .inr (.inr (.inl ⟨rfl, rfl⟩))
  | sendingV =>
    cases video with
    | false => exact .inr (.inl ⟨rfl, rfl⟩)
    | true => exact .inr (.inr (.inl ⟨rfl, rfl⟩))
  | sendingAV =>
    cases video with
    | false => exact .inr (.inr (.inr ⟨rfl, rfl⟩))
    | true => exact .inr (.inr (.inl ⟨rfl, rfl⟩))

/-- The loop body touches no other call, even when its callback answers. -/
theorem framesAnswered_local (client : FrameClient) :
    LocalStep (fun (av : NewToxAv) (f : UInt32) => av.friendToCall[f]?) id (framesAnswered client)
      (framesLoop client) where
  ok {f av call call'} hcall hloop := by
    change av.friendToCall[f]? = some call at hcall
    have hself : ∀ call', (av.setCall f call').friendToCall[f]? = some call' :=
      fun _ => (friendToCall_setCall ..).trans (if_pos rfl)
    have hothers : ∀ call' (f' : UInt32), f' ≠ f →
        (av.setCall f call').friendToCall[f']? = av.friendToCall[f']? :=
      fun _ _ hf => (friendToCall_setCall ..).trans (if_neg (Ne.symm hf))
    rcases framesAnswered_cases client hcall with
        ⟨heq, hrun⟩ | ⟨heq, hrun⟩ | ⟨heq, hrun⟩ | ⟨heq, hrun⟩
    · exact ⟨av, [], hrun, hcall.trans (heq.symm.trans hloop), fun _ _ => rfl⟩
    · exact ⟨_, _, hrun, (hself _).trans (heq.symm.trans hloop), hothers _⟩
    · obtain ⟨av', outputs, haudio, hnew, hold⟩ := audioAnswered_ok hcall (heq.symm.trans hloop)
      exact ⟨av', outputs, hrun.trans haudio, hnew, hold⟩
    · obtain ⟨av', outputs, haudio, hnew, hold⟩ :=
        audioAnswered_ok (hself _) (heq.symm.trans hloop)
      refine ⟨av', _, by rw [hrun, haudio]; rfl, hnew, ?_⟩
      intro f' hf
      exact (hold f' hf).trans (hothers _ f' hf)
  fails {f av call} hcall hloop := by
    change av.friendToCall[f]? = some call at hcall
    have hself : ∀ call', (av.setCall f call').friendToCall[f]? = some call' :=
      fun _ => (friendToCall_setCall ..).trans (if_pos rfl)
    rcases framesAnswered_cases client hcall with ⟨heq, -⟩ | ⟨heq, -⟩ | ⟨heq, hrun⟩ | ⟨heq, hrun⟩
    · cases heq.symm.trans hloop
    · cases heq.symm.trans hloop
    · obtain ⟨e, haudio⟩ := audioAnswered_error hcall (heq.symm.trans hloop)
      exact ⟨e, hrun.trans haudio⟩
    · obtain ⟨e, haudio⟩ := audioAnswered_error (hself _) (heq.symm.trans hloop)
      exact ⟨e, by rw [hrun, haudio]; rfl⟩

/-- The call after the loop and an answer that comes later. -/
def framesLater (client : FrameClient) (f : UInt32) (call : AvCall) : Option AvCall :=
  if .requestAudioFrame f ∈ (requestFrames f call).2 then
    frameAnswered client f (requestFrames f call).1
  else some (requestFrames f call).1

theorem frameAnswered_eq_none : frameAnswered client f call = none ↔
    ∃ lg frame, client f = some (lg, frame) ∧ FrameFails lg call frame := by
  unfold frameAnswered
  cases hclient : client f with
  | none => simp
  | some answer =>
    obtain ⟨lg, frame⟩ := answer
    by_cases hfails : FrameFails lg call frame
    · simp [hfails]
    · simp [hfails]

/-- The loop changes flags only. -/
theorem frameFails_requestFrames :
    FrameFails lg (requestFrames f call).1 frame ↔ FrameFails lg call frame := by
  obtain ⟨index, settings, state, audio, video⟩ := call
  cases state <;> cases audio <;> cases video <;> rfl

theorem framesLater_eq_none (hcall : av.friendToCall[f]? = some call) :
    framesLater client f call = none ↔ ∃ lg frame,
      FrameAnswered client av f call lg frame ∧ FrameFails lg call frame := by
  unfold framesLater
  split
  · next hmem =>
    rw [frameAnswered_eq_none]
    constructor
    · intro h
      obtain ⟨lg, frame, hclient, hfails⟩ := h
      exact ⟨lg, frame, ⟨hcall, hmem, hclient⟩, frameFails_requestFrames.mp hfails⟩
    · intro h
      obtain ⟨lg, frame, hanswered, hfails⟩ := h
      exact ⟨lg, frame, hanswered.2.2, frameFails_requestFrames.mpr hfails⟩
  · next hmem => simp [FrameAnswered, hmem]

/-- Whether an answer fails depends on the index and the settings of the call. -/
theorem frameAnswered_map {α : Type} {call' : AvCall} (hindex : call.index = call'.index)
    (hsettings : call.settings = call'.settings) (a : α) :
    ((frameAnswered client f call).map fun _ => a) =
      (frameAnswered client f call').map fun _ => a := by
  unfold frameAnswered
  cases client f with
  | none => rfl
  | some answer =>
    obtain ⟨lg, frame⟩ := answer
    have hfails : FrameFails lg call frame ↔ FrameFails lg call' frame := by
      unfold FrameFails
      rw [hindex, hsettings]
    by_cases h : FrameFails lg call' frame
    · simp only [hfails, h, if_true, Option.map_none]
    · simp only [hfails, h, if_false, Option.map_some]

theorem audioLoop_eq : audioLoop client f call =
    if call.audioEventPending = false then
      (frameAnswered client f call).map fun _ => { call with audioEventPending := true }
    else some call := by
  unfold audioLoop frameAnswered
  cases client f with
  | none => rfl
  | some answer =>
    obtain ⟨lg, frame⟩ := answer
    by_cases h : FrameFails lg call frame
    · simp only [h, if_true, Option.map_none]
    · simp only [h, if_false, Option.map_some]

/-- Inside the callback, the flag is set whatever the answer. -/
theorem framesLoop_eq : framesLoop client f call =
    (framesLater client f call).map fun _ => (requestFrames f call).1 := by
  obtain ⟨index, settings, state, audio, video⟩ := call
  cases state <;> cases audio <;> cases video <;>
    simp only [framesLoop, framesLater, requestFrames, requestAudioFrame, audioLoop_eq,
      Bool.not_false, Bool.not_true, if_true, if_false, reduceCtorEq, List.mem_cons,
      List.not_mem_nil, or_false, or_true, Option.map_some, Bool.false_eq_true] <;>
    first
    | rfl
    | apply frameAnswered_map <;> rfl

theorem framesLoop_eq_none :
    framesLoop client f call = none ↔ framesLater client f call = none := by
  rw [framesLoop_eq, Option.map_eq_none_iff]

/-- The call ends up the same unless the request is answered. -/
theorem framesLoop_eq_framesLater (hcall : av.friendToCall[f]? = some call)
    (hsome : framesLater client f call ≠ none) :
    framesLoop client f call = framesLater client f call ↔
      ∀ lg frame, ¬ FrameAnswered client av f call lg frame := by
  rw [framesLoop_eq]
  unfold framesLater at hsome ⊢
  split at hsome
  · next hmem =>
    rw [if_pos hmem]
    have hflag := ((pending_of_mem_requestFrames hmem).1 rfl).2
    unfold frameAnswered at hsome ⊢
    cases hclient : client f with
    | none =>
      simp only [Option.map_some, true_iff]
      intro lg frame hanswered
      exact absurd (hclient.symm.trans hanswered.2.2) (by simp)
    | some answer =>
      obtain ⟨lg, frame⟩ := answer
      simp only [hclient] at hsome ⊢
      split at hsome
      · exact absurd rfl hsome
      · next hfails =>
        rw [if_neg hfails, Option.map_some, Option.some.injEq]
        constructor
        · intro heq
          rw [heq] at hflag
          cases hflag
        · intro hnone
          exact absurd ⟨hcall, hmem, hclient⟩ (hnone lg frame)
  · next hmem =>
    rw [if_neg hmem]
    simp [FrameAnswered, hmem]

/-! ## The two iterations -/

variable {callbacks : List AvCallback} {mid : NewToxAv} {out : List AvOutput}

theorem mem_keys_friendToCall :
    f ∈ av.friendToCall.keys ↔ ∃ call, av.friendToCall[f]? = some call := by
  rw [Std.ExtTreeMap.mem_keys, Std.ExtTreeMap.mem_iff_isSome_getElem?, Option.isSome_iff_exists]

theorem avIterationAnswered_updates (client : FrameClient)
    (h : toxavDo callbacks av = .ok (mid, out)) :
    Updates (fun (av : NewToxAv) (f : UInt32) => av.friendToCall[f]?)
      (fun f => mid.friendToCall[f]?) (framesLoop client)
      (avIterationAnswered callbacks client av) := by
  have hloop := (framesAnswered_local client).updates_keys (distinct_keys mid.friendToCall)
    fun _ => mem_keys_friendToCall
  refine hloop.extend ?_ ?_
  · intro r hrun
    refine ⟨out ++ r.2, ?_⟩
    simp only [avIterationAnswered, h, Checked.ok_bind, hrun]
    rfl
  · intro e hrun
    simp only [avIterationAnswered, h, Checked.ok_bind, hrun]
    rfl

theorem audioRequest_eq_some {output : AvOutput} :
    output.audioRequest = some f ↔ output = .requestAudioFrame f := by
  cases output <;> simp [AvOutput.audioRequest]

/-- What the loop asks for. -/
theorem mem_audioRequests : f ∈ (afterToxavDo av).2.filterMap AvOutput.audioRequest ↔
    ∃ call, av.friendToCall[f]? = some call ∧ .requestAudioFrame f ∈ (requestFrames f call).2 := by
  simp only [List.mem_filterMap, audioRequest_eq_some, exists_eq_right, audio_mem_afterToxavDo,
    audio_mem_requestFrames, true_and]

theorem pairwise_audioRequests (av : NewToxAv) :
    ((afterToxavDo av).2.filterMap AvOutput.audioRequest).Pairwise fun f f' => id f ≠ id f' := by
  rw [List.pairwise_filterMap]
  refine (nodup_afterToxavDo av).imp ?_
  intro a b hne f ha f' hb heq
  apply hne
  rw [audioRequest_eq_some.mp ha, audioRequest_eq_some.mp hb]
  exact congrArg _ heq

theorem avIterationThenAnswers_eq (client : FrameClient)
    (h : toxavDo callbacks av = .ok (mid, out)) :
    avIterationThenAnswers callbacks client av = do
      let (av, outputs) ← runAll (answerFrame client)
        ((afterToxavDo mid).2.filterMap AvOutput.audioRequest) (afterToxavDo mid).1
      return (av, out ++ (afterToxavDo mid).2 ++ outputs) := by
  have hnone : out.filterMap AvOutput.audioRequest = [] := by
    refine List.filterMap_eq_nil_iff.mpr fun output hmem => ?_
    rw [← Option.not_isSome_iff_eq_none, Option.isSome_iff_exists]
    intro hex
    obtain ⟨f, hf⟩ := hex
    exact (toxavDo_requests h output hmem f).1 (audioRequest_eq_some.mp hf)
  simp only [avIterationThenAnswers, newToxavIteration, h, Checked.ok_bind]
  show (do
      let (av, outputs) ← runAll (answerFrame client)
        ((out ++ (afterToxavDo mid).2).filterMap AvOutput.audioRequest) (afterToxavDo mid).1
      return (av, out ++ (afterToxavDo mid).2 ++ outputs)) = _
  rw [List.filterMap_append, hnone, List.nil_append]

theorem avIterationThenAnswers_updates (client : FrameClient)
    (h : toxavDo callbacks av = .ok (mid, out)) :
    Updates (fun (av : NewToxAv) (f : UInt32) => av.friendToCall[f]?)
      (fun f => mid.friendToCall[f]?) (framesLater client)
      (avIterationThenAnswers callbacks client av) := by
  have hanswers : Updates (fun (av : NewToxAv) (f : UInt32) => av.friendToCall[f]?)
      (fun f => mid.friendToCall[f]?) (framesLater client)
      (runAll (answerFrame client) ((afterToxavDo mid).2.filterMap AvOutput.audioRequest)
        (afterToxavDo mid).1) := by
    refine (answerFrame_local client).updates (pairwise_audioRequests mid) _ _ ?_ ?_
    · intro f hmem
      obtain ⟨call, hcall, hrequest⟩ := mem_audioRequests.mp hmem
      refine ⟨call, (requestFrames f call).1, hcall, ?_, (if_pos hrequest).symm⟩
      exact (friendToCall_afterToxavDo mid f).trans (by rw [hcall]; rfl)
    · intro f hne
      simp only [friendToCall_afterToxavDo]
      cases hcall : mid.friendToCall[f]? with
      | none => exact ⟨rfl, fun call hcall => by cases hcall⟩
      | some call =>
        have hrequest : .requestAudioFrame f ∉ (requestFrames f call).2 :=
          fun hmem => hne f (mem_audioRequests.mpr ⟨call, hcall, hmem⟩) rfl
        rw [Option.map_some, Option.bind_some, framesLater, if_neg hrequest]
        refine ⟨rfl, ?_⟩
        intro call' hcall'
        cases hcall'
        rw [framesLater, if_neg hrequest]
        simp
  refine hanswers.extend ?_ ?_
  · intro r hrun
    refine ⟨out ++ (afterToxavDo mid).2 ++ r.2, ?_⟩
    rw [avIterationThenAnswers_eq client h, hrun]
    rfl
  · intro e hrun
    rw [avIterationThenAnswers_eq client h, hrun]
    rfl

/-- It makes no difference for calls exactly when an answer fails an assertion or there is none. -/
theorem sameCalls_iff (h : toxavDo callbacks av = .ok (mid, out)) :
    SameCalls (avIterationAnswered callbacks client av)
        (avIterationThenAnswers callbacks client av) ↔
      (∃ f call lg frame, FrameAnswered client mid f call lg frame ∧ FrameFails lg call frame) ∨
        ∀ f call lg frame, ¬ FrameAnswered client mid f call lg frame := by
  have hsame := (avIterationAnswered_updates client h).same_iff
    (avIterationThenAnswers_updates client h) fun f call _ => framesLoop_eq_none
  have hfails : (∃ f call, mid.friendToCall[f]? = some call ∧ framesLater client f call = none) ↔
      ∃ f call lg frame, FrameAnswered client mid f call lg frame ∧ FrameFails lg call frame := by
    constructor
    · intro hex
      obtain ⟨f, call, hcall, hnone⟩ := hex
      obtain ⟨lg, frame, hanswered⟩ := (framesLater_eq_none hcall).mp hnone
      exact ⟨f, call, lg, frame, hanswered⟩
    · intro hex
      obtain ⟨f, call, lg, frame, hanswered⟩ := hex
      have hcall := hanswered.1.1
      exact ⟨f, call, hcall, (framesLater_eq_none hcall).mpr ⟨lg, frame, hanswered⟩⟩
  simp only [SameCalls, eq_iff_getElem?_eq]
  refine hsame.trans ?_
  rw [← hfails]
  refine or_congr_right' fun hnone => ?_
  constructor
  · intro heq f call lg frame hanswered
    have hsome : framesLater client f call ≠ none := fun hn => hnone ⟨f, call, hanswered.1, hn⟩
    exact (framesLoop_eq_framesLater hanswered.1 hsome).mp (heq f call hanswered.1) lg frame
      hanswered
  · intro hsilent f call hcall
    have hsome : framesLater client f call ≠ none := fun hn => hnone ⟨f, call, hcall, hn⟩
    refine (framesLoop_eq_framesLater hcall hsome).mpr ?_
    intro lg frame hanswered
    exact hsilent _ _ _ _ hanswered

end

/-- Answering inside the callback is the same as answering after the iteration exactly when some
    answer fails an assertion either way, or when the client answers nothing that is accepted. -/
theorem answering_same_iff {lg : Legacy} {callbacks : List LegacyCallback} {tox mid : NewTox}
    {out : List Action} {avCallbacks : List AvCallback} {av avMid : NewToxAv}
    {avOut : List AvOutput} (h : toxDo lg callbacks tox = .ok (mid, out))
    (hav : toxavDo avCallbacks av = .ok (avMid, avOut)) (client : ChunkClient)
    (frameClient : FrameClient) :
    (SameTransfers (iterationAnswered lg callbacks client tox)
        (iterationThenAnswers lg callbacks client tox) ↔
      (∃ f n t lg' data, ChunkAnswered lg client mid f n t lg' data ∧ ChunkFails lg' f n t data) ∨
        ∀ f n t lg' data, ChunkAnswered lg client mid f n t lg' data → ¬ lg'.Takes f data) ∧
    (SameCalls (avIterationAnswered avCallbacks frameClient av)
        (avIterationThenAnswers avCallbacks frameClient av) ↔
      (∃ f call lg frame, FrameAnswered frameClient avMid f call lg frame ∧
        FrameFails lg call frame) ∨
        ∀ f call lg frame, ¬ FrameAnswered frameClient avMid f call lg frame) :=
  ⟨sameTransfers_iff h, sameCalls_iff hav⟩

/-- A file of ten bytes that the friend has accepted. -/
def acceptedFile : NewTox :=
  NewTox.setTransfer {} 0 0 { cause := .initial, fileSize := 10, state := .running }

/-- A call that sends audio. -/
def audioCall : NewToxAv :=
  NewToxAv.setCall {} 0
    { index := 0, settings := makeSettings {} 48 0, state := .sendingA }

/-- A client that sends five bytes for every request. -/
def fiveBytes : ChunkClient := fun _ => some (.oneFriend, .bytes [1, 2, 3, 4, 5])

/-- A client that sends silence for every request. -/
def silence : FrameClient := fun _ => some (.oneByte, ⟨List.replicate 480 0, 480, 1, 8000⟩)

/-- Clients that answer nothing cannot tell the difference. -/
theorem answering_same_silent :
    SameTransfers (iterationAnswered .oneFriend [] (fun _ => none) acceptedFile)
        (iterationThenAnswers .oneFriend [] (fun _ => none) acceptedFile) ∧
      SameCalls (avIterationAnswered [] (fun _ => none) audioCall)
        (avIterationThenAnswers [] (fun _ => none) audioCall) := by
  have hdo : toxDo .oneFriend [] acceptedFile = .ok (acceptedFile, []) := rfl
  have hav : toxavDo [] audioCall = .ok (audioCall, []) := rfl
  have hiff := answering_same_iff hdo hav (fun _ => none) (fun _ => none)
  refine ⟨hiff.1.mpr (.inr ?_), hiff.2.mpr (.inr ?_)⟩
  · intro f n t lg' data hanswered
    cases hanswered.2.2.2
  · intro f call lg frame hanswered
    cases hanswered.2.2

theorem chunkAnswered_acceptedFile {f n : UInt32} {t : FileTransfer} {lg : Legacy} {data : Buffer}
    (h : ChunkAnswered .oneFriend fiveBytes acceptedFile f n t lg data) :
    f = 0 ∧ n = 0 ∧ t = { cause := .initial, fileSize := 10, state := .running } ∧
      lg = .oneFriend ∧ data = .bytes [1, 2, 3, 4, 5] := by
  obtain ⟨ht, -, -, hclient⟩ := h
  cases hclient
  rw [acceptedFile, NewTox.getTransfer_setTransfer] at ht
  split at ht
  · next hkey => exact ⟨hkey.1.symm, hkey.2.symm, (Option.some.inj ht).symm, rfl, rfl⟩
  · simp at ht

theorem frameAnswered_audioCall {f : UInt32} {call : AvCall} {lg : Toxav} {frame : AudioFrame}
    (h : FrameAnswered silence audioCall f call lg frame) :
    call = { index := 0, settings := makeSettings {} 48 0, state := .sendingA } ∧
      lg = .oneByte ∧ frame = ⟨List.replicate 480 0, 480, 1, 8000⟩ := by
  obtain ⟨hcall, -, hclient⟩ := h
  cases hclient
  rw [audioCall, friendToCall_setCall] at hcall
  split at hcall
  · exact ⟨(Option.some.inj hcall).symm, rfl, rfl⟩
  · simp at hcall

/-- The request for a file stays pending when five bytes are sent inside the callback, and so does
    the one for an audio frame. -/
theorem answering_inside_sticks :
    ¬ SameTransfers (iterationAnswered .oneFriend [] fiveBytes acceptedFile)
        (iterationThenAnswers .oneFriend [] fiveBytes acceptedFile) ∧
      ¬ SameCalls (avIterationAnswered [] silence audioCall)
        (avIterationThenAnswers [] silence audioCall) := by
  have hchunk : ChunkAnswered .oneFriend fiveBytes acceptedFile 0 0
      { cause := .initial, fileSize := 10, state := .running } .oneFriend
      (.bytes [1, 2, 3, 4, 5]) :=
    ⟨NewTox.getTransfer_setTransfer_self .., by decide, by decide, rfl⟩
  have hframe : FrameAnswered silence audioCall 0
      { index := 0, settings := makeSettings {} 48 0, state := .sendingA } .oneByte
      ⟨List.replicate 480 0, 480, 1, 8000⟩ :=
    ⟨(friendToCall_setCall ..).trans (if_pos rfl), by decide, rfl⟩
  constructor
  · intro hsame
    rcases (sameTransfers_iff rfl).mp hsame with ⟨f, n, t, lg, data, hanswered, hfails⟩ | hnone
    · obtain ⟨rfl, rfl, rfl, rfl, rfl⟩ := chunkAnswered_acceptedFile hanswered
      exact absurd hfails (by decide)
    · exact hnone _ _ _ _ _ hchunk (Legacy.takes_iff.mpr (by decide))
  · intro hsame
    rcases (sameCalls_iff rfl).mp hsame with ⟨f, call, lg, frame, hanswered, hfails⟩ | hnone
    · obtain ⟨rfl, rfl, rfl⟩ := frameAnswered_audioCall hanswered
      exact absurd hfails (by decide +kernel)
    · exact hnone _ _ _ _ hframe

end Tox4j.Adapter
