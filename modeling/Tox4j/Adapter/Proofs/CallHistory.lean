import Mathlib.Tactic
import Tox4j.Adapter.CallHistory
import Tox4j.Adapter.Proofs.Frames

/-!
# When misuse is reported

A friend has an entry exactly when there has been a call with it, and the index of the entry leads
to what has become of that call. `new_toxav_call` and `new_toxav_send_audio_frame` assert what they
should check, and `new_toxav_answer` checks only that there is an entry.
-/

namespace Tox4j.Adapter

open Tox4j.Misc

/-! ## The indices in the table -/

section

variable {av : NewToxAv} {f : UInt32} {record : AvCall}

/-- The index of the call with a friend. -/
def NewToxAv.callIndex (av : NewToxAv) (f : UInt32) : Option Int32 :=
  av.friendToCall[f]?.map AvCall.index

theorem callIndex_eq_none : av.callIndex f = none ↔ av.friendToCall[f]? = none := by
  rw [NewToxAv.callIndex, Option.map_eq_none_iff]

theorem callIndex_of_record (h : av.friendToCall[f]? = some record) :
    av.callIndex f = some record.index := by
  rw [NewToxAv.callIndex, h]
  rfl

theorem callIndex_addCall (av : NewToxAv) (f f' : UInt32) (record : AvCall) :
    (av.addCall f record).callIndex f' =
      if f = f' then some ((av.callIndex f).getD record.index) else av.callIndex f' := by
  simp only [NewToxAv.callIndex, NewToxAv.addCall, lookup_insertIfNew_getD]
  split
  · cases av.friendToCall[f]? <;> rfl
  · rfl

/-- An index in the new table is an old one, or it is the new one and the friend had no entry. -/
theorem callIndex_addCall_cases {f' : UInt32} {i : Int32}
    (h : (av.addCall f record).callIndex f' = some i) :
    av.callIndex f' = some i ∨ f = f' ∧ i = record.index := by
  rw [callIndex_addCall] at h
  split at h
  · next hf =>
    subst hf
    cases hindex : av.callIndex f with
    | none =>
      rw [hindex] at h
      exact .inr ⟨rfl, (Option.some.inj h).symm⟩
    | some old =>
      rw [hindex] at h
      exact .inl h
  · exact .inl h

theorem callIndex_setCall (h : av.friendToCall[f]? = some record) {record' : AvCall}
    (hindex : record'.index = record.index) : (av.setCall f record').callIndex = av.callIndex := by
  funext f'
  simp only [NewToxAv.callIndex, NewToxAv.setCall, lookup_insert]
  split
  · next heq =>
    rw [← heq, h, Option.map_some, Option.map_some, hindex]
  · rfl

theorem callIndex_afterToxavDo (av : NewToxAv) :
    (afterToxavDo av).1.callIndex = av.callIndex := by
  funext f
  rw [NewToxAv.callIndex, friendToCall_afterToxavDo, Option.map_map]
  have hindex : (AvCall.index ∘ fun call => (requestFrames f call).1) = AvCall.index := by
    funext call
    obtain ⟨index, settings, state, audio, video⟩ := call
    cases state <;> cases audio <;> cases video <;> rfl
  rw [hindex]
  rfl

end

/-! ## The invariant -/

namespace CallHistory

variable {s s' : CallHistory} {f : UInt32}

/-- The entries are those of the calls there have been, and no two have the same index. -/
structure Ok (s : CallHistory) : Prop where
  known : ∀ f, s.friends f = (s.av.callIndex f).bind s.calls
  current : ∀ f i, s.av.callIndex f = some i → s.calls i ≠ none
  apart : ∀ f f' i, s.av.callIndex f = some i → s.av.callIndex f' = some i → f = f'

theorem ok_start : ({} : CallHistory).Ok := by
  have hnone : ∀ f, ({} : NewToxAv).callIndex f = none := by
    intro f
    rw [callIndex_eq_none]
    exact Std.ExtTreeMap.getElem?_empty
  refine ⟨?_, ?_, ?_⟩
  · intro f
    rw [hnone]
    rfl
  · intro f i hi
    rw [hnone] at hi
    cases hi
  · intro f f' i hi
    rw [hnone] at hi
    cases hi

theorem Ok.friends_eq_none_iff (h : s.Ok) :
    s.friends f = none ↔ s.av.friendToCall[f]? = none := by
  rw [h.known, ← callIndex_eq_none, Option.bind_eq_none_iff]
  constructor
  · intro hnone
    cases hindex : s.av.callIndex f with
    | none => rfl
    | some i => exact absurd (hnone i hindex) (h.current f i hindex)
  · intro hnone i hi
    rw [hnone] at hi
    cases hi

/-- What has become of the call in an entry. -/
theorem Ok.friends_of_record (h : s.Ok) {record : AvCall}
    (hrecord : s.av.friendToCall[f]? = some record) : s.friends f = s.calls record.index := by
  rw [h.known, callIndex_of_record hrecord]
  rfl

/-- Only the flags, settings or states of entries change. -/
theorem Ok.same (h : s.Ok) {av : NewToxAv} (hindex : av.callIndex = s.av.callIndex) :
    ({ s with av } : CallHistory).Ok := by
  refine ⟨?_, ?_, ?_⟩
  · rw [hindex]
    exact h.known
  · rw [hindex]
    exact h.current
  · rw [hindex]
    exact h.apart

/-- An index that no call has had is in no entry. -/
theorem Ok.ne_of_free (h : s.Ok) {i j : Int32} (hfree : s.calls i = none)
    (hj : s.av.callIndex f = some j) : j ≠ i := by
  intro heq
  subst heq
  exact h.current f j hj hfree

/-- What is written down for one call says nothing about others. -/
theorem bind_update_calls {index : Option Int32} {i : Int32} (calls : Int32 → Option CallKind)
    (kind : Option CallKind) (hne : ∀ j, index = some j → j ≠ i) :
    index.bind (Function.update calls i kind) = index.bind calls := by
  cases index with
  | none => rfl
  | some j => exact Function.update_of_ne (hne j rfl) _ _

theorem update_calls_ne_none {calls : Int32 → Option CallKind} {i j : Int32} (kind : CallKind)
    (h : j ≠ i → calls j ≠ none) : Function.update calls i (some kind) j ≠ none := by
  by_cases hji : j = i
  · rw [hji, Function.update_self]
    exact Option.some_ne_none kind
  · rw [Function.update_of_ne hji]
    exact h hji

/-- A new call, under an index that no call has had. The friend may have an entry already. -/
theorem Ok.add (h : s.Ok) {record : AvCall} (hfree : s.calls record.index = none)
    (kind : CallKind) :
    ({ s with av := s.av.addCall f record }.add f record.index kind).Ok := by
  refine ⟨?_, ?_, ?_⟩
  · intro f'
    show Function.update s.friends f ((s.friends f).or (some kind)) f' =
      ((s.av.addCall f record).callIndex f').bind
        (Function.update s.calls record.index (some kind))
    rw [callIndex_addCall]
    by_cases hf : f = f'
    · subst hf
      rw [if_pos rfl, Function.update_self, h.known]
      cases hindex : s.av.callIndex f with
      | none =>
        show some kind = Function.update s.calls record.index (some kind) record.index
        rw [Function.update_self]
      | some j =>
        obtain ⟨old, hcalls⟩ := Option.ne_none_iff_exists'.mp (h.current f j hindex)
        show (s.calls j).or (some kind) = Function.update s.calls record.index (some kind) j
        rw [Function.update_of_ne (h.ne_of_free hfree hindex), hcalls]
        rfl
    · rw [if_neg hf, Function.update_of_ne (Ne.symm hf),
        bind_update_calls _ _ fun j hj => h.ne_of_free hfree hj]
      exact h.known f'
  · intro f' j hj
    apply update_calls_ne_none
    intro hne
    rcases callIndex_addCall_cases hj with hj | ⟨-, hj⟩
    · exact h.current f' j hj
    · exact absurd hj hne
  · intro f' f'' j hj hj'
    rcases callIndex_addCall_cases hj with hj | ⟨rfl, rfl⟩
    · rcases callIndex_addCall_cases hj' with hj' | ⟨-, hj'⟩
      · exact h.apart f' f'' j hj hj'
      · exact absurd hj' (h.ne_of_free hfree hj)
    · rcases callIndex_addCall_cases hj' with hj' | ⟨hf, -⟩
      · exact absurd rfl (h.ne_of_free hfree hj')
      · exact hf

/-- An answer to the call in an entry. -/
theorem Ok.answer (h : s.Ok) {i : Int32} (hindex : s.av.callIndex f = some i) :
    (s.answer f i).Ok := by
  refine ⟨?_, ?_, h.apart⟩
  · intro f'
    show Function.update s.friends f (some .answered) f' =
      (s.av.callIndex f').bind (Function.update s.calls i (some .answered))
    by_cases hf : f' = f
    · subst hf
      rw [Function.update_self, hindex]
      show _ = Function.update s.calls i (some .answered) i
      rw [Function.update_self]
    · rw [Function.update_of_ne hf, bind_update_calls]
      · exact h.known f'
      · intro j hj heq
        subst heq
        exact hf (h.apart f' f _ hj hindex)
  · intro f' j hj
    exact update_calls_ne_none _ fun _ => h.current f' j hj

@[simp] theorem start_av (s : CallHistory) (callIdx : Int32) : (s.start callIdx).av = s.av := by
  rw [CallHistory.start]
  split <;> rfl

/-- That a call starts does not change which call is in which entry. -/
theorem Ok.start (h : s.Ok) (callIdx : Int32) : (s.start callIdx).Ok := by
  rw [CallHistory.start]
  split
  · exact h
  · exact ⟨h.known, h.current, h.apart⟩

theorem Ok.step (h : s.Ok) {defaultSettings : AvCSettings} {l : Toxav × AvApiCall}
    (hstep : Step defaultSettings s l s') : s'.Ok := by
  obtain ⟨lg, op⟩ := l
  obtain ⟨hpossible, hrun⟩ := hstep
  simp only [CallHistory.run, Checked.bind_eq_ok, Checked.pure_eq_ok, Prod.exists] at hrun
  obtain ⟨av', outputs, hrun, rfl⟩ := hrun
  cases AvApiCall.run_returns hrun with
  | called => exact h.add (hpossible rfl) .outgoing
  | @invited callIdx peerId =>
    have hfree : s.calls (AvCall.index { index := callIdx }) = none := hpossible
    exact h.add hfree .incoming
  | notCalling hf =>
    simp only [after, hf]
    exact h.same rfl
  | answered hrecord =>
    simp only [after, hrecord]
    exact (h.answer (callIndex_of_record hrecord)).same (callIndex_setCall hrecord rfl)
  | rang hrecord | sentAudio hrecord => exact h.same (callIndex_setCall hrecord rfl)
  | @started callIdx f record state hrecord =>
    refine (h.start callIdx).same ?_
    rw [start_av]
    exact callIndex_setCall hrecord rfl
  | received => exact h.same rfl
  | asked => exact h.same (callIndex_afterToxavDo s.av)

theorem run_ok {defaultSettings : AvCSettings} {ls : List (Toxav × AvApiCall)}
    (h : Run (Step defaultSettings) {} ls s) : s.Ok :=
  h.invariant ok_start fun _ _ _ hok hstep => hok.step hstep

/-! ## Misuse -/

section

variable {defaultSettings : AvCSettings}

theorem newToxavCall_taken {av : NewToxAv} {record : AvCall}
    (hrecord : av.friendToCall[f]? = some record) (a v : UInt32) (result callIndex : Int32)
    (r : ErrCall × NewToxAv × List AvAction) :
    newToxavCall av defaultSettings f a v result callIndex ≠ .ok r := by
  intro hok
  simp only [newToxavCall, hrecord, Checked.bind_eq_ok, Checked.assert_eq_ok] at hok
  obtain ⟨_, hnone, -⟩ := hok
  cases hnone

/-- An answer that returns is refused when there is no entry, and accepted when there is one. -/
theorem newToxavAnswer_cases {av : NewToxAv} {a v : UInt32} {result : Int32}
    {r : ErrAnswer × NewToxAv × List AvAction}
    (hok : newToxavAnswer av defaultSettings f a v result = .ok r) :
    (av.friendToCall[f]? = none ∧ r = (.friendNotCalling, av, [])) ∨
      ∃ record, av.friendToCall[f]? = some record ∧ result = 0 ∧ r.1 = .ok := by
  unfold newToxavAnswer at hok
  split at hok
  · next hf =>
    cases hok
    exact .inl ⟨hf, rfl⟩
  · next record hrecord =>
    simp only [Checked.bind_eq_ok, Checked.assert_eq_ok, Checked.pure_eq_ok,
      decide_eq_true_eq] at hok
    obtain ⟨_, hresult, rfl⟩ := hok
    exact .inr ⟨record, hrecord, hresult, rfl⟩

theorem newToxavAnswer_notCalling {av : NewToxAv} (hf : av.friendToCall[f]? = none)
    (a v : UInt32) (result : Int32) :
    newToxavAnswer av defaultSettings f a v result = .ok (.friendNotCalling, av, []) := by
  unfold newToxavAnswer
  rw [hf]

/-- No frame is refused: one that cannot be sent fails an assertion. -/
theorem newToxavSendAudioFrame_err {lg : Toxav} {av : NewToxAv} {frame : AudioFrame}
    {r : ErrSendFrame × NewToxAv × List AvOutput}
    (hok : newToxavSendAudioFrame lg av f frame = .ok r) : r.1 = .ok := by
  simp only [newToxavSendAudioFrame, Checked.bind_eq_ok, Checked.pure_eq_ok] at hok
  obtain ⟨call, -, _, -, _, -, _, -, _, -, _, -, rfl⟩ := hok
  rfl

theorem Ok.answersIncoming (h : s.Ok) {a v : UInt32} {result : Int32}
    (hpossible : s.Possible (.answer f a v result)) :
    s.AnswersIncoming defaultSettings f a v result := by
  intro av' actions hok
  rcases newToxavAnswer_cases hok with ⟨-, hr⟩ | ⟨record, hrecord, hresult, -⟩
  · cases hr
  · rw [h.friends_of_record hrecord]
    by_contra hcalls
    exact hpossible record hrecord hcalls hresult

theorem Ok.answer_reported_iff (h : s.Ok) {a v : UInt32} {result : Int32} :
    (s.AnswersIncoming defaultSettings f a v result ∧
        (s.friends f ≠ some .incoming →
          newToxavAnswer s.av defaultSettings f a v result = .ok (.friendNotCalling, s.av, []))) ↔
      s.friends f = none ∨ s.friends f = some .incoming := by
  constructor
  · intro hreported
    by_cases hincoming : s.friends f = some .incoming
    · exact .inr hincoming
    · rcases newToxavAnswer_cases (hreported.2 hincoming) with ⟨hf, -⟩ | ⟨_, -, -, hr⟩
      · exact .inl (h.friends_eq_none_iff.mpr hf)
      · cases hr
  · intro hchecked
    rcases hchecked with hnone | hincoming
    · have hnot : newToxavAnswer s.av defaultSettings f a v result =
          .ok (.friendNotCalling, s.av, []) :=
        newToxavAnswer_notCalling (h.friends_eq_none_iff.mp hnone) a v result
      refine ⟨?_, fun _ => hnot⟩
      intro av' actions hok
      rw [hnot] at hok
      cases hok
    · exact ⟨fun _ _ _ => hincoming, fun hne => absurd hincoming hne⟩

/-- In a state that is reached, misuse is reported exactly when it is checked for. -/
theorem Ok.misuseReported_iff (h : s.Ok) (lg : Toxav) (op : AvApiCall) :
    s.MisuseReported defaultSettings lg op ↔ s.MisuseChecked op := by
  cases op with
  | call f a v result callIndex =>
    constructor
    · intro hreported
      cases hf : s.av.friendToCall[f]? with
      | none => exact hf
      | some record =>
        have hok := hreported (by rw [hf]; rfl)
        exact absurd hok (newToxavCall_taken hf a v result callIndex _)
    · intro hnone hsome
      rw [show s.av.friendToCall[f]? = none from hnone] at hsome
      cases hsome
  | answer f a v result => exact h.answer_reported_iff
  | sendAudioFrame f frame =>
    constructor
    · intro hreported
      by_contra hnot
      cases newToxavSendAudioFrame_err (hreported hnot)
    · intro hcall hnot
      exact absurd hcall hnot
  | callback | afterToxavDo | sendVideoFrame => exact Iff.rfl

end

end CallHistory

/-- In every state of every run: an answer succeeds only for an unanswered incoming call, and
    misuse is reported exactly when it is answering a friend with which there is no call. -/
theorem misuse_reported_iff (defaultSettings : AvCSettings) (ls : List (Toxav × AvApiCall))
    (s : CallHistory) (hrun : Run (CallHistory.Step defaultSettings) {} ls s) :
    (∀ f a v result, s.Possible (.answer f a v result) →
      s.AnswersIncoming defaultSettings f a v result) ∧
    ∀ lg op, s.MisuseReported defaultSettings lg op ↔ s.MisuseChecked op := by
  have hok := CallHistory.run_ok hrun
  constructor
  · intro f a v result hpossible
    exact hok.answersIncoming hpossible
  · exact hok.misuseReported_iff

/-- A run of one call that returns. -/
theorem CallHistory.run_single (defaultSettings : AvCSettings) (lg : Toxav) (op : AvApiCall)
    {av : NewToxAv} {outputs : List AvOutput} (hpossible : ({} : CallHistory).Possible op)
    (hrun : op.run defaultSettings lg {} = .ok (av, outputs)) :
    Run (CallHistory.Step defaultSettings) {} [(lg, op)] (({} : CallHistory).after av op) := by
  refine .single ⟨hpossible, ?_⟩
  show (op.run defaultSettings lg {} >>= fun r => pure (({} : CallHistory).after r.1 op)) = _
  rw [hrun]
  rfl

/-- Friend 0 calls: the call may be answered, and answering friend 1 is reported. -/
theorem misuse_reported_invited : ∃ s, Run (CallHistory.Step {}) {}
      [(.oneByte, .callback (.invite 0 0))] s ∧ s.friends 0 = some .incoming ∧
    s.AnswersIncoming {} 0 48 0 0 ∧ s.MisuseReported {} .oneByte (.answer 1 48 0 (-1)) := by
  have hempty : ({} : NewToxAv).friendToCall[(0 : UInt32)]? = none :=
    Std.ExtTreeMap.getElem?_empty
  have hinvite : CB.callstateOnInvite {} 0 0 = _ :=
    callstateOnInvite_ok Std.ExtTreeMap.getElem?_empty hempty
  have hrun := CallHistory.run_single {} .oneByte (.callback (.invite 0 0)) rfl
    (by simp only [AvApiCall.run, AvCallback.run, avOutputs, hinvite, Checked.ok_bind]; rfl)
  have hmisuse := misuse_reported_iff {} _ _ hrun
  refine ⟨_, hrun, rfl, hmisuse.1 0 48 0 0 ?_, (hmisuse.2 _ _).mpr (.inl rfl)⟩
  intro record hrecord hne
  have hnew := (lookup_insertIfNew hempty 0 { index := 0 }).trans (if_pos rfl)
  cases hrecord.symm.trans hnew
  exact absurd rfl hne

/-- Friend 0 is called and has not answered. Calling it again, answering it, and sending audio to it
    or to friend 1 each end in a failed assertion. -/
theorem misuse_fatal : ∃ s, Run (CallHistory.Step {}) {} [(.oneByte, .call 0 48 0 0 0)] s ∧
    ¬ s.MisuseReported {} .oneByte (.call 0 48 0 0 1) ∧
    s.Possible (.answer 0 48 0 (-1)) ∧ ¬ s.MisuseReported {} .oneByte (.answer 0 48 0 (-1)) ∧
    ¬ s.MisuseReported {} .oneByte (.sendAudioFrame 0 ⟨[0], 1, 1, 8000⟩) ∧
    ¬ s.MisuseReported {} .oneByte (.sendAudioFrame 1 ⟨[0], 1, 1, 8000⟩) := by
  have hempty : ({} : NewToxAv).friendToCall[(0 : UInt32)]? = none :=
    Std.ExtTreeMap.getElem?_empty
  have hcall := newToxavCall_ok {} 48 0 0 hempty
  have hrun := CallHistory.run_single {} .oneByte (.call 0 48 0 0 0) (fun _ => rfl)
    (by simp only [AvApiCall.run, hcall, Checked.ok_bind]; rfl)
  have hok := CallHistory.run_ok hrun
  have hnew := (lookup_insertIfNew hempty 0
    { index := 0, settings := makeSettings {} 48 0 }).trans (if_pos rfl)
  refine ⟨_, hrun, ?_, ?_, ?_, ?_, ?_⟩
  · rw [hok.misuseReported_iff]
    intro hchecked
    cases hchecked.symm.trans hnew
  · intro _ _ _
    decide
  · rw [hok.misuseReported_iff]
    intro hchecked
    rcases hchecked with hnone | hincoming
    · cases hnone
    · cases hincoming
  · rw [hok.misuseReported_iff]
    rintro (hanswered | hstarted)
    · cases hanswered
    · cases hstarted
  · rw [hok.misuseReported_iff]
    rintro (hanswered | hstarted)
    · cases hanswered
    · cases hstarted

end Tox4j.Adapter
