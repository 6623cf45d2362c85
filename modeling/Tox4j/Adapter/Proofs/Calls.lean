import Mathlib.Tactic
import Tox4j.Adapter.Calls

/-!
# When the tables of calls stay inverse

As long as every step meets `AvSession.Keeps`, the tables have exactly the current calls. The
first step that does not ends in a failed assertion, or leaves two indices for one friend.
-/

namespace Tox4j.Adapter

open Tox4j.Misc

section

variable {av : NewToxAv} {f : UInt32} {callIdx : Int32} {call : AvCall}

theorem getCall_eq_ok : av.getCall f = .ok call ↔ av.friendToCall[f]? = some call := by
  unfold NewToxAv.getCall
  split
  · simp_all
  · simp_all

theorem getFriendNumber_eq_ok :
    av.getFriendNumber callIdx = .ok f ↔ av.callToFriend[callIdx]? = some f := by
  unfold NewToxAv.getFriendNumber
  split
  · simp_all
  · simp_all

theorem newToxavCall_ok (defaultSettings : AvCSettings) (a v : UInt32) (callIndex : Int32)
    (hf : av.friendToCall[f]? = none) :
    newToxavCall av defaultSettings f a v 0 callIndex =
      .ok (.ok, av.addCall f { index := callIndex, settings := makeSettings defaultSettings a v },
        [.call f (makeSettings defaultSettings a v)]) := by
  simp [newToxavCall, hf, Checked.assert, pure, Except.pure]

theorem newToxavAnswer_ok (defaultSettings : AvCSettings) (a v : UInt32)
    (hf : av.friendToCall[f]? = some call) :
    newToxavAnswer av defaultSettings f a v 0 =
      .ok (.ok, av.setCall f { call with settings := makeSettings defaultSettings a v },
        [.answer call.index (makeSettings defaultSettings a v)]) := by
  simp [newToxavAnswer, hf, Checked.assert, pure, Except.pure]

/-- The record of a new invitation has empty settings. -/
theorem callstateOnInvite_ok (hentry : av.callToFriend[callIdx]? = none)
    (hf : av.friendToCall[f]? = none) :
    CB.callstateOnInvite av callIdx f =
      .ok (av.addCall f { index := callIdx }, [.callEvent f false false]) := by
  have hcall : (av.addCall f { index := callIdx }).getCall f = .ok { index := callIdx } := by
    rw [getCall_eq_ok]
    exact (lookup_insertIfNew hf f _).trans (if_pos rfl)
  simp [CB.callstateOnInvite, hentry, hcall, CB.enabledMedia, Checked.assert, pure, Except.pure]

theorem callstateOnRinging_ok (hentry : av.callToFriend[callIdx]? = some f)
    (hf : av.friendToCall[f]? = some call) :
    CB.callstateOnRinging av callIdx =
      .ok (av.setCall f { call with state := .ringing }, [.callStateEvent f .ringing]) := by
  simp [CB.callstateOnRinging, getFriendNumber_eq_ok.mpr hentry, getCall_eq_ok.mpr hf, pure,
    Except.pure]

theorem callstateOnStart_ok {state : CallState} (hentry : av.callToFriend[callIdx]? = some f)
    (hf : av.friendToCall[f]? = some call)
    (hstate : CB.startedState call.settings.callType = .ok state) (hne : call.state ≠ state) :
    CB.callstateOnStart av callIdx =
      .ok (av.setCall f { call with state },
        [.prepareTransmission callIdx, .callStateEvent f state]) := by
  simp [CB.callstateOnStart, getFriendNumber_eq_ok.mpr hentry, getCall_eq_ok.mpr hf, hstate, hne,
    Checked.assert, pure, Except.pure]

/-- What a start that fails no assertion has found. -/
theorem callstateOnStart_inv {av' : NewToxAv} {actions : List AvAction}
    (hentry : av.callToFriend[callIdx]? = some f) (hf : av.friendToCall[f]? = some call)
    (hstart : CB.callstateOnStart av callIdx = .ok (av', actions)) :
    ∃ state, CB.startedState call.settings.callType = .ok state ∧ call.state ≠ state ∧
      actions = [.prepareTransmission callIdx, .callStateEvent f state] := by
  simp only [CB.callstateOnStart, getFriendNumber_eq_ok.mpr hentry, getCall_eq_ok.mpr hf,
    Checked.ok_bind, Checked.bind_eq_ok, Checked.assert_eq_ok, Checked.pure_eq_ok] at hstart
  obtain ⟨state, hstate, _, hne, heq⟩ := hstart
  cases heq
  exact ⟨state, hstate, by simpa using hne, rfl⟩

end

/-- The sessions whose tables have exactly the current calls. -/
structure AvSession.Ok (s : AvSession) : Prop where
  mirrors : Mirrors s.av.callToFriend s.av.friendToCall AvCall.index
  calls : ∀ callIdx, s.av.callToFriend[callIdx]? = s.current callIdx

namespace AvSession

variable {s : AvSession}

theorem ok_start : ({} : AvSession).Ok where
  mirrors := Mirrors.empty
  calls _ := by simp

theorem Ok.kept (h : s.Ok) : TablesKept (.ok s) := by
  refine ⟨s, rfl, h.mirrors, ?_⟩
  intro callIdx hnone hmentions
  have hno : s.av.callToFriend[callIdx]? = none := (h.calls callIdx).trans hnone
  rcases hmentions with hsome | hrecord
  · rw [hno] at hsome
    cases hsome
  · obtain ⟨f, call, hcall, hidx⟩ := hrecord
    have hentry := h.mirrors.entry hcall
    rw [hidx, hno] at hentry
    cases hentry

/-- A new call under an index that is free, with a friend that has no call. -/
theorem Ok.addCall (h : s.Ok) {f : UInt32} (call : AvCall)
    (hfree : s.current call.index = none) (hf : s.av.friendToCall[f]? = none) :
    ({ s with av := s.av.addCall f call }.setCurrent call.index (some f)).Ok where
  mirrors := h.mirrors.insert ((h.calls _).trans hfree) hf
  calls callIdx := by
    show (s.av.callToFriend.insert call.index f)[callIdx]? =
      if callIdx = call.index then some f else s.current callIdx
    rw [lookup_insert, h.calls]
    by_cases heq : call.index = callIdx
    · rw [if_pos heq, if_pos heq.symm]
    · rw [if_neg heq, if_neg (Ne.symm heq)]

/-- A change of a call that leaves its index alone. -/
theorem Ok.setCall (h : s.Ok) {f : UInt32} {old : AvCall} (call : AvCall)
    (hf : s.av.friendToCall[f]? = some old) (hidx : call.index = old.index) :
    ({ s with av := s.av.setCall f call } : AvSession).Ok where
  mirrors := h.mirrors.replace hf hidx
  calls := h.calls

/-- A current call has an entry in both tables. -/
theorem Ok.lookup (h : s.Ok) {callIdx : Int32} (hcur : (s.current callIdx).isSome) :
    ∃ f call, s.av.callToFriend[callIdx]? = some f ∧ s.av.friendToCall[f]? = some call := by
  obtain ⟨f, hf⟩ := Option.isSome_iff_exists.mp hcur
  have hentry : s.av.callToFriend[callIdx]? = some f := (h.calls callIdx).trans hf
  obtain ⟨call, hcall, _⟩ := h.mirrors.record hentry
  exact ⟨f, call, hentry, hcall⟩

theorem not_kept_error (text : String) : ¬ TablesKept (.error text) := by
  intro h
  obtain ⟨s, hs, _⟩ := h
  cases hs

section

variable {defaultSettings : AvCSettings}

theorem Ok.run_call (h : s.Ok) {f : UInt32} (a v : UInt32) {callIndex : Int32}
    (hfree : s.current callIndex = none) (hf : s.av.friendToCall[f]? = none) :
    ∃ s', s.run defaultSettings (.call f a v 0 callIndex) = .ok s' ∧ s'.Ok := by
  have hok := h.addCall ⟨callIndex, makeSettings defaultSettings a v, .ended, false, false⟩
    hfree hf
  refine ⟨_, ?_, hok⟩
  simp only [run, newToxavCall_ok defaultSettings a v callIndex hf, Checked.ok_bind]
  rfl

theorem run_call_error {f a v : UInt32} {result callIndex : Int32}
    (h : ¬ (s.av.friendToCall[f]? = none ∧ result = 0)) :
    ∃ text, s.run defaultSettings (.call f a v result callIndex) = .error text := by
  cases hf : s.av.friendToCall[f]? with
  | none =>
    have hresult : result ≠ 0 := fun heq => h ⟨hf, heq⟩
    exact ⟨_, by simp [run, newToxavCall, hf, hresult, Checked.assert]; rfl⟩
  | some call => exact ⟨_, by simp [run, newToxavCall, hf, Checked.assert]; rfl⟩

theorem Ok.run_answer (h : s.Ok) {f : UInt32} (a v : UInt32) {result : Int32}
    (hresult : s.av.friendToCall[f]?.isSome → result = 0) :
    ∃ s', s.run defaultSettings (.answer f a v result) = .ok s' ∧ s'.Ok := by
  cases hf : s.av.friendToCall[f]? with
  | none =>
    refine ⟨s, ?_, h⟩
    simp [run, newToxavAnswer, hf, pure, Except.pure]
  | some call =>
    have hzero : result = 0 := hresult (by rw [hf]; rfl)
    have hok := h.setCall { call with settings := makeSettings defaultSettings a v }
      hf rfl
    refine ⟨_, ?_, hok⟩
    simp only [run, hzero, newToxavAnswer_ok defaultSettings a v hf, Checked.ok_bind]
    rfl

theorem run_answer_error {f a v : UInt32} {result : Int32}
    (h : ¬ (s.av.friendToCall[f]?.isSome → result = 0)) :
    ∃ text, s.run defaultSettings (.answer f a v result) = .error text := by
  obtain ⟨hsome, hresult⟩ := Classical.not_imp.mp h
  obtain ⟨call, hf⟩ := Option.isSome_iff_exists.mp hsome
  exact ⟨_, by simp [run, newToxavAnswer, hf, hresult, Checked.assert]; rfl⟩

theorem Ok.run_invite (h : s.Ok) {callIdx : Int32} {peerId : UInt32}
    (hfree : s.current callIdx = none) (hf : s.av.friendToCall[peerId]? = none) :
    ∃ s', s.run defaultSettings (.invite callIdx peerId) = .ok s' ∧ s'.Ok := by
  have hok := h.addCall { index := callIdx } hfree hf
  refine ⟨_, ?_, hok⟩
  simp only [run, callstateOnInvite_ok ((h.calls _).trans hfree) hf, Checked.ok_bind]
  rfl

/-- An invitation by a friend that has an entry already. -/
theorem Ok.run_invite_taken (h : s.Ok) {callIdx : Int32} {peerId : UInt32} {call : AvCall}
    (hfree : s.current callIdx = none) (hf : s.av.friendToCall[peerId]? = some call) :
    ¬ TablesKept (s.run defaultSettings (.invite callIdx peerId)) := by
  intro hkept
  obtain ⟨s', hrun, hmirrors, _⟩ := hkept
  have hidx : call.index ≠ callIdx := by
    intro heq
    have hentry := h.mirrors.entry hf
    rw [heq, h.calls, hfree] at hentry
    cases hentry
  simp only [run, CB.callstateOnInvite, Checked.bind_eq_ok, Checked.pure_eq_ok] at hrun
  obtain ⟨_, ⟨_, _, _, _, _, _, rfl⟩, rfl⟩ := hrun
  exact Mirrors.not_of_taken hf hidx hmirrors

theorem Ok.run_ringing (h : s.Ok) {callIdx : Int32} (hcur : (s.current callIdx).isSome) :
    ∃ s', s.run defaultSettings (.ringing callIdx) = .ok s' ∧ s'.Ok := by
  obtain ⟨f, call, hentry, hf⟩ := h.lookup hcur
  have hok := h.setCall { call with state := .ringing } hf rfl
  refine ⟨_, ?_, hok⟩
  simp only [run, callstateOnRinging_ok hentry hf, Checked.ok_bind]
  rfl

theorem Ok.run_start (h : s.Ok) {callIdx : Int32} (hcur : (s.current callIdx).isSome)
    (hkeeps : s.Keeps (.start callIdx)) :
    ∃ s', s.run defaultSettings (.start callIdx) = .ok s' ∧ s'.Ok := by
  obtain ⟨f, call, hentry, hf⟩ := h.lookup hcur
  obtain ⟨state, hstate, hne⟩ := hkeeps f call hentry hf
  have hok := h.setCall { call with state } hf rfl
  refine ⟨_, ?_, hok⟩
  simp only [run, callstateOnStart_ok hentry hf hstate hne, Checked.ok_bind]
  rfl

theorem run_start_keeps {callIdx : Int32} {s' : AvSession}
    (hrun : s.run defaultSettings (.start callIdx) = .ok s') : s.Keeps (.start callIdx) := by
  intro f call hentry hf
  obtain ⟨result, hstart, _⟩ := Checked.bind_eq_ok.mp hrun
  obtain ⟨state, hstate, hne, _⟩ := callstateOnStart_inv hentry hf hstart
  exact ⟨state, hstate, hne⟩

theorem run_ended (how : CallEnd) (callIdx : Int32) :
    s.run defaultSettings (.ended how callIdx) = .error "false" := by
  cases how <;> rfl

end

theorem Ok.run_keeps (h : s.Ok) {l : AvLabel} (hpossible : s.Possible l) (hkeeps : s.Keeps l)
    (defaultSettings : AvCSettings) : ∃ s', s.run defaultSettings l = .ok s' ∧ s'.Ok := by
  cases l with
  | call f a v result callIndex =>
    obtain ⟨hf, rfl⟩ := hkeeps
    exact h.run_call a v (hpossible rfl) hf
  | answer f a v result => exact h.run_answer a v hkeeps
  | invite callIdx peerId => exact h.run_invite hpossible hkeeps
  | ringing callIdx => exact h.run_ringing hpossible
  | start callIdx => exact h.run_start hpossible hkeeps
  | ended how callIdx => exact hkeeps.elim

theorem Ok.keeps_of_kept (h : s.Ok) {l : AvLabel} (hpossible : s.Possible l)
    {defaultSettings : AvCSettings} (hkept : TablesKept (s.run defaultSettings l)) :
    s.Keeps l := by
  by_contra hnot
  have herror : ∀ text, s.run defaultSettings l ≠ .error text := by
    intro text heq
    rw [heq] at hkept
    exact not_kept_error text hkept
  cases l with
  | call f a v result callIndex =>
    obtain ⟨text, heq⟩ := run_call_error hnot
    exact herror text heq
  | answer f a v result =>
    obtain ⟨text, heq⟩ := run_answer_error hnot
    exact herror text heq
  | invite callIdx peerId =>
    obtain ⟨call, hf⟩ := Option.ne_none_iff_exists'.mp hnot
    exact h.run_invite_taken hpossible hf hkept
  | ringing callIdx => exact hnot trivial
  | start callIdx =>
    obtain ⟨s', hrun, _⟩ := hkept
    exact hnot (run_start_keeps hrun)
  | ended how callIdx => exact herror _ (run_ended how callIdx)

end AvSession

section

variable {defaultSettings : AvCSettings} {x x' : Checked AvSession} {l : AvLabel}

/-- The state of the process is a session whose tables have exactly the current calls. -/
def SessionOk (x : Checked AvSession) : Prop := ∃ s, x = .ok s ∧ s.Ok

theorem SessionOk.kept (h : SessionOk x) : TablesKept x := by
  obtain ⟨s, rfl, hok⟩ := h
  exact hok.kept

theorem SessionOk.keeps (h : SessionOk x) (hstep : AvStepKeeps defaultSettings x l x') :
    SessionOk x' := by
  obtain ⟨s, rfl, hok⟩ := h
  obtain ⟨hkeeps, s₁, heq, hpossible, rfl⟩ := hstep
  cases heq
  exact hok.run_keeps hpossible (hkeeps s rfl) defaultSettings

/-- A step meets the condition exactly when the tables are right afterwards. -/
theorem SessionOk.step_iff (h : SessionOk x) :
    AvStepKeeps defaultSettings x l x' ↔ AvStepKept defaultSettings x l x' := by
  constructor
  · intro hstep
    exact ⟨hstep.2, (h.keeps hstep).kept⟩
  · intro hstep
    refine ⟨?_, hstep.1⟩
    obtain ⟨s, rfl, hok⟩ := h
    obtain ⟨⟨s₁, heq, hpossible, rfl⟩, hkept⟩ := hstep
    cases heq
    intro s₁ heq
    cases heq
    exact hok.keeps_of_kept hpossible hkept

theorem run_sessionOk {ls : List AvLabel} (h : Run (AvStepKeeps defaultSettings) (.ok {}) ls x) :
    SessionOk x :=
  h.invariant ⟨{}, rfl, AvSession.ok_start⟩ (fun _ _ _ hok hstep => hok.keeps hstep)

end

/-- The tables are inverse and have no call that is over, in every state of a run, exactly when
    all its steps meet the condition. -/
theorem call_tables_kept_iff (defaultSettings : AvCSettings) (ls : List AvLabel)
    (x : Checked AvSession) :
    Run (AvStepKeeps defaultSettings) (.ok {}) ls x ↔
      Run (AvStepKept defaultSettings) (.ok {}) ls x := by
  constructor
  · intro h
    induction h with
    | nil => exact .nil
    | snoc hrun hstep ih => exact .snoc ih ((run_sessionOk hrun).step_iff.mp hstep)
  · intro h
    induction h with
    | nil => exact .nil
    | snoc _ hstep ih => exact .snoc ih ((run_sessionOk ih).step_iff.mpr hstep)

/-- Friend 0 is called under index 0. -/
theorem run_first_call :
    ∃ s, Run (AvStepKeeps { callType := .audio }) (.ok {}) [.call 0 48 0 0 0] (.ok s) ∧ s.Ok ∧
      s.current = (fun i => if i = 0 then some 0 else none) ∧
      s.av.friendToCall[(0 : UInt32)]? =
        some { index := 0, settings := makeSettings { callType := .audio } 48 0 } := by
  have hempty : ({} : AvSession).av.friendToCall[(0 : UInt32)]? = none := by simp
  have hok := AvSession.ok_start.addCall
    ⟨0, makeSettings { callType := .audio } 48 0, .ended, false, false⟩ rfl hempty
  refine ⟨_, .single ⟨?_, {}, rfl, fun _ => rfl, ?_⟩, hok, rfl, ?_⟩
  · intro s heq
    cases heq
    exact ⟨hempty, rfl⟩
  · simp [AvSession.run, newToxavCall, Checked.assert, pure, Except.pure]
  · exact (lookup_insertIfNew hempty 0 _).trans (if_pos rfl)

/-- Both friends call each other at the same time: the index of the second call leads to the
    friend, but the record of the friend has the index of the first. And when a call ends, the
    process does. -/
theorem call_tables_not_kept :
    (∃ x, Run (AvStep { callType := .audio }) (.ok {}) [.call 0 48 0 0 0, .invite 1 0] x ∧
        ¬ TablesKept x) ∧
      ∀ how, ∃ x, Run (AvStep { callType := .audio }) (.ok {}) [.call 0 48 0 0 0, .ended how 0] x ∧
        ¬ TablesKept x := by
  obtain ⟨s, hrun, hok, hcurrent, hcall⟩ := run_first_call
  have hfirst : Run (AvStep { callType := .audio }) (.ok {}) [.call 0 48 0 0 0] (.ok s) :=
    hrun.mono fun _ _ _ hstep => hstep.2
  have hfree : s.current 1 = none := by rw [hcurrent]; rfl
  have htaken : (s.current 0).isSome := by rw [hcurrent]; rfl
  constructor
  · exact ⟨_, .snoc hfirst ⟨s, rfl, hfree, rfl⟩, hok.run_invite_taken hfree hcall⟩
  · intro how
    refine ⟨_, .snoc hfirst ⟨s, rfl, htaken, rfl⟩, ?_⟩
    rw [AvSession.run_ended]
    exact AvSession.not_kept_error _

end Tox4j.Adapter
