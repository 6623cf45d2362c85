import Tox4j.Adapter.PauseRule
import Tox4j.Adapter.Proofs.FileApi

/-!
# When the adapter follows the pause rule

No control of the client changes a transfer, an ACCEPT of the friend makes it run whoever has it
paused, and `cause` is only ever read. So the rule is followed as long as the client of the
receiving side does nothing but pause, and on the sending side between the friend's first ACCEPT
and the next PAUSE.
-/

namespace Tox4j.Adapter

open Tox4j.Misc

section

variable {lg : Legacy} {tox : NewTox} {f : UInt32} {receiving : Bool} {n : UInt8}
  {t : FileTransfer} {calls : List (Legacy × PauseCall)}

theorem newToxFileControl_online {number : UInt32} (hon : lg.Online f)
    (ht : tox.getTransfer f number = some t) (control : FileControl) :
    newToxFileControl lg tox f number control = do
      let (error, sent) ← applyControl lg f number t control
      return (error, tox, sent) := by
  have hconnection : newToxFriendGetConnectionStatus lg f = .ok .udp4 := by
    simp only [newToxFriendGetConnectionStatus, hon.1, hon.2]
    rfl
  simp only [newToxFileControl, hon.1, hconnection, ht]
  rfl

theorem newFileNumber_transferNumber (receiving : Bool) (n : UInt8) :
    FileTransfer.newFileNumber ((if receiving then (0 : UInt8) else 1) != 0) n =
      transferNumber receiving n := by
  cases receiving <;> rfl

namespace PauseCall

theorem run_pause_paused (hon : lg.Online f)
    (ht : tox.getTransfer f (transferNumber receiving n) = some t) (hstate : t.state = .paused) :
    pause.run lg tox f receiving n = .ok (some .alreadyPaused, tox) := by
  simp only [run, newToxFileControl_online hon ht, applyControl, hstate]
  rfl

theorem run_resume_paused (hon : lg.Online f)
    (ht : tox.getTransfer f (transferNumber receiving n) = some t) (hstate : t.state = .paused) :
    resume.run lg tox f receiving n =
      .ok (some (if t.cause = .friend then .denied else .ok), tox) := by
  simp only [run, newToxFileControl_online hon ht, applyControl, hstate]
  by_cases hcause : t.cause = .friend
  · simp only [hcause]
    rfl
  · simp only [hcause]
    rfl

theorem run_resume_running (hon : lg.Online f)
    (ht : tox.getTransfer f (transferNumber receiving n) = some t) (hstate : t.state = .running) :
    resume.run lg tox f receiving n = .ok (some .notPaused, tox) := by
  simp only [run, newToxFileControl_online hon ht, applyControl, hstate]
  rfl

/-- A control of the client leaves the transfer as it is. -/
theorem run_client {call : PauseCall} {answer : Option ErrFileControl} {tox' : NewTox}
    (hcall : call = .pause ∨ call = .resume)
    (h : call.run lg tox f receiving n = .ok (answer, tox')) : tox' = tox := by
  rcases hcall with rfl | rfl
  · simp only [run, Checked.bind_eq_ok, Checked.pure_eq_ok, Prod.exists, Prod.mk.injEq] at h
    obtain ⟨error, mid, sent, hcontrol, -, rfl⟩ := h
    exact (newToxFileControl_cases hcontrol).1
  · simp only [run, Checked.bind_eq_ok, Checked.pure_eq_ok, Prod.exists, Prod.mk.injEq] at h
    obtain ⟨error, mid, sent, hcontrol, -, rfl⟩ := h
    exact (newToxFileControl_cases hcontrol).1

theorem run_friendAccept (ht : tox.getTransfer f (transferNumber receiving n) = some t) :
    friendAccept.run lg tox f receiving n =
      .ok (none, tox.setTransfer f (transferNumber receiving n) { t with state := .running }) := by
  simp only [run, CB.fileControl, newFileNumber_transferNumber, ht]
  rfl

/-- The assertion for a PAUSE of the friend fails. -/
theorem run_friendPause (ht : tox.getTransfer f (transferNumber receiving n) = some t) :
    friendPause.run lg tox f receiving n = .error "false" := by
  simp only [run, CB.fileControl, newFileNumber_transferNumber, ht]
  rfl

end PauseCall

/-- On the receiving side, before anything else than a PAUSE of the client. -/
theorem follows_receiving (hon : ∀ l ∈ calls, l.1.Online f)
    (ht : tox.getTransfer f (transferNumber receiving n) = some t) (hstate : t.state = .paused) :
    Follows f receiving n ⟨true, false⟩ tox calls ↔ ∀ l ∈ calls, l.2 = .pause := by
  induction calls with
  | nil => simp [Follows]
  | cons l calls ih =>
    obtain ⟨lg, call⟩ := l
    simp only [List.mem_cons, forall_eq_or_imp] at hon ⊢
    rw [← ih hon.2]
    constructor
    · intro h
      obtain ⟨tox', t', hrun, ht', hrecorded, hrest⟩ := h
      cases call with
      | pause =>
        obtain rfl := PauseCall.run_client (.inl rfl) hrun
        exact ⟨rfl, hrest⟩
      | resume =>
        obtain rfl := PauseCall.run_client (.inr rfl) hrun
        rw [ht, Option.some.injEq] at ht'
        subst ht'
        exact absurd (hrecorded.mp hstate) (by decide)
      | friendAccept =>
        rw [PauseCall.run_friendAccept ht] at hrun
        cases hrun
        rw [NewTox.getTransfer_setTransfer_self, Option.some.injEq] at ht'
        subst ht'
        have hpaused := hrecorded.mpr rfl
        cases hpaused
      | friendPause =>
        rw [PauseCall.run_friendPause ht] at hrun
        cases hrun
    · intro h
      obtain ⟨rfl, hrest⟩ := h
      exact ⟨tox, t, PauseCall.run_pause_paused hon.1 ht hstate, ht, by simp [hstate]; rfl, hrest⟩

/-- On the sending side, once the friend has accepted. -/
theorem follows_running (hon : ∀ l ∈ calls, l.1.Online f)
    (ht : tox.getTransfer f (transferNumber receiving n) = some t) (hstate : t.state = .running) :
    Follows f receiving n ⟨false, false⟩ tox calls ↔
      ∀ l ∈ calls, l.2 = .friendAccept ∨ l.2 = .resume := by
  induction calls generalizing tox t with
  | nil => simp [Follows]
  | cons l calls ih =>
    obtain ⟨lg, call⟩ := l
    simp only [List.mem_cons, forall_eq_or_imp] at hon ⊢
    constructor
    · intro h
      obtain ⟨tox', t', hrun, ht', hrecorded, hrest⟩ := h
      cases call with
      | pause =>
        obtain rfl := PauseCall.run_client (.inl rfl) hrun
        rw [ht, Option.some.injEq] at ht'
        subst ht'
        have hpaused := hrecorded.mpr rfl
        rw [hstate] at hpaused
        cases hpaused
      | resume =>
        obtain rfl := PauseCall.run_client (.inr rfl) hrun
        exact ⟨.inr rfl, (ih hon.2 ht hstate).mp hrest⟩
      | friendAccept =>
        rw [PauseCall.run_friendAccept ht] at hrun
        cases hrun
        exact ⟨.inl rfl, (ih hon.2 (NewTox.getTransfer_setTransfer_self ..) rfl).mp hrest⟩
      | friendPause =>
        rw [PauseCall.run_friendPause ht] at hrun
        cases hrun
    · intro h
      obtain ⟨hcall | hcall, hrest⟩ := h
      · subst hcall
        refine ⟨_, _, PauseCall.run_friendAccept ht, NewTox.getTransfer_setTransfer_self .., ?_, ?_⟩
        · show TransferState.running = .paused ↔ false = true
          decide
        · exact (ih hon.2 (NewTox.getTransfer_setTransfer_self ..) rfl).mpr hrest
      · subst hcall
        refine ⟨tox, t, PauseCall.run_resume_running hon.1 ht hstate, ht, ?_, ?_⟩
        · rw [hstate]
          decide
        · exact (ih hon.2 ht hstate).mpr hrest

/-- On the sending side, from the start. -/
theorem follows_of_kept (hon : ∀ l ∈ calls, l.1.Online f)
    (ht : tox.getTransfer f (transferNumber receiving n) = some t)
    (hkept : PauseRuleKept false (calls.map Prod.snd)) :
    Follows f receiving n ⟨false, true⟩ tox calls := by
  cases calls with
  | nil => trivial
  | cons l calls =>
    obtain ⟨lg, call⟩ := l
    simp only [List.mem_cons, forall_eq_or_imp] at hon
    simp only [List.map_cons, PauseRuleKept, List.forall_mem_map] at hkept
    obtain ⟨rfl, hrest⟩ := hkept
    have hself := NewTox.getTransfer_setTransfer_self tox f (transferNumber receiving n)
      { t with state := .running }
    refine ⟨_, _, PauseCall.run_friendAccept ht, hself, ?_, ?_⟩
    · show TransferState.running = .paused ↔ false = true
      decide
    · exact (follows_running hon.2 hself rfl).mpr hrest

/-- On the sending side, as long as the friend did not accept: what a RESUME is answered depends
    on `cause`. -/
theorem kept_of_follows (hon : ∀ l ∈ calls, l.1.Online f)
    (ht : tox.getTransfer f (transferNumber receiving n) = some t) (hstate : t.state = .paused)
    (hcause : t.cause = .initial)
    (h : Follows f receiving n ⟨false, true⟩ tox calls) :
    PauseRuleKept false (calls.map Prod.snd) := by
  cases calls with
  | nil => trivial
  | cons l calls =>
    obtain ⟨lg, call⟩ := l
    simp only [List.mem_cons, forall_eq_or_imp] at hon
    simp only [List.map_cons, PauseRuleKept, List.forall_mem_map]
    obtain ⟨tox', t', hrun, ht', hrecorded, hrest⟩ := h
    cases call with
    | pause =>
      rw [PauseCall.run_pause_paused hon.1 ht hstate] at hrun
      cases hrun
    | resume =>
      rw [PauseCall.run_resume_paused hon.1 ht hstate, hcause] at hrun
      cases hrun
    | friendAccept =>
      rw [PauseCall.run_friendAccept ht] at hrun
      cases hrun
      have hself := NewTox.getTransfer_setTransfer_self tox f (transferNumber receiving n)
        { t with state := .running }
      exact ⟨rfl, (follows_running hon.2 hself rfl).mp hrest⟩
    | friendPause =>
      rw [PauseCall.run_friendPause ht] at hrun
      cases hrun

end

/-- The adapter follows the rule on a new transfer, whatever its uninitialised `cause` holds,
    exactly when the client of the receiving side does nothing but pause, and when on the sending
    side the friend accepts first and the client then only resumes. -/
theorem pause_rule_iff {tox : NewTox} {f : UInt32} {receiving : Bool} {n : UInt8} (size : UInt64)
    {calls : List (Legacy × PauseCall)}
    (hnew : tox.getTransfer f (transferNumber receiving n) = none)
    (hon : ∀ l ∈ calls, l.1.Online f) :
    (∀ cause, ∃ tox', tox.addTransfer f (transferNumber receiving n) size cause = .ok tox' ∧
        Follows f receiving n (.start receiving) tox' calls) ↔
      PauseRuleKept receiving (calls.map Prod.snd) := by
  have hadd : ∀ cause, tox.addTransfer f (transferNumber receiving n) size cause =
      .ok (tox.setTransfer f (transferNumber receiving n) { cause, fileSize := size }) :=
    fun cause => NewTox.addTransfer_eq_ok.mpr ⟨hnew, rfl⟩
  have hstart : ∀ cause, (tox.setTransfer f (transferNumber receiving n)
      { cause, fileSize := size }).getTransfer f (transferNumber receiving n) =
        some { cause, fileSize := size } := fun cause => NewTox.getTransfer_setTransfer_self ..
  simp only [hadd, Except.ok.injEq, exists_eq_left']
  cases receiving with
  | true =>
    simp only [PauseRuleKept, List.forall_mem_map]
    constructor
    · intro h
      exact (follows_receiving hon (hstart .initial) rfl).mp (h .initial)
    · intro h cause
      exact (follows_receiving hon (hstart cause) rfl).mpr h
  | false =>
    constructor
    · intro h
      exact kept_of_follows hon (hstart .initial) rfl rfl (h .initial)
    · intro h cause
      exact follows_of_kept hon (hstart cause) h

theorem oneFriend_online : Legacy.oneFriend.Online 0 := ⟨rfl, rfl⟩

/-- The friend accepts a file, and the client resumes what is running already. -/
theorem pause_rule_accepted : ∃ tox',
    ({} : NewTox).addTransfer 0 (transferNumber false 0) 10 .initial = .ok tox' ∧
      Follows 0 false 0 (.start false) tox'
        [(.oneFriend, .friendAccept), (.oneFriend, .resume)] := by
  refine (pause_rule_iff 10 (NewTox.getTransfer_empty ..) ?_).mpr ?_ .initial
  · simp [oneFriend_online]
  · exact ⟨rfl, by simp⟩

/-- The client accepts an incoming file with RESUME: the transfer stays recorded as paused. -/
theorem resume_not_recorded : ¬ ∀ cause, ∃ tox',
    ({} : NewTox).addTransfer 0 (transferNumber true 0) 10 cause = .ok tox' ∧
      Follows 0 true 0 (.start true) tox' [(.oneFriend, .resume)] := by
  intro h
  obtain ⟨tox', hadd, hfollows⟩ := h .initial
  obtain ⟨-, rfl⟩ := NewTox.addTransfer_eq_ok.mp hadd
  have hpause := (follows_receiving (by simp [oneFriend_online])
    (NewTox.getTransfer_setTransfer_self ..) rfl).mp hfollows
  simp at hpause

end Tox4j.Adapter
