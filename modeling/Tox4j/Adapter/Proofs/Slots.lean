import Mathlib.Tactic
import Tox4j.Adapter.Proofs.Outgoing
import Tox4j.Adapter.Slots

/-!
# What a friend can make fail

The table of the adapter has an entry for every slot in use, so most callbacks find theirs. Two
histories break this: a FINISHED of this side frees a slot for receiving and leaves its entry, and a
FINISHED of the friend may take out the entry of a slot that stays in use. PAUSE, KILL and
RESUME_BROKEN always fail.
-/

namespace Tox4j.Adapter

open Tox4j.Misc

/-- The table has an entry for the slot. -/
def Receiving.hasEntry : Receiving → Bool
  | .free leftover => leftover
  | .used _ finished => !finished

/-- The table has an entry for a slot for sending when it is in use, and for a slot for receiving
    until the friend sends FINISHED. -/
structure FileHost.Ok (s : FileHost) : Prop where
  numbered : s.tox.Numbered
  sending : ∀ f (n : UInt8), (s.tox.getTransfer f n.toUInt32).isSome = s.sending f n
  receiving : ∀ f (n : UInt8),
    (s.tox.getTransfer f (n.toUInt32 ||| 0x100)).isSome = (s.receiving f n).hasEntry

section

variable {lg : Legacy} {tox tox' : NewTox} {call : Call} {actions : List Action} {f num : UInt32}

/-- An assignment to an entry that is there. -/
theorem isSome_setTransfer {f' num' : UInt32} {t t' : FileTransfer}
    (ht : tox.getTransfer f' num' = some t) (f num : UInt32) :
    ((tox.setTransfer f' num' t').getTransfer f num).isSome =
      (tox.getTransfer f num).isSome := by
  rw [NewTox.getTransfer_setTransfer]
  split
  · next hkey =>
    obtain ⟨rfl, rfl⟩ := hkey
    rw [ht]
    rfl
  · rfl

/-- An entry is there after a call when it is given to a new transfer, or was there before and the
    friend does not end it. -/
theorem Call.Effect.isSome_eq (h : call.Effect lg tox tox' actions) (f num : UInt32) :
    (tox'.getTransfer f num).isSome =
      if actions.any (·.allocates f num) then true
      else if call.finishes f num then false
      else (tox.getTransfer f num).isSome := by
  -- a call that gives no number away and is no FINISHED
  have hkeeps : actions.any (·.allocates f num) = false → call.finishes f num = false →
      (tox'.getTransfer f num).isSome = (tox.getTransfer f num).isSome →
      (tox'.getTransfer f num).isSome =
        if actions.any (·.allocates f num) then true
        else if call.finishes f num then false
        else (tox.getTransfer f num).isSome := by
    intro hnone hends heq
    simp [hnone, hends, heq]
  cases h with
  | unchanged hclient hcontrols =>
    refine hkeeps ?_ ?_ rfl
    · rw [List.any_eq_false]
      intro a ha
      obtain ⟨_, _, _, _, -, rfl⟩ := hcontrols a ha
      simp [Action.allocates]
    · cases call with
      | fileSend | fileSendChunk | fileControl => rfl
      | callback | afterToxDo => exact hclient.elim
  | @opened f' n' =>
    rw [NewTox.getTransfer_setTransfer]
    by_cases hkey : f' = f ∧ n'.toUInt32 = num
    · simp [Action.allocates, hkey]
    · simp [Action.allocates, hkey, Call.finishes]
  | @offered f' n' =>
    rw [NewTox.getTransfer_setTransfer]
    by_cases hkey : f' = f ∧ n'.toUInt32 ||| 0x100 = num
    · simp [Action.allocates, hkey]
    · simp [Action.allocates, hkey, Call.finishes]
  | sent haccepted =>
    refine hkeeps ?_ rfl (isSome_setTransfer haccepted.transfer f num)
    split <;> simp [Action.allocates]
  | received ht =>
    refine hkeeps ?_ rfl (isSome_setTransfer ht f num)
    split <;> simp [Action.allocates]
  | accepted ht => exact hkeeps rfl rfl (isSome_setTransfer ht f num)
  | @finished f' rs n' t ht =>
    rw [NewTox.getTransfer_eraseTransfer]
    by_cases hkey : f' = f ∧ FileTransfer.newFileNumber (rs != 0) n' = num
    · simp [Action.allocates, Call.finishes, hkey]
    · simp [Action.allocates, Call.finishes, hkey]
  | asked =>
    refine hkeeps ?_ rfl ?_
    · rw [List.any_eq_false]
      intro a ha
      rcases mem_afterToxDo ha with ⟨_, rfl⟩ | ⟨_, _, _, _, _, rfl⟩
      · simp [Action.allocates]
      · simp [Action.allocates]
    · rw [getTransfer_afterToxDo, Option.isSome_map]

/-- A call that sends FINISHED for an incoming transfer has found its entry. -/
theorem Call.Effect.isSome_of_finished (h : call.Effect lg tox tox' actions)
    (hnumbered : tox.Numbered) {n : UInt8} (hmem : .sendControl f true n .finished ∈ actions) :
    (tox.getTransfer f (n.toUInt32 ||| 0x100)).isSome = true := by
  cases h with
  | unchanged hclient hcontrols =>
    obtain ⟨_, _, _, control, hcontrol, heq⟩ := hcontrols _ hmem
    cases heq
    rcases hcontrol with hcontrol | hcontrol
    · cases hcontrol
    · cases hcontrol
  | opened | offered | accepted | finished => simp at hmem
  | @sent f' num' data t haccepted =>
    have ht := haccepted.transfer
    obtain ⟨receiveSend, m, rfl⟩ := hnumbered f' num' t ht
    rw [List.mem_cons, List.mem_ite_nil_right, List.mem_singleton,
      FileTransfer.sendReceive_newFileNumber, FileTransfer.oldFileNumber_newFileNumber] at hmem
    rcases hmem with hdata | ⟨-, hcontrol⟩
    · cases hdata
    · rw [Action.sendControl.injEq] at hcontrol
      obtain ⟨rfl, hdirection, rfl, -⟩ := hcontrol
      obtain rfl : receiveSend = false := (Bool.not_eq_true' _).mp hdirection.symm
      rw [FileTransfer.newFileNumber_false] at ht
      exact Option.isSome_of_eq_some ht
  | @received f' n' data t ht =>
    rw [List.mem_cons, List.mem_ite_nil_right, List.mem_singleton] at hmem
    rcases hmem with hevent | ⟨-, hcontrol⟩
    · cases hevent
    · cases hcontrol
      exact Option.isSome_of_eq_some ht
  | asked =>
    rcases mem_afterToxDo hmem with ⟨_, heq⟩ | ⟨_, _, _, _, _, heq⟩
    · cases heq
    · cases heq

end

namespace FileHost

variable {s s' : FileHost} {l : HostCall} {cb : LegacyCallback} {lg : Legacy}

/-- The entry that goes with a slot for receiving after a call. -/
theorem hasEntry_receivingAfter {frees : Bool} {call : Call} {actions : List Action} {f : UInt32}
    {n : UInt8} {slot : Receiving}
    (h : .sendControl f true n .finished ∈ actions → slot.hasEntry = true) :
    (receivingAfter frees call actions f n slot).hasEntry =
      if actions.any (·.allocates f (n.toUInt32 ||| 0x100)) then true
      else if call.finishes f (n.toUInt32 ||| 0x100) then false
      else slot.hasEntry := by
  unfold receivingAfter
  split_ifs with hnew hends hfinished haccept
  · rfl
  · cases slot with
    | free leftover => rfl
    | used accepted finished => cases frees <;> rfl
  · cases frees with
    | true => exact (h hfinished).symm
    | false => rfl
  · cases slot <;> rfl
  · rfl

theorem Ok.start : ({} : FileHost).Ok where
  numbered f num t ht := by simp at ht
  sending f n := by simp
  receiving f n := by simp [Receiving.hasEntry]

theorem Ok.step (h : s.Ok) (hstep : HostStep s l s') : s'.Ok := by
  obtain ⟨⟨tox, actions⟩, hcall, heq⟩ := Checked.bind_eq_ok.mp hstep.2
  cases heq
  have heffect := Call.run_effect hcall
  constructor
  · exact heffect.numbered h.numbered
  · intro f n
    rw [heffect.isSome_eq, h.sending]
    rfl
  · intro f n
    rw [heffect.isSome_eq, h.receiving]
    refine (hasEntry_receivingAfter ?_).symm
    intro hfinished
    rw [← h.receiving]
    exact heffect.isSome_of_finished h.numbered hfinished

theorem run_ok {ls : List HostCall} (h : Run HostStep {} ls s) : s.Ok :=
  h.invariant Ok.start fun _ _ _ hok hstep => hok.step hstep

theorem fileSendRequest_succeeds_iff {tox : NewTox} {f : UInt32} {n : UInt8} {size : UInt64}
    {name : List UInt8} {cause : PauseReason} :
    (CB.fileSendRequest tox f n size name cause).Succeeds ↔
      tox.getTransfer f (n.toUInt32 ||| 0x100) = none := by
  constructor
  · intro h
    obtain ⟨⟨tox', actions⟩, hrun⟩ := h
    exact (fileSendRequest_eq_ok.mp hrun).1
  · intro h
    exact ⟨_, fileSendRequest_eq_ok.mpr ⟨h, rfl, rfl⟩⟩

theorem fileControl_succeeds_iff {tox : NewTox} {f : UInt32} {rs n : UInt8}
    {control : LegacyControl} : (CB.fileControl tox f rs n control).Succeeds ↔
      (tox.getTransfer f (FileTransfer.newFileNumber (rs != 0) n)).isSome = true ∧
        (control = .accept ∨ control = .finished) := by
  constructor
  · intro h
    obtain ⟨⟨tox', actions⟩, hrun⟩ := h
    obtain ⟨t, ht, ⟨rfl, -⟩ | ⟨rfl, -⟩⟩ := fileControl_cases hrun
    · exact ⟨Option.isSome_of_eq_some ht, .inl rfl⟩
    · exact ⟨Option.isSome_of_eq_some ht, .inr rfl⟩
  · intro h
    obtain ⟨hsome, hcontrol⟩ := h
    obtain ⟨t, ht⟩ := Option.isSome_iff_exists.mp hsome
    rcases hcontrol with rfl | rfl
    · exact ⟨_, fileControl_accept ht⟩
    · exact ⟨_, fileControl_finished ht⟩

theorem fileData_succeeds_iff {tox : NewTox} {f : UInt32} {n : UInt8} {data : List UInt8} :
    (CB.fileData tox lg f n data).Succeeds ↔
      ∃ t, tox.getTransfer f (n.toUInt32 ||| 0x100) = some t ∧
        (t.position + UInt64.ofNat data.length = t.fileSize →
          lg.fileSendControl f true n .finished = 0) := by
  cases ht : tox.getTransfer f (n.toUInt32 ||| 0x100) with
  | none => simp [Checked.Succeeds, CB.fileData, ht]
  | some t =>
    by_cases hend : t.position + UInt64.ofNat data.length = t.fileSize
    · simp [Checked.Succeeds, CB.fileData, ht, hend, Legacy.sendControl]
      exact decide_eq_true_iff
    · simp [Checked.Succeeds, CB.fileData, ht, hend]

/-- A callback that a friend can cause returns exactly when it is harmless. -/
theorem friend_callback_returns_iff {ls : List HostCall} (h : Run HostStep {} ls s)
    (hcause : s.CanCause cb) : (cb.run s.tox lg).Succeeds ↔ s.Harmless lg cb := by
  have hok := run_ok h
  cases cb with
  | fileSendRequest f n size name cause =>
    obtain ⟨leftover, hfree⟩ := hcause
    have hentry := hok.receiving f n
    refine fileSendRequest_succeeds_iff.trans ?_
    simp only [Harmless]
    rw [← Option.isNone_iff_eq_none, ← Option.not_isSome, hentry, hfree]
    cases leftover <;> simp [Receiving.hasEntry]
  | fileControl f rs n control =>
    obtain ⟨-, hslot⟩ := hcause
    refine fileControl_succeeds_iff.trans ?_
    rw [and_comm]
    refine and_congr_right fun _ => ?_
    by_cases hrs : rs = 0
    · rw [if_pos hrs] at hslot
      obtain ⟨accepted, finished, hslot⟩ := hslot
      have hentry := hok.receiving f n
      rw [hslot] at hentry
      subst hrs
      rw [show ((0 : UInt8) != 0) = false from rfl, FileTransfer.newFileNumber_false, hentry, hslot]
      cases finished <;> simp [Receiving.hasEntry]
    · rw [if_neg hrs] at hslot
      have hentry := hok.sending f n
      rw [hslot] at hentry
      rw [bne_iff_ne.mpr hrs, FileTransfer.newFileNumber_true]
      exact iff_of_true hentry fun heq => absurd heq hrs
  | fileData f n data =>
    obtain ⟨finished, hslot⟩ := hcause
    have hentry := hok.receiving f n
    rw [hslot] at hentry
    refine fileData_succeeds_iff.trans ?_
    simp only [Harmless, hslot]
    cases finished with
    | true =>
      rw [Receiving.hasEntry, Bool.not_true, Option.isSome_eq_false_iff,
        Option.isNone_iff_eq_none] at hentry
      simp [hentry]
    | false =>
      obtain ⟨t, ht⟩ := Option.isSome_iff_exists.mp hentry
      simp [ht]

end FileHost

/-- A file is sent, and the friend accepts it. -/
theorem friend_callback_returns_accept : ∃ s, Run HostStep {}
      [{ lg := .oneFriend, call := .fileSend 0 .data 10 (.bytes [97]) .initial }] s ∧
    (LegacyCallback.run s.tox .oneFriend (.fileControl 0 1 0 .accept)).Succeeds := by
  have hrun : Run HostStep {}
      [{ lg := .oneFriend, call := .fileSend 0 .data 10 (.bytes [97]) .initial }] _ :=
    .single ⟨trivial, rfl⟩
  refine ⟨_, hrun, (FileHost.friend_callback_returns_iff hrun ?_).mpr ?_⟩
  · exact ⟨by simp, rfl⟩
  · exact ⟨.inl rfl, fun h => absurd h (by decide)⟩

/-- The friend pauses a file that this side is sending. -/
theorem friend_pause_aborts : ∃ s, Run HostStep {}
      [{ lg := .oneFriend, call := .fileSend 0 .data 10 (.bytes [97]) .initial }] s ∧
    s.CanCause (.fileControl 0 1 0 .pause) ∧
      ¬ (LegacyCallback.run s.tox .oneFriend (.fileControl 0 1 0 .pause)).Succeeds := by
  have hpause : ∀ tox,
      ¬ (LegacyCallback.run tox .oneFriend (.fileControl 0 1 0 .pause)).Succeeds := by
    intro tox hsucceeds
    have hcontrol : (CB.fileControl tox 0 1 0 .pause).Succeeds := hsucceeds
    exact absurd (FileHost.fileControl_succeeds_iff.mp hcontrol).2 (by decide)
  exact ⟨_, .single ⟨trivial, rfl⟩, ⟨by simp, rfl⟩, hpause _⟩

end Tox4j.Adapter
