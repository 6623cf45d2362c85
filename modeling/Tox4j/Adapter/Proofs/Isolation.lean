import Tox4j.Adapter.Isolation
import Tox4j.Adapter.Proofs.Log

/-!
# Transfers do not get in each other's way

What a session does to some of the transfers, and what it puts out about them, is what a session
does that has these transfers only.
-/

namespace Tox4j.Adapter

open Tox4j.Misc

section

variable {K : UInt32 × UInt32 → Bool} {lg : Legacy} {tox tox' : NewTox} {f n : UInt32}
  {actions : List Action}

theorem getTransfer_only (K : UInt32 × UInt32 → Bool) (tox : NewTox) (f n : UInt32) :
    (tox.only K).getTransfer f n = if K (f, n) then tox.getTransfer f n else none :=
  getElem?_restrict K tox.transfers (f, n)

theorem only_setTransfer (h : K (f, n) = true) (t : FileTransfer) :
    (tox.setTransfer f n t).only K = (tox.only K).setTransfer f n t := by
  simp only [NewTox.only, NewTox.setTransfer, restrict_insert h]

theorem only_setTransfer_of_not (h : K (f, n) = false) (t : FileTransfer) :
    (tox.setTransfer f n t).only K = tox.only K := by
  simp only [NewTox.only, NewTox.setTransfer, restrict_insert_of_not h]

theorem only_eraseTransfer : (tox.eraseTransfer f n).only K = (tox.only K).eraseTransfer f n := by
  simp only [NewTox.only, NewTox.eraseTransfer, restrict_erase]

theorem only_eraseTransfer_of_not (h : K (f, n) = false) :
    (tox.eraseTransfer f n).only K = tox.only K := by
  simp only [NewTox.only, NewTox.eraseTransfer, restrict_erase_of_not h]

theorem addTransfer_only (h : K (f, n) = true) (size : UInt64) (cause : PauseReason) :
    (tox.only K).addTransfer f n size cause =
      NewTox.only K <$> tox.addTransfer f n size cause := by
  simp only [NewTox.addTransfer, getTransfer_only, h, if_true]
  cases tox.getTransfer f n with
  | none => simp [Checked.assert, only_setTransfer h]
  | some t => simp [Checked.assert]

theorem removeTransfer_only (h : K (f, n) = true) :
    (tox.only K).removeTransfer f n = NewTox.only K <$> tox.removeTransfer f n := by
  simp only [NewTox.removeTransfer, getTransfer_only, h, if_true]
  cases tox.getTransfer f n with
  | none => simp [Checked.assert]
  | some t =>
    have herase : (tox.eraseTransfer f n).only K = (tox.only K).eraseTransfer f n :=
      only_eraseTransfer
    simp only [NewTox.eraseTransfer] at herase
    simp [Checked.assert, herase]

theorem newToxFileSend_only (h : K (f, (lg.newFileSender f).toUInt32) = true) (kind : FileKind)
    (size : UInt64) (name : Buffer) (cause : PauseReason) :
    newToxFileSend lg (tox.only K) f kind size name cause =
      (fun r => (r.1, r.2.1, r.2.2.1.only K, r.2.2.2)) <$>
        newToxFileSend lg tox f kind size name cause := by
  unfold newToxFileSend
  iterate 4
    split
    · rfl
  cases newToxFriendGetConnectionStatus lg f with
  | error e => rfl
  | ok connection =>
    simp only [Checked.ok_bind]
    split
    · rfl
    split
    · rfl
    simp only [getTransfer_only, h, if_true, addTransfer_only h, Checked.assert]
    split
    · split
      · split
        · cases tox.addTransfer f (lg.newFileSender f).toUInt32 size cause <;> rfl
        · rfl
      · rfl
    · rfl

theorem sendChunk_only (h : K (f, n) = true) (t : FileTransfer) (data : Buffer) :
    sendChunk lg (tox.only K) f n t data =
      (fun r => (r.1.only K, r.2)) <$> sendChunk lg tox f n t data := by
  simp only [sendChunk, ← only_setTransfer h, Checked.assert]
  split
  · split
    · simp only [Checked.ok_bind]
      split <;> rfl
    · rfl
  · rfl

theorem newToxFileSendChunk_only (h : K (f, n) = true) (data : Buffer) :
    newToxFileSendChunk lg (tox.only K) f n data =
      (fun r => (r.1, r.2.1.only K, r.2.2)) <$> newToxFileSendChunk lg tox f n data := by
  unfold newToxFileSendChunk
  split
  · rfl
  iterate 3
    split
    · rfl
  cases newToxFriendGetConnectionStatus lg f with
  | error e => rfl
  | ok connection =>
    simp only [Checked.ok_bind]
    split
    · rfl
    · simp only [getTransfer_only, h, if_true]
      cases tox.getTransfer f n with
      | none => rfl
      | some t =>
        simp only [sendChunk_only h]
        cases sendChunk lg tox f n t data <;> rfl

theorem newToxFileControl_only (h : K (f, n) = true) (control : FileControl) :
    newToxFileControl lg (tox.only K) f n control =
      (fun r => (r.1, r.2.1.only K, r.2.2)) <$> newToxFileControl lg tox f n control := by
  unfold newToxFileControl
  split
  · rfl
  cases newToxFriendGetConnectionStatus lg f with
  | error e => rfl
  | ok connection =>
    simp only [Checked.ok_bind]
    split
    · rfl
    · simp only [getTransfer_only, h, if_true]
      cases tox.getTransfer f n with
      | none => rfl
      | some t =>
        simp only
        cases applyControl lg f n t control <;> rfl

theorem callback_only {cb : LegacyCallback} (h : K cb.key = true) :
    cb.run (tox.only K) lg = (fun r => (r.1.only K, r.2)) <$> cb.run tox lg := by
  cases cb with
  | fileSendRequest f m size name cause =>
    simp only [LegacyCallback.run, CB.fileSendRequest, addTransfer_only h]
    cases tox.addTransfer f (m.toUInt32 ||| 0x100) size cause <;> rfl
  | fileControl f rs m control =>
    simp only [LegacyCallback.key] at h
    simp only [LegacyCallback.run, CB.fileControl, getTransfer_only, h, if_true]
    cases ht : tox.getTransfer f (FileTransfer.newFileNumber (rs != 0) m) with
    | none => rfl
    | some t =>
      cases control with
      | accept =>
        simp only [← only_setTransfer h]
        rfl
      | finished =>
        simp only [removeTransfer_only h]
        cases tox.removeTransfer f (FileTransfer.newFileNumber (rs != 0) m) <;> rfl
      | pause | kill | resumeBroken | unknown code => rfl
  | fileData f m data =>
    simp only [LegacyCallback.key] at h
    simp only [LegacyCallback.run, CB.fileData, getTransfer_only, h, if_true]
    cases tox.getTransfer f (m.toUInt32 ||| 0x100) with
    | none => rfl
    | some t =>
      simp only [← only_setTransfer h, Checked.assert]
      split
      · split <;> rfl
      · rfl

theorem checkConnection_only (K : UInt32 × UInt32 → Bool) (lg : Legacy) (tox : NewTox) :
    checkConnection lg (tox.only K) =
      ((checkConnection lg tox).1.only K, (checkConnection lg tox).2) := by
  have hconnected : (tox.only K).connected = tox.connected := rfl
  unfold checkConnection
  rw [hconnected]
  split <;> rfl

/-- An iteration asks for chunks of these transfers as it does among all. -/
theorem afterToxDo_only (K : UInt32 × UInt32 → Bool) (lg : Legacy) (tox : NewTox) :
    (afterToxDo lg (tox.only K)).1 = (afterToxDo lg tox).1.only K ∧
      (afterToxDo lg (tox.only K)).2 =
        (afterToxDo lg tox).2.filter fun a => aboutEntry K (.afterToxDo, a) := by
  have hstatus : ∀ a ∈ (checkConnection lg tox).2, aboutEntry K (.afterToxDo, a) = true := by
    intro a ha
    unfold checkConnection at ha
    split at ha
    · rw [List.mem_singleton.mp ha]
      rfl
    · cases ha
  have hbody : ∀ key t, ∀ a ∈ (requestChunk lg key t).2, aboutEntry K (.afterToxDo, a) = K key := by
    intro key t a ha
    by_cases hdue : t.Due
    · rw [requestChunk_due lg key hdue] at ha
      rw [List.mem_singleton.mp ha]
      rfl
    · rw [requestChunk_not_due lg key hdue] at ha
      cases ha
  rw [afterToxDo_eq, afterToxDo_eq, checkConnection_only]
  constructor
  · simp only [requestChunks_eq, NewTox.only, loopRecords_restrict]
  · simp only [requestChunks_eq, NewTox.only, List.filter_append, List.filter_eq_self.mpr hstatus,
      filter_loopRecords hbody]

theorem filter_map_entry {call : Call} (h : ∀ a ∈ actions, aboutEntry K (call, a) = true) :
    (actions.map (Prod.mk call)).filter (aboutEntry K) = actions.map (Prod.mk call) := by
  refine List.filter_eq_self.mpr fun e he => ?_
  obtain ⟨a, ha, rfl⟩ := List.mem_map.mp he
  exact h a ha

theorem filter_map_entry_of_not {call : Call} (h : ∀ a ∈ actions, aboutEntry K (call, a) = false) :
    (actions.map (Prod.mk call)).filter (aboutEntry K) = [] := by
  refine List.filter_eq_nil_iff.mpr fun e he => ?_
  obtain ⟨a, ha, rfl⟩ := List.mem_map.mp he
  rw [h a ha]
  exact Bool.false_ne_true

/-- What goes out when a file is offered carries the number of the legacy core. -/
theorem newSender_number {kind : FileKind} {size : UInt64} {name : Buffer} {cause : PauseReason}
    (hrun : (Call.fileSend f kind size name cause).run lg tox = .ok (tox', actions)) :
    ∀ a ∈ actions, aboutEntry K (.fileSend f kind size name cause, a) =
      K (f, (lg.newFileSender f).toUInt32) := by
  simp only [Call.run, Checked.bind_eq_ok, Checked.pure_eq_ok, Prod.exists, Prod.mk.injEq] at hrun
  obtain ⟨err, num, mid, out, hsend, rfl, rfl⟩ := hrun
  rcases newToxFileSend_cases hsend with ⟨-, -, -, rfl⟩ | ⟨m, -, hm, hnum, -, -, -, -, rfl⟩
  · simp
  · intro a ha
    rw [List.mem_singleton.mp ha, hnum, hm]
    rfl

/-- A call about these transfers does the same when there are no others. -/
theorem run_only {call : Call} (hK : aboutCall K (lg, call) = true)
    (hrun : call.run lg tox = .ok (tox', actions)) :
    ∃ actions', call.run lg (tox.only K) = .ok (tox'.only K, actions') ∧
      actions'.map (Prod.mk call) = (actions.map (Prod.mk call)).filter (aboutEntry K) := by
  cases call with
  | fileSend f kind size name cause =>
    refine ⟨actions, ?_, ?_⟩
    · simp only [Call.run, Checked.bind_eq_ok, Checked.pure_eq_ok, Prod.exists,
        Prod.mk.injEq] at hrun ⊢
      obtain ⟨err, num, mid, out, hsend, rfl, rfl⟩ := hrun
      exact ⟨err, num, mid.only K, out, by rw [newToxFileSend_only hK, hsend]; rfl, rfl, rfl⟩
    · refine (filter_map_entry fun a ha => ?_).symm
      rw [newSender_number hrun a ha]
      exact hK
  | fileSendChunk f n data =>
    refine ⟨actions, ?_, Eq.symm (filter_map_entry fun a _ => hK)⟩
    simp only [Call.run, Checked.bind_eq_ok, Checked.pure_eq_ok, Prod.exists,
      Prod.mk.injEq] at hrun ⊢
    obtain ⟨err, mid, out, hsend, rfl, rfl⟩ := hrun
    exact ⟨err, mid.only K, out, by rw [newToxFileSendChunk_only hK, hsend]; rfl, rfl, rfl⟩
  | fileControl f n control =>
    refine ⟨actions, ?_, Eq.symm (filter_map_entry fun a _ => hK)⟩
    simp only [Call.run, Checked.bind_eq_ok, Checked.pure_eq_ok, Prod.exists,
      Prod.mk.injEq] at hrun ⊢
    obtain ⟨err, mid, out, hcontrol, rfl, rfl⟩ := hrun
    exact ⟨err, mid.only K, out, by rw [newToxFileControl_only hK, hcontrol]; rfl, rfl, rfl⟩
  | callback cb =>
    refine ⟨actions, ?_, Eq.symm (filter_map_entry fun a _ => hK)⟩
    simp only [Call.run] at hrun ⊢
    rw [callback_only hK, hrun]
    rfl
  | afterToxDo =>
    obtain ⟨rfl, rfl⟩ := Call.run_afterToxDo hrun
    obtain ⟨htox, hactions⟩ := afterToxDo_only K lg tox
    refine ⟨(afterToxDo lg (tox.only K)).2, ?_, ?_⟩
    · rw [← htox]
      rfl
    · rw [hactions, List.filter_map]
      rfl

/-- A call that is not about these transfers leaves them alone, and puts out nothing about them. -/
theorem run_rest {call : Call} (hK : aboutCall K (lg, call) = false)
    (hrun : call.run lg tox = .ok (tox', actions)) :
    tox'.only K = tox.only K ∧ (actions.map (Prod.mk call)).filter (aboutEntry K) = [] := by
  have heffect := Call.run_effect hrun
  cases heffect with
  | @unchanged call _ hclient hcontrols =>
    refine ⟨rfl, filter_map_entry_of_not fun a ha => ?_⟩
    cases call with
    | fileSend f kind size name cause =>
      rw [newSender_number hrun a ha]
      exact hK
    | fileSendChunk | fileControl => exact hK
    | callback | afterToxDo => cases hclient
  | @opened f n kind size name cause hfree =>
    have hnumber := newSender_number (K := K) hrun _ List.mem_cons_self
    have hnot : K (f, n.toUInt32) = false := hnumber.trans hK
    exact ⟨only_setTransfer_of_not hnot _, filter_map_entry_of_not fun a ha => by
      rw [newSender_number hrun a ha]; exact hK⟩
  | offered hfree => exact ⟨only_setTransfer_of_not hK _, filter_map_entry_of_not fun _ _ => hK⟩
  | sent haccepted => exact ⟨only_setTransfer_of_not hK _, filter_map_entry_of_not fun _ _ => hK⟩
  | received ht => exact ⟨only_setTransfer_of_not hK _, filter_map_entry_of_not fun _ _ => hK⟩
  | accepted ht => exact ⟨only_setTransfer_of_not hK _, filter_map_entry_of_not fun _ _ => hK⟩
  | finished ht => exact ⟨only_eraseTransfer_of_not hK, filter_map_entry_of_not fun _ _ => hK⟩
  | asked => cases hK

end

/-- A file is sent and another one received, under the same number of the legacy core. -/
def bothDirections : List (Legacy × Call) :=
  [(.oneFriend, .fileSend 0 .data 3 (.bytes [97]) .initial),
    (.oneFriend, .callback (.fileSendRequest 0 0 5 [98] .initial)),
    (.oneFriend, .callback (.fileControl 0 1 0 .accept)),
    (.oneFriend, .afterToxDo),
    (.oneFriend, .callback (.fileData 0 0 [1, 2]))]

end Tox4j.Adapter
