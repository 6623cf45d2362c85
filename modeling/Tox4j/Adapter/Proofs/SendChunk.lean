import Mathlib.Tactic
import Tox4j.Adapter.FileCalls
import Tox4j.Adapter.Proofs.Answering
import Tox4j.Adapter.Proofs.Outgoing

/-!
# Chunks for incoming transfers

`new_tox_file_send_chunk` looks the number up in the one table of both directions, and the legacy
core gets the number without its direction bit. So a chunk for a file that is received goes to the
file that is sent in the slot with the same number.
-/

namespace Tox4j.Adapter

open Tox4j.Misc

section

variable {lg : Legacy} {tox tox' : NewTox} {f n : UInt32} {data : Buffer} {t : FileTransfer}
  {actions : List Action}

/-- A number that is not in the table. -/
theorem newToxFileSendChunk_missing (h : lg.Takes f data) (hnone : tox.getTransfer f n = none) :
    newToxFileSendChunk lg tox f n data = do
      Checked.assert (lg.friendConnectionStatus f != -1) "status != -1"
      return (.notFound, tox, []) := by
  have hlt : ¬ lg.dataSize f < data.length := UInt64.not_lt.mpr h.length_le
  obtain ⟨hexists, hstatus⟩ := h.connected
  simp [newToxFileSendChunk, newToxFriendGetConnectionStatus, h.length_ne_zero, hlt, h.not_null,
    hexists, hstatus, hnone]

/-- An empty chunk fails an assertion. -/
theorem newToxFileSendChunk_empty (hlength : data.length = 0) :
    newToxFileSendChunk lg tox f n data = .error "false" := by
  simp only [newToxFileSendChunk, hlength, if_true]

/-- A length that the legacy core takes is not truncated. -/
theorem length_toUInt16 (hsize : lg.Connected f → 0 ≤ (lg.fileDataSize f).toInt ∧
      (lg.fileDataSize f).toInt ≤ 65535) (h : ChunkAccepted lg tox f n data t) :
    data.length.toUInt16.toNat = data.length.toNat := by
  obtain ⟨hnonneg, hle⟩ := hsize h.connected
  have hlength := UInt64.le_iff_toNat_le.mp h.length_le
  simp only [Legacy.dataSize, UInt64.ofInt, UInt64.toNat_ofNat'] at hlength
  simp only [UInt64.toNat_toUInt16]
  omega

/-- What is sent for an outgoing transfer is right. -/
theorem sentRight_of_outgoing {m : UInt8} (hsize : lg.Connected f →
      0 ≤ (lg.fileDataSize f).toInt ∧ (lg.fileDataSize f).toInt ≤ 65535)
    (h : ChunkAccepted lg tox f m.toUInt32 data t)
    (hsend : sendChunk lg tox f m.toUInt32 t data = .ok (tox', actions)) :
    SentRight tox f m.toUInt32 data tox' actions := by
  obtain ⟨rfl, rfl⟩ := sendChunk_cases hsend
  constructor
  · exact ⟨m, rfl⟩
  · exact ⟨t, h.transfer, NewTox.getTransfer_setTransfer_self ..⟩
  · rw [length_toUInt16 hsize h, FileTransfer.sendReceive_toUInt32]
    refine ⟨_, rfl, ?_⟩
    intro a ha
    rw [List.mem_ite_nil_right, List.mem_singleton] at ha
    exact ha.2
  · intro f' n' hne
    rw [NewTox.getTransfer_setTransfer, if_neg]
    intro heq
    exact hne (by rw [heq.1, heq.2])

/-- A number with the direction bit is refused exactly when the call gets as far as looking it up
    and does not find it, or fails a check before. -/
theorem refuses_iff : Refuses lg tox f n data ↔ data.length ≠ 0 ∧
    (lg.Takes f data → lg.friendConnectionStatus f ≠ -1 ∧ tox.getTransfer f n = none) := by
  constructor
  · intro h
    obtain ⟨error, hcall, hne, hnotFound⟩ := h
    constructor
    · intro hlength
      rw [newToxFileSendChunk_empty hlength] at hcall
      cases hcall
    · intro htakes
      obtain rfl := hnotFound htakes
      cases ht : tox.getTransfer f n with
      | none =>
        rw [newToxFileSendChunk_missing htakes ht, Checked.bind_eq_ok] at hcall
        obtain ⟨_, hassert, -⟩ := hcall
        exact ⟨bne_iff_ne.mp (Checked.assert_eq_ok.mp hassert), rfl⟩
      | some t =>
        rw [newToxFileSendChunk_of_takes htakes ht, Checked.bind_eq_ok] at hcall
        obtain ⟨_, -, hcall⟩ := hcall
        obtain ⟨_, -, hcall⟩ := Checked.bind_eq_ok.mp hcall
        cases hcall
  · intro h
    obtain ⟨hlength, hmissing⟩ := h
    by_cases htakes : lg.Takes f data
    · obtain ⟨hstatus, hnone⟩ := hmissing htakes
      refine ⟨.notFound, ?_, by decide, fun _ => rfl⟩
      rw [newToxFileSendChunk_missing htakes hnone,
        (Checked.assert_eq_ok (u := ⟨⟩)).mpr (bne_iff_ne.mpr hstatus)]
      rfl
    · obtain ⟨error, hcall⟩ := newToxFileSendChunk_refused tox n hlength htakes
      refine ⟨error, hcall, ?_, fun h => absurd h htakes⟩
      intro hok
      rcases newToxFileSendChunk_cases hcall with ⟨hne, -⟩ | ⟨t, -, haccepted, -⟩
      · exact hne hok
      · exact htakes ⟨haccepted.length_ne_zero, haccepted.length_le, haccepted.not_null,
          haccepted.connected⟩

/-- In every session, a chunk is right exactly when its number has no direction bit, or the call is
    not one that reaches an entry of the table. -/
theorem chunk_right_iff {ls : List (Legacy × Call)} {s : Logged} (h : Run LoggedStep {} ls s)
    (hsize : lg.Connected f →
      0 ≤ (lg.fileDataSize f).toInt ∧ (lg.fileDataSize f).toInt ≤ 65535) :
    ChunkRight lg s.tox f n data ↔ FileTransfer.sendReceive n = false ∨ data.length ≠ 0 ∧
      (lg.Takes f data → lg.friendConnectionStatus f ≠ -1 ∧ s.tox.getTransfer f n = none) := by
  rw [← refuses_iff]
  constructor
  · intro hright
    by_cases hbit : FileTransfer.sendReceive n = true
    · exact .inr (hright.refused hbit)
    · exact .inl (Bool.not_eq_true _ ▸ hbit)
  · intro hcond
    constructor
    · intro tox' actions hcall
      rcases newToxFileSendChunk_cases hcall with ⟨hne, -⟩ | ⟨t, -, haccepted, hsend⟩
      · exact absurd rfl hne
      · obtain ⟨receiveSend, m, rfl⟩ := run_numbered h f n t haccepted.transfer
        cases receiveSend with
        | true =>
          rw [FileTransfer.newFileNumber_true] at haccepted hsend ⊢
          exact sentRight_of_outgoing hsize haccepted hsend
        | false =>
          rcases hcond with hbit | ⟨error, hrefused, hne, -⟩
          · rw [FileTransfer.sendReceive_newFileNumber] at hbit
            cases hbit
          · rw [hrefused] at hcall
            cases hcall
            exact absurd rfl hne
    · intro hbit
      rcases hcond with hcleared | hrefuses
      · rw [hcleared] at hbit
        cases hbit
      · exact hrefuses

end

theorem oneFriend_size {f : UInt32} (h : Legacy.oneFriend.Connected f) :
    0 ≤ (Legacy.oneFriend.fileDataSize f).toInt ∧
      (Legacy.oneFriend.fileDataSize f).toInt ≤ 65535 := by
  obtain rfl : f = 0 := of_decide_eq_true h.1
  decide

/-- A chunk of a file that is sent. -/
theorem chunk_right_sent : ∃ s : Logged,
    Run LoggedStep {} [(.oneFriend, .fileSend 0 .data 10 (.bytes [97]) .initial)] s ∧
      ChunkRight .oneFriend s.tox 0 0 (.bytes [1, 2, 3]) := by
  have hrun : Run LoggedStep {} [(.oneFriend, .fileSend 0 .data 10 (.bytes [97]) .initial)] _ :=
    .single rfl
  exact ⟨_, hrun, (chunk_right_iff hrun oneFriend_size).mpr (.inl rfl)⟩

/-- A chunk for a file that is received is sent. -/
theorem chunk_for_incoming : ∃ s : Logged,
    Run LoggedStep {} [(.oneFriend, .callback (.fileSendRequest 0 0 10 [97] .initial))] s ∧
      ¬ ChunkRight .oneFriend s.tox 0 0x100 (.bytes [1, 2, 3]) ∧
      ∃ tox, newToxFileSendChunk .oneFriend s.tox 0 0x100 (.bytes [1, 2, 3]) =
        .ok (.ok, tox, [.sendData 0 0 [1, 2, 3]]) := by
  have htakes : Legacy.oneFriend.Takes 0 (.bytes [1, 2, 3]) := by decide
  refine ⟨_, .single rfl, ?_, ?_⟩
  · intro hright
    obtain ⟨-, hnone⟩ := refuses_iff.mp (hright.refused rfl)
    have hentry := NewTox.getTransfer_setTransfer_self {} 0 0x100
      { cause := .initial, fileSize := 10 }
    exact absurd ((hnone htakes).2.symm.trans hentry) (by simp)
  · exact ⟨_, rfl⟩

end Tox4j.Adapter
