import Tox4j.Adapter.FileApi
import Tox4j.Misc.TableLoop

/-!
# What the file functions do

One lemma for each function of `FileApi` and each file callback says everything a call that
returns can have done: how the transfer table changed and what went out. Proofs about runs
use these lemmas and do not unfold the functions.
-/

namespace Tox4j.Adapter

open Tox4j.Misc

/-! ## File numbers -/

namespace FileTransfer

theorem toNat_or_256 (n : UInt8) : (n.toUInt32 ||| 0x100).toNat = n.toNat + 256 := by
  have h : ∀ k < 256, k ||| 256 = k + 256 := by decide +kernel
  simpa using h n.toNat n.toNat_lt

theorem newFileNumber_true (n : UInt8) : newFileNumber true n = n.toUInt32 := by
  simp [newFileNumber, Bool.toUInt32]

theorem newFileNumber_false (n : UInt8) : newFileNumber false n = n.toUInt32 ||| 0x100 := by
  rw [UInt32.or_comm]
  rfl

theorem toUInt32_injective {n m : UInt8} (h : n.toUInt32 = m.toUInt32) : n = m := by
  apply UInt8.toNat_inj.mp
  simpa using congrArg UInt32.toNat h

theorem or_256_injective {n m : UInt8} (h : n.toUInt32 ||| 0x100 = m.toUInt32 ||| 0x100) :
    n = m := by
  have h' := congrArg UInt32.toNat h
  simp only [toNat_or_256] at h'
  exact UInt8.toNat_inj.mp (by omega)

/-- An outgoing and an incoming transfer never share a file number. -/
theorem toUInt32_ne_or_256 (n m : UInt8) : n.toUInt32 ≠ m.toUInt32 ||| 0x100 := by
  intro h
  have h' := congrArg UInt32.toNat h
  have hn := n.toNat_lt
  rw [toNat_or_256, UInt8.toNat_toUInt32] at h'
  omega

theorem sendReceive_toUInt32 (n : UInt8) : sendReceive n.toUInt32 = false := by
  have h : ∀ k < 256, k &&& 256 = 0 := by decide +kernel
  have h' : n.toUInt32 &&& 0x100 = 0 := by
    apply UInt32.toNat_inj.mp
    simpa using h n.toNat n.toNat_lt
  simp [sendReceive, h']

theorem sendReceive_or_256 (n : UInt8) : sendReceive (n.toUInt32 ||| 0x100) = true := by
  have h : ∀ k < 256, (k ||| 256) &&& 256 = 256 := by decide +kernel
  have h' : (n.toUInt32 ||| 0x100) &&& 0x100 = 0x100 := by
    apply UInt32.toNat_inj.mp
    simpa using h n.toNat n.toNat_lt
  simp [sendReceive, h']

theorem oldFileNumber_toUInt32 (n : UInt8) : oldFileNumber n.toUInt32 = n := by
  have h : ∀ k < 256, k &&& 255 = k := by decide +kernel
  apply UInt8.toNat_inj.mp
  simpa [oldFileNumber] using h n.toNat n.toNat_lt

theorem oldFileNumber_or_256 (n : UInt8) : oldFileNumber (n.toUInt32 ||| 0x100) = n := by
  have h : ∀ k < 256, k &&& 255 = k := by decide +kernel
  apply UInt8.toNat_inj.mp
  simpa [oldFileNumber] using h n.toNat n.toNat_lt

/-- The legacy file number can be read from the file number of the adapter. -/
theorem oldFileNumber_newFileNumber (receiveSend : Bool) (n : UInt8) :
    oldFileNumber (newFileNumber receiveSend n) = n := by
  cases receiveSend with
  | true => rw [newFileNumber_true, oldFileNumber_toUInt32]
  | false => rw [newFileNumber_false, oldFileNumber_or_256]

/-- So can the direction; its two flags are each other's negation. -/
theorem sendReceive_newFileNumber (receiveSend : Bool) (n : UInt8) :
    sendReceive (newFileNumber receiveSend n) = !receiveSend := by
  cases receiveSend with
  | true => rw [newFileNumber_true, sendReceive_toUInt32, Bool.not_true]
  | false => rw [newFileNumber_false, sendReceive_or_256, Bool.not_false]

/-- The numbers the legacy core hands out for sending fit in a byte. -/
theorem toUInt32_toUInt8_of_sender {sender : Int32} (hlo : 0 ≤ sender) (hhi : sender ≤ 255) :
    sender.toUInt32.toUInt8.toUInt32 = sender.toUInt32 := by
  have hle : sender.toInt ≤ 255 := Int32.le_iff_toInt_le.mp hhi
  have hnat := Int32.toNat_toUInt32_of_le hlo
  rw [← Int32.toNat_toInt] at hnat
  apply UInt32.toNat_inj.mp
  simp only [UInt8.toNat_toUInt32, UInt32.toNat_toUInt8]
  omega

end FileTransfer

/-! ## The transfer table -/

namespace NewTox

theorem getTransfer_setTransfer (tox : NewTox) (f n f' n' : UInt32) (t : FileTransfer) :
    (tox.setTransfer f n t).getTransfer f' n' =
      if f = f' ∧ n = n' then some t else tox.getTransfer f' n' := by
  simp [getTransfer, setTransfer, Std.ExtTreeMap.getElem?_insert]

@[simp] theorem getTransfer_setTransfer_self (tox : NewTox) (f n : UInt32) (t : FileTransfer) :
    (tox.setTransfer f n t).getTransfer f n = some t := by
  simp [getTransfer_setTransfer]

theorem getTransfer_setTransfer_ne (tox : NewTox) {f n f' n' : UInt32} (t : FileTransfer)
    (h : n ≠ n') : (tox.setTransfer f n t).getTransfer f' n' = tox.getTransfer f' n' := by
  simp [getTransfer_setTransfer, h]

theorem addTransfer_eq_ok {tox tox' : NewTox} {f n : UInt32} {size : UInt64}
    {cause : PauseReason} : tox.addTransfer f n size cause = .ok tox' ↔
      tox.getTransfer f n = none ∧ tox' = tox.setTransfer f n { cause, fileSize := size } := by
  simp [addTransfer, @eq_comm _ tox']

/-- The table without the entry of one transfer. -/
def eraseTransfer (tox : NewTox) (f n : UInt32) : NewTox :=
  { tox with transfers := tox.transfers.erase (f, n) }

theorem removeTransfer_eq_ok {tox tox' : NewTox} {f n : UInt32} :
    tox.removeTransfer f n = .ok tox' ↔
      (tox.getTransfer f n).isSome = true ∧ tox' = tox.eraseTransfer f n := by
  simp [removeTransfer, eraseTransfer, @eq_comm _ tox']

theorem getTransfer_eraseTransfer (tox : NewTox) (f n f' n' : UInt32) :
    (tox.eraseTransfer f n).getTransfer f' n' =
      if f = f' ∧ n = n' then none else tox.getTransfer f' n' := by
  simp [getTransfer, eraseTransfer, Std.ExtTreeMap.getElem?_erase]

@[simp] theorem getTransfer_empty (f n : UInt32) : ({} : NewTox).getTransfer f n = none := by
  simp [getTransfer]

end NewTox

/-! ## The iteration -/

/-- The transfers an iteration raises a request for. -/
def FileTransfer.Due (t : FileTransfer) : Prop :=
  t.position ≠ t.fileSize ∧ t.state = .running ∧ t.eventPending = false

instance (t : FileTransfer) : Decidable t.Due :=
  inferInstanceAs (Decidable (_ ∧ _ ∧ _))

/-- The number of bytes an iteration requests for a transfer. -/
def requestSize (lg : Legacy) (f : UInt32) (t : FileTransfer) : UInt64 :=
  min (lg.dataSize f) (t.fileSize - t.position)

theorem toNat_requestSize (lg : Legacy) (f : UInt32) (t : FileTransfer) :
    (requestSize lg f t).toNat =
      min (lg.dataSize f).toNat (t.fileSize - t.position).toNat := by
  change (if _ ≤ _ then lg.dataSize f else t.fileSize - t.position).toNat = _
  rw [Nat.min_def]
  simp only [UInt64.le_iff_toNat_le]
  split <;> rfl

theorem requestChunk_due (lg : Legacy) (key : UInt32 × UInt32) {t : FileTransfer} (h : t.Due) :
    requestChunk lg key t =
      ({ t with sizeRequested := requestSize lg key.1 t, eventPending := true },
        [.event (.fileRequestChunk key.1 key.2 t.position (requestSize lg key.1 t))]) := by
  obtain ⟨hpos, hstate⟩ := h
  simp [requestChunk, requestSize, hpos, hstate]

theorem requestChunk_not_due (lg : Legacy) (key : UInt32 × UInt32) {t : FileTransfer}
    (h : ¬ t.Due) : requestChunk lg key t = (t, []) := by
  unfold requestChunk
  split
  · rfl
  · split
    · exact absurd ⟨‹_›, ‹_›⟩ h
    · rfl

@[simp] theorem requestChunk_position (lg : Legacy) (key : UInt32 × UInt32) (t : FileTransfer) :
    (requestChunk lg key t).1.position = t.position := by
  by_cases h : t.Due <;> simp [requestChunk_due, requestChunk_not_due, h]

@[simp] theorem requestChunk_fileSize (lg : Legacy) (key : UInt32 × UInt32) (t : FileTransfer) :
    (requestChunk lg key t).1.fileSize = t.fileSize := by
  by_cases h : t.Due <;> simp [requestChunk_due, requestChunk_not_due, h]

@[simp] theorem requestChunk_state (lg : Legacy) (key : UInt32 × UInt32) (t : FileTransfer) :
    (requestChunk lg key t).1.state = t.state := by
  by_cases h : t.Due <;> simp [requestChunk_due, requestChunk_not_due, h]

theorem requestChunks_eq (lg : Legacy) (tox : NewTox) : requestChunks lg tox =
    ({ tox with transfers := (loopRecords (requestChunk lg) tox.transfers).1 },
      (loopRecords (requestChunk lg) tox.transfers).2) := rfl

theorem getTransfer_requestChunks (lg : Legacy) (tox : NewTox) (f n : UInt32) :
    (requestChunks lg tox).1.getTransfer f n =
      (tox.getTransfer f n).map fun t => (requestChunk lg (f, n) t).1 :=
  getElem?_loopRecords (requestChunk lg) tox.transfers (f, n)

theorem mem_requestChunks {lg : Legacy} {tox : NewTox} {a : Action} :
    a ∈ (requestChunks lg tox).2 ↔ ∃ f n t, tox.getTransfer f n = some t ∧ t.Due ∧
      a = .event (.fileRequestChunk f n t.position (requestSize lg f t)) := by
  rw [requestChunks_eq, mem_loopRecords]
  constructor
  · rintro ⟨⟨f, n⟩, t, ht, ha⟩
    by_cases hdue : t.Due
    · rw [requestChunk_due lg _ hdue] at ha
      exact ⟨f, n, t, ht, hdue, by simpa using ha⟩
    · simp [requestChunk_not_due lg _ hdue] at ha
  · rintro ⟨f, n, t, ht, hdue, rfl⟩
    exact ⟨(f, n), t, ht, by simp [requestChunk_due lg _ hdue]⟩

/-- An iteration raises at most one request for each transfer: what it raises that concerns
    one key is what the loop body raises for it. -/
theorem filterMap_requestChunks {β : Type} {lg : Legacy} {tox : NewTox} {f n : UInt32}
    {φ : Action → Option β}
    (hφ : ∀ f' n' t, tox.getTransfer f' n' = some t → (f', n') ≠ (f, n) →
      φ (.event (.fileRequestChunk f' n' t.position (requestSize lg f' t))) = none) :
    (requestChunks lg tox).2.filterMap φ =
      (tox.getTransfer f n).toList.flatMap fun t =>
        (requestChunk lg (f, n) t).2.filterMap φ := by
  refine filterMap_loopRecords (f, n) ?_
  rintro ⟨f', n'⟩ t ht hne
  by_cases hdue : t.Due
  · simp [requestChunk_due lg _ hdue, hφ f' n' t ht hne]
  · simp [requestChunk_not_due lg _ hdue]

@[simp] theorem getTransfer_checkConnection (lg : Legacy) (tox : NewTox) (f n : UInt32) :
    (checkConnection lg tox).1.getTransfer f n = tox.getTransfer f n := by
  unfold checkConnection
  split <;> rfl

theorem afterToxDo_eq (lg : Legacy) (tox : NewTox) : afterToxDo lg tox =
    ((requestChunks lg (checkConnection lg tox).1).1,
      (checkConnection lg tox).2 ++ (requestChunks lg (checkConnection lg tox).1).2) := rfl

theorem getTransfer_afterToxDo (lg : Legacy) (tox : NewTox) (f n : UInt32) :
    (afterToxDo lg tox).1.getTransfer f n =
      (tox.getTransfer f n).map fun t => (requestChunk lg (f, n) t).1 := by
  simp [afterToxDo_eq, getTransfer_requestChunks]

/-- Besides a change of the connection status, an iteration raises exactly the requests for the
    transfers that are due. -/
theorem mem_afterToxDo {lg : Legacy} {tox : NewTox} {a : Action} (h : a ∈ (afterToxDo lg tox).2) :
    (∃ status, a = .event (.connectionStatus status)) ∨
      ∃ f n t, tox.getTransfer f n = some t ∧ t.Due ∧
        a = .event (.fileRequestChunk f n t.position (requestSize lg f t)) := by
  rw [afterToxDo_eq, List.mem_append] at h
  rcases h with h | h
  · left
    unfold checkConnection at h
    split at h
    · exact ⟨_, by simpa using h⟩
    · simp at h
  · right
    simpa using mem_requestChunks.mp h

/-- An iteration asks at most once for chunks of one transfer. -/
theorem pairwise_afterToxDo (lg : Legacy) (tox : NewTox) :
    (afterToxDo lg tox).2.Pairwise fun a b => ∀ f n position length f' n' position' length',
      a = .event (.fileRequestChunk f n position length) →
        b = .event (.fileRequestChunk f' n' position' length') → (f, n) ≠ (f', n') := by
  have hconnection : ∀ f n position length,
      .event (.fileRequestChunk f n position length) ∉ (checkConnection lg tox).2 := by
    intro f n position length h
    unfold checkConnection at h
    split at h <;> simp at h
  have hkey : ∀ key t f n position length,
      .event (.fileRequestChunk f n position length) ∈ (requestChunk lg key t).2 →
        key = (f, n) := by
    intro key t f n position length h
    by_cases hdue : t.Due
    · rw [requestChunk_due lg key hdue] at h
      cases List.mem_singleton.mp h
      rfl
    · rw [requestChunk_not_due lg key hdue] at h
      cases h
  rw [afterToxDo_eq, List.pairwise_append]
  refine ⟨?_, ?_, ?_⟩
  · apply List.pairwise_of_forall_mem_list
    rintro a ha b _ f n position length _ _ _ _ rfl _
    exact absurd ha (hconnection f n position length)
  · rw [requestChunks_eq]
    refine pairwise_loopRecords ?_ ?_
    · intro key t _
      by_cases hdue : t.Due
      · rw [requestChunk_due lg key hdue]
        exact List.pairwise_singleton _ _
      · rw [requestChunk_not_due lg key hdue]
        exact List.Pairwise.nil
    · rintro key key' t t' hne _ _ a ha b hb f n _ _ f' n' _ _ rfl rfl
      rw [← hkey key t f n _ _ ha, ← hkey key' t' f' n' _ _ hb]
      exact hne
  · rintro a ha b _ f n position length _ _ _ _ rfl _
    exact absurd ha (hconnection f n position length)

theorem filterMap_afterToxDo {β : Type} {lg : Legacy} {tox : NewTox} {f n : UInt32}
    {φ : Action → Option β} (hstatus : ∀ status, φ (.event (.connectionStatus status)) = none)
    (hφ : ∀ f' n' t, tox.getTransfer f' n' = some t → (f', n') ≠ (f, n) →
      φ (.event (.fileRequestChunk f' n' t.position (requestSize lg f' t))) = none) :
    (afterToxDo lg tox).2.filterMap φ =
      (tox.getTransfer f n).toList.flatMap fun t =>
        (requestChunk lg (f, n) t).2.filterMap φ := by
  have hconnection : (checkConnection lg tox).2.filterMap φ = [] := by
    unfold checkConnection
    split <;> simp [hstatus]
  rw [afterToxDo_eq, List.filterMap_append, hconnection, List.nil_append,
    filterMap_requestChunks (f := f) (n := n)]
  · simp
  · simpa using hφ

/-! ## The callbacks of the legacy core -/

theorem fileSendRequest_eq_ok {self tox : NewTox} {f : UInt32} {n : UInt8} {size : UInt64}
    {name : List UInt8} {cause : PauseReason} {actions : List Action} :
    CB.fileSendRequest self f n size name cause = .ok (tox, actions) ↔
      self.getTransfer f (n.toUInt32 ||| 0x100) = none ∧
        tox = self.setTransfer f (n.toUInt32 ||| 0x100) { cause, fileSize := size } ∧
        actions = [.event (.fileReceive f (n.toUInt32 ||| 0x100) .data size name)] := by
  simp only [CB.fileSendRequest, Checked.bind_eq_ok, NewTox.addTransfer_eq_ok, Checked.pure_eq_ok,
    Prod.mk.injEq]
  constructor
  · rintro ⟨_, ⟨hnone, rfl⟩, rfl, rfl⟩
    exact ⟨hnone, rfl, rfl⟩
  · rintro ⟨hnone, rfl, rfl⟩
    exact ⟨_, ⟨hnone, rfl⟩, rfl, rfl⟩

/-- A control callback that returns was an ACCEPT or a FINISHED for an existing transfer. -/
theorem fileControl_cases {self tox : NewTox} {f : UInt32} {rs n : UInt8} {c : LegacyControl}
    {actions : List Action} (h : CB.fileControl self f rs n c = .ok (tox, actions)) :
    ∃ t, self.getTransfer f (FileTransfer.newFileNumber (rs != 0) n) = some t ∧
      ((c = .accept ∧ tox = self.setTransfer f (FileTransfer.newFileNumber (rs != 0) n)
          { t with state := .running } ∧
        actions = [.event (.fileControl f (FileTransfer.newFileNumber (rs != 0) n) .resume)]) ∨
      (c = .finished ∧ tox = self.eraseTransfer f (FileTransfer.newFileNumber (rs != 0) n) ∧
        actions = [.event (.fileRequestChunk f (FileTransfer.newFileNumber (rs != 0) n)
          t.position 0)])) := by
  unfold CB.fileControl at h
  cases ht : self.getTransfer f (FileTransfer.newFileNumber (rs != 0) n) with
  | none => simp [ht] at h
  | some t =>
    refine ⟨t, rfl, ?_⟩
    cases c with
    | accept =>
      left
      simp only [ht, Except.ok.injEq, Prod.mk.injEq] at h
      exact ⟨rfl, h.1.symm, h.2.symm⟩
    | finished =>
      right
      simp only [ht, Checked.bind_eq_ok, NewTox.removeTransfer_eq_ok, Checked.pure_eq_ok,
        Prod.mk.injEq] at h
      obtain ⟨_, ⟨-, rfl⟩, rfl, rfl⟩ := h
      exact ⟨rfl, rfl, rfl⟩
    | pause | kill | resumeBroken | unknown code => simp [ht] at h

theorem fileControl_accept {self : NewTox} {f : UInt32} {rs n : UInt8} {t : FileTransfer}
    (ht : self.getTransfer f (FileTransfer.newFileNumber (rs != 0) n) = some t) :
    CB.fileControl self f rs n .accept =
      .ok (self.setTransfer f (FileTransfer.newFileNumber (rs != 0) n) { t with state := .running },
        [.event (.fileControl f (FileTransfer.newFileNumber (rs != 0) n) .resume)]) := by
  simp only [CB.fileControl, ht]

theorem fileControl_finished {self : NewTox} {f : UInt32} {rs n : UInt8} {t : FileTransfer}
    (ht : self.getTransfer f (FileTransfer.newFileNumber (rs != 0) n) = some t) :
    CB.fileControl self f rs n .finished =
      .ok (self.eraseTransfer f (FileTransfer.newFileNumber (rs != 0) n),
        [.event (.fileRequestChunk f (FileTransfer.newFileNumber (rs != 0) n) t.position 0)]) := by
  have hremove := NewTox.removeTransfer_eq_ok.mpr ⟨Option.isSome_of_eq_some ht, rfl⟩
  simp only [CB.fileControl, ht, hremove]
  rfl

/-- The transfer after `length` bytes have been received or sent. -/
def FileTransfer.advance (t : FileTransfer) (length : UInt64) : FileTransfer :=
  { t with position := t.position + length }

theorem sendControl_ok {lg : Legacy} {f : UInt32} {sr : Bool} {n : UInt8} {c : LegacyControl}
    (h : (lg.sendControl f sr n c).1 = 0) :
    (lg.sendControl f sr n c).2 = [.sendControl f sr n c] := by
  unfold Legacy.sendControl at h ⊢
  exact if_pos h

/-- A data callback that returns reported the data at the old position and advanced it. -/
theorem fileData_cases {self tox : NewTox} {lg : Legacy} {f : UInt32} {n : UInt8}
    {data : List UInt8} {actions : List Action}
    (h : CB.fileData self lg f n data = .ok (tox, actions)) :
    ∃ t, self.getTransfer f (n.toUInt32 ||| 0x100) = some t ∧
      tox = self.setTransfer f (n.toUInt32 ||| 0x100) (t.advance (UInt64.ofNat data.length)) ∧
      actions = .event (.fileReceiveChunk f (n.toUInt32 ||| 0x100) t.position data) ::
        if t.position + UInt64.ofNat data.length = t.fileSize then
          [.sendControl f true n .finished] else [] := by
  unfold CB.fileData at h
  cases ht : self.getTransfer f (n.toUInt32 ||| 0x100) with
  | none => simp [ht] at h
  | some t =>
    refine ⟨t, rfl, ?_⟩
    simp only [ht] at h
    split at h
    · rename_i hfin
      simp only [Checked.bind_eq_ok, Checked.assert_eq_ok, decide_eq_true_eq, Checked.pure_eq_ok,
        Prod.mk.injEq] at h
      obtain ⟨_, hsent, rfl, rfl⟩ := h
      simp [hfin, sendControl_ok hsent, FileTransfer.advance]
    · rename_i hfin
      simp only [Checked.pure_eq_ok, Prod.mk.injEq] at h
      obtain ⟨rfl, rfl⟩ := h
      simp [hfin, FileTransfer.advance]

/-! ## The calls of the client -/

/-- The friend exists and is connected. -/
def Legacy.Connected (lg : Legacy) (f : UInt32) : Prop :=
  lg.friendExists f = true ∧ lg.friendConnectionStatus f ≠ 0

theorem connected_of_status {lg : Legacy} {f : UInt32} {c : Connection}
    (h : newToxFriendGetConnectionStatus lg f = .ok c) (hc : c ≠ .none) : lg.Connected f := by
  unfold newToxFriendGetConnectionStatus at h
  split at h
  · rename_i hexists
    simp only [Checked.bind_eq_ok, Checked.assert_eq_ok, Checked.pure_eq_ok] at h
    obtain ⟨_, -, rfl⟩ := h
    refine ⟨hexists, ?_⟩
    intro hzero
    simp [hzero] at hc
  · simp only [Checked.pure_eq_ok] at h
    exact absurd h.symm hc

/-- A file control changes no transfer and raises no event: at most a control goes out, to the
    other side of the transfer. -/
theorem newToxFileControl_cases {lg : Legacy} {tox tox' : NewTox} {f n : UInt32} {c : FileControl}
    {err : ErrFileControl} {actions : List Action}
    (h : newToxFileControl lg tox f n c = .ok (err, tox', actions)) :
    tox' = tox ∧ (actions = [] ∨ ∃ control, (control = .accept ∨ control = .pause) ∧
      actions = [.sendControl f (FileTransfer.sendReceive n) (FileTransfer.oldFileNumber n)
        control]) := by
  unfold newToxFileControl at h
  split at h
  · simp only [Except.ok.injEq, Prod.mk.injEq] at h
    exact ⟨h.2.1.symm, .inl h.2.2.symm⟩
  · simp only [Checked.bind_eq_ok] at h
    obtain ⟨connection, -, h⟩ := h
    split at h
    · simp only [Checked.pure_eq_ok, Prod.mk.injEq] at h
      exact ⟨h.2.1.symm, .inl h.2.2.symm⟩
    · split at h
      · simp only [Checked.pure_eq_ok, Prod.mk.injEq] at h
        exact ⟨h.2.1.symm, .inl h.2.2.symm⟩
      · rename_i t _
        simp only [Checked.bind_eq_ok, Checked.pure_eq_ok, Prod.mk.injEq, Prod.exists] at h
        obtain ⟨_, sent, hctl, rfl, rfl, rfl⟩ := h
        refine ⟨rfl, ?_⟩
        cases c with
        | pause =>
          simp only [applyControl] at hctl
          split at hctl
          · simp only [Checked.pure_eq_ok, Prod.mk.injEq] at hctl
            exact .inl hctl.2.symm
          · simp only [Checked.bind_eq_ok, Checked.assert_eq_ok, decide_eq_true_eq,
              Checked.pure_eq_ok, Prod.mk.injEq] at hctl
            obtain ⟨_, hsent, -, rfl⟩ := hctl
            exact .inr ⟨.pause, .inr rfl, sendControl_ok hsent⟩
        | resume =>
          simp only [applyControl] at hctl
          split at hctl
          · simp only [Checked.pure_eq_ok, Prod.mk.injEq] at hctl
            exact .inl hctl.2.symm
          · split at hctl
            · simp only [Checked.pure_eq_ok, Prod.mk.injEq] at hctl
              exact .inl hctl.2.symm
            · simp only [Checked.pure_eq_ok, Prod.mk.injEq] at hctl
              obtain ⟨-, rfl⟩ := hctl
              by_cases hsent : (lg.sendControl f (FileTransfer.sendReceive n)
                  (FileTransfer.oldFileNumber n) .accept).1 = 0
              · exact .inr ⟨.accept, .inl rfl, sendControl_ok hsent⟩
              · left
                exact if_neg hsent
        | cancel =>
          simp only [applyControl, Checked.pure_eq_ok, Prod.mk.injEq] at hctl
          exact .inl hctl.2.symm

/-- `new_tox_file_send` fails and changes nothing, or adds a transfer at position 0 under a
    number of the legacy core that was free in the table. -/
theorem newToxFileSend_cases {lg : Legacy} {tox tox' : NewTox} {f num : UInt32} {kind : FileKind}
    {size : UInt64} {name : Buffer} {cause : PauseReason} {err : ErrFileSend}
    {actions : List Action}
    (h : newToxFileSend lg tox f kind size name cause = .ok (err, num, tox', actions)) :
    (err ≠ .ok ∧ num = 0 ∧ tox' = tox ∧ actions = []) ∨
      ∃ n : UInt8, err = .ok ∧ num = n.toUInt32 ∧ (lg.newFileSender f).toUInt32 = num ∧
        lg.newFileSender f ≠ -1 ∧ lg.Connected f ∧ tox.getTransfer f num = none ∧
        tox' = tox.setTransfer f num { cause, fileSize := size } ∧
        actions = [.newSender f n size name.contents] := by
  unfold newToxFileSend at h
  iterate 4
    split at h
    · simp only [Except.ok.injEq, Prod.mk.injEq] at h
      obtain ⟨rfl, rfl, rfl, rfl⟩ := h
      exact .inl ⟨by decide, rfl, rfl, rfl⟩
  simp only [Checked.bind_eq_ok] at h
  obtain ⟨connection, hconn, h⟩ := h
  split at h
  · simp only [Checked.pure_eq_ok, Prod.mk.injEq] at h
    obtain ⟨rfl, rfl, rfl, rfl⟩ := h
    exact .inl ⟨by decide, rfl, rfl, rfl⟩
  rename_i hne
  split at h
  · simp only [Checked.pure_eq_ok, Prod.mk.injEq] at h
    obtain ⟨rfl, rfl, rfl, rfl⟩ := h
    exact .inl ⟨by decide, rfl, rfl, rfl⟩
  rename_i hsender
  simp only [Checked.bind_eq_ok, Checked.assert_eq_ok, decide_eq_true_eq, Checked.pure_eq_ok,
    NewTox.addTransfer_eq_ok, Prod.mk.injEq] at h
  obtain ⟨_, hlo, _, hhi, _, -, tox'', ⟨hfree, rfl⟩, rfl, rfl, rfl, rfl⟩ := h
  right
  refine ⟨(lg.newFileSender f).toUInt32.toUInt8, rfl, ?_, rfl, hsender,
    connected_of_status hconn hne, hfree, rfl, rfl⟩
  exact (FileTransfer.toUInt32_toUInt8_of_sender hlo hhi).symm

theorem dataSize_of_pos {lg : Legacy} {f : UInt32} (h : 0 < (lg.fileDataSize f).toInt) :
    (lg.dataSize f).toNat = (lg.fileDataSize f).toInt.toNat := by
  have hlt := (lg.fileDataSize f).toInt_lt
  simp only [Legacy.dataSize, UInt64.ofInt, UInt64.toNat_ofNat']
  omega

theorem sendChunk_cases {lg : Legacy} {tox tox' : NewTox} {f n : UInt32} {t : FileTransfer}
    {data : Buffer} {actions : List Action}
    (h : sendChunk lg tox f n t data = .ok (tox', actions)) :
    tox' = tox.setTransfer f n { t.advance data.length with eventPending := false } ∧
      actions = .sendData f (FileTransfer.oldFileNumber n)
          (data.contents.take data.length.toUInt16.toNat) ::
        if t.position + data.length = t.fileSize then
          [.sendControl f (FileTransfer.sendReceive n) (FileTransfer.oldFileNumber n) .finished]
        else [] := by
  unfold sendChunk at h
  simp only [Checked.bind_eq_ok, Checked.assert_eq_ok] at h
  obtain ⟨_, -, h⟩ := h
  split at h
  · rename_i hfin
    simp only [Checked.bind_eq_ok, Checked.assert_eq_ok, decide_eq_true_eq, Checked.pure_eq_ok,
      Prod.mk.injEq] at h
    obtain ⟨_, hsent, rfl, rfl⟩ := h
    simp [hfin, sendControl_ok hsent, FileTransfer.advance]
  · rename_i hfin
    simp only [Checked.pure_eq_ok, Prod.mk.injEq] at h
    obtain ⟨rfl, rfl⟩ := h
    simp [hfin, FileTransfer.advance]

/-- The calls of `new_tox_file_send_chunk` that send data: the length is within what the legacy
    core takes, the pointer is not null, and the friend and the transfer exist. -/
structure ChunkAccepted (lg : Legacy) (tox : NewTox) (f n : UInt32) (data : Buffer)
    (t : FileTransfer) : Prop where
  length_ne_zero : data.length ≠ 0
  length_le : data.length ≤ lg.dataSize f
  not_null : data.isNull = false
  connected : lg.Connected f
  transfer : tox.getTransfer f n = some t

/-- `new_tox_file_send_chunk` fails and changes nothing, or it sends the data. -/
theorem newToxFileSendChunk_cases {lg : Legacy} {tox tox' : NewTox} {f n : UInt32} {data : Buffer}
    {err : ErrFileSendChunk} {actions : List Action}
    (h : newToxFileSendChunk lg tox f n data = .ok (err, tox', actions)) :
    (err ≠ .ok ∧ tox' = tox ∧ actions = []) ∨
      ∃ t, err = .ok ∧ ChunkAccepted lg tox f n data t ∧
        sendChunk lg tox f n t data = .ok (tox', actions) := by
  unfold newToxFileSendChunk at h
  split at h
  · simp at h
  rename_i hlength
  split at h
  · simp only [Except.ok.injEq, Prod.mk.injEq] at h
    obtain ⟨rfl, rfl, rfl⟩ := h
    exact .inl ⟨by decide, rfl, rfl⟩
  rename_i hle
  split at h
  · simp only [Except.ok.injEq, Prod.mk.injEq] at h
    obtain ⟨rfl, rfl, rfl⟩ := h
    exact .inl ⟨by decide, rfl, rfl⟩
  rename_i hnull
  split at h
  · simp only [Except.ok.injEq, Prod.mk.injEq] at h
    obtain ⟨rfl, rfl, rfl⟩ := h
    exact .inl ⟨by decide, rfl, rfl⟩
  simp only [Checked.bind_eq_ok] at h
  obtain ⟨connection, hconn, h⟩ := h
  split at h
  · simp only [Checked.pure_eq_ok, Prod.mk.injEq] at h
    obtain ⟨rfl, rfl, rfl⟩ := h
    exact .inl ⟨by decide, rfl, rfl⟩
  rename_i hne
  split at h
  · simp only [Checked.pure_eq_ok, Prod.mk.injEq] at h
    obtain ⟨rfl, rfl, rfl⟩ := h
    exact .inl ⟨by decide, rfl, rfl⟩
  rename_i t ht
  simp only [Checked.bind_eq_ok, Checked.pure_eq_ok, Prod.mk.injEq, Prod.exists] at h
  obtain ⟨_, _, hsend, rfl, rfl, rfl⟩ := h
  right
  refine ⟨t, rfl, ⟨hlength, ?_, ?_, connected_of_status hconn hne, ht⟩, hsend⟩
  · exact UInt64.not_lt.mp hle
  · simpa [hlength] using hnull

/-- TOO_LARGE is returned exactly for what is longer than the legacy core takes. -/
theorem newToxFileSendChunk_tooLarge {lg : Legacy} {tox : NewTox} {f n : UInt32} {data : Buffer}
    (hlength : data.length ≠ 0) :
    (∃ tox' actions, newToxFileSendChunk lg tox f n data = .ok (.tooLarge, tox', actions)) ↔
      lg.dataSize f < data.length := by
  constructor
  · rintro ⟨tox', actions, h⟩
    by_contra hle
    unfold newToxFileSendChunk at h
    rw [if_neg hlength, if_neg hle] at h
    split at h
    · simp at h
    split at h
    · simp at h
    simp only [Checked.bind_eq_ok] at h
    obtain ⟨connection, -, h⟩ := h
    split at h
    · simp at h
    split at h
    · simp at h
    · simp at h
  · intro hlt
    exact ⟨tox, [], by simp [newToxFileSendChunk, hlength, hlt]⟩

end Tox4j.Adapter
