import Tox4j.Adapter.Proofs.Effects

/-!
# How far transfers get and how much is requested

`new_tox_file_send_chunk` compares a chunk with `tox_file_data_size` only, so a client or a
peer can push the position of a transfer past its size, and `file_size - position` wraps
around in the next request. The sessions in which everybody keeps to what was requested
(`Conforms`) keep the bounds.
-/

namespace Tox4j.Adapter

open Tox4j.Misc

/-- Every transfer of known size is at a position within its file. -/
def ProgressBounded (tox : NewTox) : Prop :=
  ∀ f n t, tox.getTransfer f n = some t → t.fileSize ≠ 0 → t.position ≤ t.fileSize

/-- Every request among the actions is for at least one byte, no more than a connected friend
    may be sent at once, and within what is left of the file. -/
def RequestsBounded (chunkSize : UInt32 → Int32) (tox : NewTox) (actions : List Action) : Prop :=
  ∀ f n position length, .event (.fileRequestChunk f n position length) ∈ actions →
    ∃ t, tox.getTransfer f n = some t ∧ position = t.position ∧ 0 < length.toNat ∧
      (length.toNat : ℤ) ≤ (chunkSize f).toInt ∧
      (length.toNat : ℤ) ≤ (t.fileSize.toNat : ℤ) - t.position.toNat

/-- How many bytes of a transfer are requested: none, while no request is outstanding. -/
def FileTransfer.requested (t : FileTransfer) : UInt64 :=
  if t.eventPending then t.sizeRequested else 0

/-- The chunk is longer than what was requested. A chunk that nobody requested is, too. -/
def LongerThanRequested (tox : NewTox) (f n : UInt32) (data : Buffer) : Prop :=
  ∃ t, tox.getTransfer f n = some t ∧ t.requested < data.length

/-- What a call has to respect: the requests raised after `tox_do` are bounded, and a chunk
    longer than requested is refused with TOO_LARGE and sends nothing. -/
def Call.Bounded (chunkSize : UInt32 → Int32) (lg : Legacy) (tox : NewTox) : Call → Prop
  | .afterToxDo => RequestsBounded chunkSize tox (Adapter.afterToxDo lg tox).2
  | .fileSendChunk f n data => LongerThanRequested tox f n data →
      newToxFileSendChunk lg tox f n data = .ok (.tooLarge, tox, [])
  | _ => True

/-- `chunkSize` is what the legacy core allows for a connected friend: `tox_file_data_size`
    returns it, or -1 when the friend is not connected. -/
structure Legacy.SizesDocumented (chunkSize : UInt32 → Int32) (lg : Legacy) : Prop where
  positive : ∀ f, 0 < (chunkSize f).toInt
  connected : ∀ f, lg.Connected f → lg.fileDataSize f = chunkSize f
  disconnected : ∀ f, ¬ lg.Connected f → lg.fileDataSize f = -1

/-- The calls that stay within what was requested. -/
def Call.Conforms (chunkSize : UInt32 → Int32) (lg : Legacy) (tox : NewTox) : Call → Prop
  | .fileSendChunk f n data =>
      (LongerThanRequested tox f n data → lg.dataSize f < data.length) ∧
      ∀ t, ChunkAccepted lg tox f n data t → t.fileSize ≠ 0 →
        data.length ≤ t.fileSize - t.position
  | .callback (.fileData f n data) =>
      ∀ t, tox.getTransfer f (n.toUInt32 ||| 0x100) = some t → t.fileSize ≠ 0 →
        UInt64.ofNat data.length ≤ t.fileSize - t.position
  | .afterToxDo =>
      ∀ f n t, tox.getTransfer f n = some t → t.Due → t.fileSize ≠ 0 ∧
        (lg.Connected f ∨ ((t.fileSize - t.position).toNat : ℤ) ≤ (chunkSize f).toInt)
  | _ => True

section

/-! The chunk size may differ between the situations the legacy core is in. -/

variable (chunkSize : Legacy → UInt32 → Int32)

/-- The legacy core answers as documented. -/
def Documented (_ : NewTox) (l : Legacy × Call) : Prop :=
  l.1.SizesDocumented (chunkSize l.1)

/-- A step in which the legacy core answers as documented and the call conforms. -/
def Conforming (tox : NewTox) (l : Legacy × Call) : Prop :=
  Documented chunkSize tox l ∧ l.2.Conforms (chunkSize l.1) l.1 tox

end

theorem add_le_of_le_sub {p l s : UInt64} (hp : p ≤ s) (hl : l ≤ s - p) : p + l ≤ s := by
  rw [UInt64.le_iff_toNat_le] at *
  rw [UInt64.toNat_sub_of_le _ _ (UInt64.le_iff_toNat_le.mpr hp)] at hl
  have hs := s.toNat_lt
  rw [UInt64.toNat_add, Nat.mod_eq_of_lt (by omega)]
  omega

/-- Assigning to a transfer keeps the bound on the others. -/
theorem ProgressBounded.setTransfer {tox : NewTox} (h : ProgressBounded tox) {f n : UInt32}
    {t : FileTransfer} (ht : t.fileSize ≠ 0 → t.position ≤ t.fileSize) :
    ProgressBounded (tox.setTransfer f n t) := by
  intro f' n' t' ht'
  rw [NewTox.getTransfer_setTransfer] at ht'
  split at ht'
  · cases ht'
    exact ht
  · exact h f' n' t' ht'

theorem ProgressBounded.eraseTransfer {tox : NewTox} (h : ProgressBounded tox) (f n : UInt32) :
    ProgressBounded (tox.eraseTransfer f n) := by
  intro f' n' t' ht'
  rw [NewTox.getTransfer_eraseTransfer] at ht'
  split at ht'
  · cases ht'
  · exact h f' n' t' ht'

section

variable {chunkSize : UInt32 → Int32} {sizes : Legacy → UInt32 → Int32} {lg : Legacy}
  {tox tox' : NewTox}

/-- The bound is kept by every conforming step. -/
theorem step_progressBounded {l : Legacy × Call} (h : ProgressBounded tox)
    (hc : Conforming sizes tox l) (hstep : SessionStep tox l tox') : ProgressBounded tox' := by
  obtain ⟨lg, call⟩ := l
  obtain ⟨actions, hrun⟩ := hstep
  cases Call.run_effect hrun with
  | unchanged => exact h
  | opened | offered => exact h.setTransfer fun _ => UInt64.zero_le
  | sent haccepted =>
    refine h.setTransfer ?_
    intro hsize
    exact add_le_of_le_sub (h _ _ _ haccepted.transfer hsize) (hc.2.2 _ haccepted hsize)
  | received ht =>
    refine h.setTransfer ?_
    intro hsize
    exact add_le_of_le_sub (h _ _ _ ht hsize) (hc.2 _ ht hsize)
  | @accepted f rs n t ht => exact h.setTransfer (h f _ t ht)
  | finished => exact h.eraseTransfer _ _
  | asked =>
    intro f n t' ht'
    rw [getTransfer_afterToxDo, Option.map_eq_some_iff] at ht'
    obtain ⟨t, ht, rfl⟩ := ht'
    simpa using h f n t ht

/-- A request for a transfer that is within its file and due is bounded. -/
theorem requestSize_bounded {f : UInt32} {t : FileTransfer} (hlg : lg.SizesDocumented chunkSize)
    (hle : t.position ≤ t.fileSize) (hdue : t.Due)
    (hc : lg.Connected f ∨ ((t.fileSize - t.position).toNat : ℤ) ≤ (chunkSize f).toInt) :
    0 < (requestSize lg f t).toNat ∧ ((requestSize lg f t).toNat : ℤ) ≤ (chunkSize f).toInt ∧
      ((requestSize lg f t).toNat : ℤ) ≤ (t.fileSize.toNat : ℤ) - t.position.toNat := by
  have hchunk := hlg.positive f
  have hsub := UInt64.toNat_sub_of_le _ _ hle
  have hle' := UInt64.le_iff_toNat_le.mp hle
  have hne : t.position.toNat ≠ t.fileSize.toNat := fun heq => hdue.1 (UInt64.toNat_inj.mp heq)
  rw [toNat_requestSize]
  by_cases hconn : lg.Connected f
  · rw [← hlg.connected f hconn] at hchunk ⊢
    have hdata := dataSize_of_pos hchunk
    omega
  · -- the answer -1 turns into the largest size
    have hdata : (lg.dataSize f).toNat = 2 ^ 64 - 1 := by
      rw [Legacy.dataSize, hlg.disconnected f hconn]
      rfl
    have hlt := (t.fileSize - t.position).toNat_lt
    have hleft := hc.resolve_left hconn
    omega

/-- In a state within the bounds, a conforming call is bounded. -/
theorem bounded_of_conforming {call : Call} (h : ProgressBounded tox)
    (hlg : lg.SizesDocumented chunkSize) (hc : call.Conforms chunkSize lg tox) :
    call.Bounded chunkSize lg tox := by
  cases call with
  | fileSendChunk f n data =>
    intro hlong
    have hlt := hc.1 hlong
    have hpos : data.length ≠ 0 := by
      rintro hzero
      rw [hzero] at hlt
      exact absurd hlt (UInt64.not_lt.mpr UInt64.zero_le)
    simp [newToxFileSendChunk, hpos, hlt]
  | afterToxDo =>
    intro f n position length hmem
    rcases mem_afterToxDo hmem with ⟨status, hstatus⟩ | ⟨f', n', t, ht, hdue, heq⟩
    · cases hstatus
    · cases heq
      obtain ⟨hsize, hconn⟩ := hc f n t ht hdue
      exact ⟨t, ht, rfl, requestSize_bounded hlg (h f n t ht hsize) hdue hconn⟩
  | fileSend | fileControl | callback => trivial

/-- Sessions in which the legacy core answers as documented, every chunk was requested and is no
    longer than the request unless it is refused for its length, every chunk sent or received is
    within what is left of its file, and requests are due only for files of known size, with a
    connected friend or no more than one chunk left: all positions and requests are within
    bounds. -/
theorem session_bounded {ls : List (Legacy × Call)}
    (h : Run (Guarded (Conforming sizes) SessionStep) {} ls tox) :
    ProgressBounded tox ∧ ∀ lg call, Conforming sizes tox (lg, call) →
      call.Bounded (sizes lg) lg tox := by
  have hprogress : ProgressBounded tox := by
    refine h.invariant ?_ fun s l s' hs hstep => step_progressBounded hs hstep.1 hstep.2
    intro f n t ht
    simp at ht
  exact ⟨hprogress, fun lg call hc => bounded_of_conforming hprogress hc.1 hc.2⟩

end

/-- A file of ten bytes is offered and accepted. -/
def acceptedOffer : List (Legacy × Call) :=
  [(.oneFriend, .fileSend 0 .data 10 (.bytes [97]) .initial),
    (.oneFriend, .callback (.fileControl 0 1 0 .accept))]

/-- The client answers the request for ten bytes with eleven. -/
def overlongAnswer : List (Legacy × Call) :=
  acceptedOffer ++ [(.oneFriend, .afterToxDo),
    (.oneFriend, .fileSendChunk 0 0 (.bytes [1, 2, 3, 4, 5, 6, 7, 8, 9, 10, 11]))]

theorem oneFriend_connected {f : UInt32} : Legacy.oneFriend.Connected f ↔ f = 0 := by
  by_cases h : f = 0 <;> simp [Legacy.Connected, Legacy.oneFriend, h]

theorem oneFriend_documented : Legacy.oneFriend.SizesDocumented fun _ => 1371 where
  positive f := by decide
  connected f h := by simp [Legacy.oneFriend, oneFriend_connected.mp h]
  disconnected f h := by simp [Legacy.oneFriend, mt oneFriend_connected.mpr h]

theorem runCalls_acceptedOffer : runCalls {} acceptedOffer =
    .ok ((NewTox.setTransfer {} 0 0 { cause := .initial, fileSize := 10 }).setTransfer 0 0
      { cause := .initial, fileSize := 10, state := .running }) := by
  rfl

/-- The request for the accepted offer is bounded. -/
theorem session_bounded_acceptedOffer : ∃ tox, runCalls {} acceptedOffer = .ok tox ∧
    ProgressBounded tox ∧ Call.Bounded (fun _ => 1371) .oneFriend tox .afterToxDo := by
  have hguard := (runCalls_run runCalls_acceptedOffer).guard
    (Conforming fun _ _ => 1371) fun l hl s => by
      simp only [acceptedOffer, List.mem_cons, List.not_mem_nil, or_false] at hl
      rcases hl with rfl | rfl
      · exact ⟨oneFriend_documented, trivial⟩
      · exact ⟨oneFriend_documented, trivial⟩
  have h := session_bounded hguard
  refine ⟨_, runCalls_acceptedOffer, h.1, h.2 .oneFriend .afterToxDo ⟨oneFriend_documented, ?_⟩⟩
  intro f n t ht hdue
  simp only [NewTox.getTransfer_setTransfer, NewTox.getTransfer_empty] at ht
  split at ht
  · rename_i hkey
    cases ht
    exact ⟨by decide, .inl (oneFriend_connected.mpr hkey.1.symm)⟩
  · rename_i hkey
    simp at ht

/-- The transfer is past its end after the overlong answer. -/
theorem runCalls_overlongAnswer : ∃ tox t, runCalls {} overlongAnswer = .ok tox ∧
    tox.getTransfer 0 0 = some t ∧ t.position = 11 ∧ t.fileSize = 10 := by
  have h : (do
      let tox ← runCalls {} overlongAnswer
      return (tox.getTransfer 0 0).map fun t => (t.position, t.fileSize)) =
        (.ok (some (11, 10)) : Checked _) := by
    decide +kernel
  simp only [Checked.bind_eq_ok, Checked.pure_eq_ok, Option.map_eq_some_iff, Prod.mk.injEq] at h
  obtain ⟨tox, hrun, t, ht, hpos, hsize⟩ := h
  exact ⟨tox, t, hrun, ht, hpos, hsize⟩

/-- Not every session is within the bounds. -/
theorem overlong_answer_not_bounded : ¬ ∀ (sizes : Legacy → UInt32 → Int32)
    (ls : List (Legacy × Call)) (tox : NewTox),
    Run (Guarded (Documented sizes) SessionStep) {} ls tox →
      ProgressBounded tox ∧ ∀ (lg : Legacy) (call : Call), lg.SizesDocumented (sizes lg) →
        call.Bounded (sizes lg) lg tox := by
  intro hall
  obtain ⟨tox, t, hrun, ht, hpos, hsize⟩ := runCalls_overlongAnswer
  have hguard := (runCalls_run hrun).guard (Documented fun _ _ => 1371) fun l hl s => by
    have hlg : l.1 = .oneFriend := by
      simp only [overlongAnswer, acceptedOffer, List.cons_append, List.nil_append, List.mem_cons,
        List.not_mem_nil, or_false] at hl
      rcases hl with rfl | rfl | rfl | rfl <;> rfl
    rw [Documented, hlg]
    exact oneFriend_documented
  have h := (hall _ _ tox hguard).1 0 0 t ht (by rw [hsize]; decide)
  rw [hpos, hsize] at h
  exact absurd h (by decide)

end Tox4j.Adapter
