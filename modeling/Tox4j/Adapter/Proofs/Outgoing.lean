import Mathlib.Tactic
import Tox4j.Adapter.Outgoing
import Tox4j.Adapter.Proofs.Log

/-!
# Requests for chunks of outgoing files

The table has outgoing and incoming transfers, with one state, one loop and one branch for FINISHED
for both. So requests are for outgoing files only as long as the friend does not make an incoming
transfer run or report its end.
-/

namespace Tox4j.Adapter

open Tox4j.Misc

theorem FileTransfer.newFileNumber_inj {rs rs' : Bool} {n n' : UInt8} :
    newFileNumber rs n = newFileNumber rs' n' ↔ rs = rs' ∧ n = n' := by
  constructor
  · intro h
    have hrs := sendReceive_newFileNumber rs n
    rw [h, sendReceive_newFileNumber, Bool.not_inj_iff] at hrs
    have hn := oldFileNumber_newFileNumber rs n
    rw [h, oldFileNumber_newFileNumber] at hn
    exact ⟨hrs.symm, hn.symm⟩
  · intro h
    rw [h.1, h.2]

theorem FileTransfer.toUInt32_lt (n : UInt8) : n.toUInt32 < 0x100 := by
  have h := n.toNat_lt
  rw [UInt32.lt_iff_toNat_lt]
  simpa using h

theorem FileTransfer.or_256_not_lt (n : UInt8) : ¬ n.toUInt32 ||| 0x100 < 0x100 := by
  rw [UInt32.lt_iff_toNat_lt, toNat_or_256]
  simp

/-- Every entry is under a number of one of the two directions. -/
def NewTox.Numbered (tox : NewTox) : Prop :=
  ∀ f num t, tox.getTransfer f num = some t →
    ∃ receiveSend n, num = FileTransfer.newFileNumber receiveSend n

theorem Call.Effect.numbered {lg : Legacy} {tox tox' : NewTox} {call : Call}
    {actions : List Action} (heffect : call.Effect lg tox tox' actions) (h : tox.Numbered) :
    tox'.Numbered := by
  intro f num t ht
  rcases heffect.entry_cases ht with ⟨m, _, _, rfl, -⟩ | ⟨m, rfl⟩ | ⟨-, t', ht'⟩
  · exact ⟨true, m, (FileTransfer.newFileNumber_true m).symm⟩
  · exact ⟨false, m, (FileTransfer.newFileNumber_false m).symm⟩
  · exact h f num t' ht'

theorem run_numbered {ls : List (Legacy × Call)} {s : Logged} (h : Run LoggedStep {} ls s) :
    s.tox.Numbered := by
  induction h with
  | nil =>
    intro f num t ht
    simp at ht
  | snoc _ hstep ih =>
    obtain ⟨actions, hrun, -⟩ := loggedStep_iff.mp hstep
    exact (Call.run_effect hrun).numbered ih

section

variable {lg : Legacy} {s s' : Logged} {call : Call} {actions : List Action} {f n : UInt32}

/-- The outgoing transfers of the table are being sent. -/
def Logged.Opened (s : Logged) : Prop :=
  ∀ f (n : UInt8) t, s.tox.getTransfer f n.toUInt32 = some t →
    Since (OpensFile f n.toUInt32) (fun e => e.1.Ends f n.toUInt32) s.log

theorem opened_step (h : s.Opened) (heffect : call.Effect lg s.tox s'.tox actions)
    (hlog : s'.log = s.log ++ actions.map (Prod.mk call)) : s'.Opened := by
  intro f n t ht
  rw [hlog, since_append]
  rcases heffect.entry_cases ht with ⟨m, size, name, hn, rfl⟩ | ⟨m, hn⟩ | ⟨hends, t', ht'⟩
  · exact .inl (since_singleton.mpr ⟨m, size, name, hn.symm, rfl⟩)
  · exact absurd hn (FileTransfer.toUInt32_ne_or_256 n m)
  · refine .inr ⟨h f n t' ht', ?_⟩
    intro e he
    obtain ⟨a, -, rfl⟩ := List.mem_map.mp he
    exact hends

theorem run_opened {ls : List (Legacy × Call)} (h : Run LoggedStep {} ls s) : s.Opened := by
  induction h with
  | nil =>
    intro f n t ht
    simp at ht
  | snoc _ hstep ih =>
    obtain ⟨actions, hrun, hlog⟩ := loggedStep_iff.mp hstep
    exact opened_step ih (Call.run_effect hrun) hlog

/-- The entry of an outgoing transfer is one that is being sent, and no other entry is. -/
theorem beingSent_iff (hnumbered : s.tox.Numbered) (hopened : s.Opened) {t : FileTransfer}
    (ht : s.tox.getTransfer f n = some t) :
    BeingSent f n s.log ↔ FileTransfer.sendReceive n = false := by
  obtain ⟨rs, m, rfl⟩ := hnumbered f n t ht
  cases rs with
  | true =>
    rw [FileTransfer.newFileNumber_true] at ht ⊢
    exact iff_of_true ⟨FileTransfer.toUInt32_lt m, hopened f m t ht⟩
      (FileTransfer.sendReceive_toUInt32 m)
  | false =>
    rw [FileTransfer.newFileNumber_false, FileTransfer.sendReceive_or_256]
    refine iff_of_false ?_ (by decide)
    intro hsent
    exact FileTransfer.or_256_not_lt m hsent.1

/-- Requests in a longer log. -/
theorem requestsRight_append {l m : List (Call × Action)} : RequestsRight (l ++ m) ↔
    RequestsRight l ∧ ∀ a call f n position length b,
      m = a ++ (call, .event (.fileRequestChunk f n position length)) :: b →
        BeingSent f n (l ++ a) := by
  constructor
  · intro h
    constructor
    · intro a call f n position length b hl
      exact h a call f n position length (b ++ m) (by rw [hl, List.append_assoc, List.cons_append])
    · intro a call f n position length b hm
      exact h (l ++ a) call f n position length b (by rw [hm, List.append_assoc])
  · intro h a call f n position length b heq
    rcases append_eq_append_cons heq with ⟨a', rfl, hm⟩ | ⟨c', hl, -⟩
    · exact h.2 a' call f n position length b hm
    · exact h.1 a call f n position length c' hl

/-- A call that raises no requests. -/
theorem requestsRight_quiet (hlog : s'.log = s.log ++ actions.map (Prod.mk call))
    (hquiet : ∀ f n position length, .event (.fileRequestChunk f n position length) ∉ actions) :
    RequestsRight s'.log ↔ RequestsRight s.log := by
  rw [hlog, requestsRight_append]
  refine and_iff_left ?_
  intro a call' f n position length b heq
  have hmem : (call', .event (.fileRequestChunk f n position length)) ∈
      actions.map (Prod.mk call) := by
    rw [heq]
    simp
  obtain ⟨a', ha', heq'⟩ := List.mem_map.mp hmem
  cases heq'
  exact absurd ha' (hquiet f n position length)

/-- An iteration raises right requests exactly when no incoming transfer is due. -/
theorem requestsRight_asked (hnumbered : s.tox.Numbered) (hopened : s.Opened) :
    (∀ a call' f n position length b,
      (afterToxDo lg s.tox).2.map (Prod.mk .afterToxDo) =
        a ++ (call', .event (.fileRequestChunk f n position length)) :: b →
          BeingSent f n (s.log ++ a)) ↔
      ∀ f n t, s.tox.getTransfer f n = some t → t.Due → FileTransfer.sendReceive n = false := by
  constructor
  · intro h f n t ht hdue
    have hmem : .event (.fileRequestChunk f n t.position (requestSize lg f t)) ∈
        (afterToxDo lg s.tox).2 := by
      rw [afterToxDo_eq]
      refine List.mem_append_right _ (mem_requestChunks.mpr ⟨f, n, t, ?_, hdue, rfl⟩)
      rw [getTransfer_checkConnection]
      exact ht
    obtain ⟨a, b, heq⟩ := List.append_of_mem hmem
    have hsent := h (a.map (Prod.mk .afterToxDo)) .afterToxDo f n _ _
      (b.map (Prod.mk .afterToxDo)) (by rw [heq, List.map_append, List.map_cons])
    obtain ⟨rs, m, rfl⟩ := hnumbered f n t ht
    cases rs with
    | true => rw [FileTransfer.newFileNumber_true, FileTransfer.sendReceive_toUInt32]
    | false =>
      rw [FileTransfer.newFileNumber_false] at hsent
      exact absurd hsent.1 (FileTransfer.or_256_not_lt m)
  · intro h a call' f n position length b heq
    have hmem : (call', .event (.fileRequestChunk f n position length)) ∈
        (afterToxDo lg s.tox).2.map (Prod.mk .afterToxDo) := by
      rw [heq]
      simp
    obtain ⟨a', ha', heq'⟩ := List.mem_map.mp hmem
    cases heq'
    rcases mem_afterToxDo ha' with ⟨status, hstatus⟩ | ⟨f', n', t, ht, hdue, hevent⟩
    · cases hstatus
    · cases hevent
      have hsent := (beingSent_iff hnumbered hopened ht).mpr (h f n t ht hdue)
      refine ⟨hsent.1, since_append.mpr (.inr ⟨hsent.2, ?_⟩)⟩
      intro e he hends
      have hcall : e ∈ (afterToxDo lg s.tox).2.map (Prod.mk .afterToxDo) := by
        rw [heq]
        exact List.mem_append_left _ he
      obtain ⟨a'', -, rfl⟩ := List.mem_map.mp hcall
      exact hends

/-- One step keeps requests right exactly when it meets the condition. -/
theorem requestsRight_step (hnumbered : s.tox.Numbered) (hopened : s.Opened)
    (heffect : call.Effect lg s.tox s'.tox actions)
    (hlog : s'.log = s.log ++ actions.map (Prod.mk call)) :
    RequestsRight s'.log ↔ RequestsRight s.log ∧ OutgoingOnly s (lg, call) := by
  have hquiet : (∀ f n position length, .event (.fileRequestChunk f n position length) ∉ actions) →
      OutgoingOnly s (lg, call) →
        (RequestsRight s'.log ↔ RequestsRight s.log ∧ OutgoingOnly s (lg, call)) := by
    intro hnone hcond
    rw [requestsRight_quiet hlog hnone, and_iff_left hcond]
  generalize htox : s'.tox = tox' at heffect
  cases heffect with
  | unchanged hclient hcontrols =>
    refine hquiet ?_ ?_
    · intro f n position length hmem
      obtain ⟨f', sr, n', c, -, heq⟩ := hcontrols _ hmem
      cases heq
    · cases call with
      | fileSend | fileSendChunk | fileControl => trivial
      | callback | afterToxDo => exact hclient.elim
  | opened | offered => exact hquiet (by simp) trivial
  | sent | received =>
    refine hquiet ?_ trivial
    intro f n position length hmem
    split at hmem <;> simp at hmem
  | accepted => exact hquiet (by simp) trivial
  | @finished f rs n t ht =>
    rw [hlog, requestsRight_append]
    refine and_congr_right fun _ => ?_
    have hsent : BeingSent f (FileTransfer.newFileNumber (rs != 0) n) s.log ↔ rs ≠ 0 := by
      rw [beingSent_iff hnumbered hopened ht, FileTransfer.sendReceive_newFileNumber]
      simp
    refine Iff.trans ?_ hsent
    constructor
    · intro h
      have h' := h [] _ _ _ _ _ [] rfl
      rwa [List.append_nil] at h'
    · intro h a call' f' n' position length b heq
      cases a with
      | nil =>
        cases heq
        rwa [List.append_nil]
      | cons e a => simp at heq
  | asked =>
    rw [hlog, requestsRight_append, requestsRight_asked hnumbered hopened]
    rfl

/-- Requests are only for files that are being sent exactly in the runs in which the friend does
    not report the end of a file of its own, and no iteration finds an incoming transfer due. -/
theorem requests_right_iff {ls : List (Legacy × Call)} {s : Logged}
    (h : Run LoggedStep {} ls s) :
    RequestsRight s.log ↔ Run (Guarded OutgoingOnly LoggedStep) {} ls s := by
  induction h with
  | nil =>
    refine iff_of_true ?_ .nil
    intro a call f n position length b heq
    simp at heq
  | @snoc ls s s' l hrun hstep ih =>
    obtain ⟨actions, hcall, hlog⟩ := loggedStep_iff.mp hstep
    rw [requestsRight_step (run_numbered hrun) (run_opened hrun) (Call.run_effect hcall) hlog, ih,
      Run.guarded_snoc OutgoingOnly loggedStep_functional hrun hstep]

end

/-- A file is sent that the friend accepts and whose end it reports. -/
def endedByReceiver : List (Legacy × Call) :=
  [(.oneFriend, .fileSend 0 .data 10 (.bytes [97]) .initial),
    (.oneFriend, .callback (.fileControl 0 1 0 .accept)),
    (.oneFriend, .callback (.fileControl 0 1 0 .finished))]

/-- A file is offered by the friend, who then reports its end. -/
def endedBySender : List (Legacy × Call) :=
  [(.oneFriend, .callback (.fileSendRequest 0 0 10 [97] .initial)),
    (.oneFriend, .callback (.fileControl 0 0 0 .finished))]

/-- A file is offered by the friend, who then sends an ACCEPT for it. -/
def acceptedBySender : List (Legacy × Call) :=
  [(.oneFriend, .callback (.fileSendRequest 0 0 10 [97] .initial)),
    (.oneFriend, .callback (.fileControl 0 0 0 .accept)), (.oneFriend, .afterToxDo)]

/-- The end of the file that is sent is reported as it should be. -/
theorem requests_right_endedByReceiver : ∃ s, Run LoggedStep {} endedByReceiver s ∧
    RequestsRight s.log := by
  have hfold : ∃ s, endedByReceiver.foldlM Logged.run {} = .ok s := ⟨_, rfl⟩
  obtain ⟨s, hfold⟩ := hfold
  have hrun : Run LoggedStep {} endedByReceiver s := .of_foldlM hfold
  refine ⟨s, hrun, (requests_right_iff hrun).mpr (hrun.guard OutgoingOnly ?_)⟩
  intro l hl s
  simp only [endedByReceiver, List.mem_cons, List.not_mem_nil, or_false] at hl
  rcases hl with rfl | rfl | rfl
  · trivial
  · trivial
  · show (1 : UInt8) ≠ 0
    decide

/-- The client is asked for chunks of a file that it receives, and told that it has been sent. -/
theorem incoming_file_requested :
    (∃ s, Run LoggedStep {} endedBySender s ∧ ¬ RequestsRight s.log) ∧
      ∃ s, Run LoggedStep {} acceptedBySender s ∧ ¬ RequestsRight s.log := by
  have hended : Logged.log <$> endedBySender.foldlM Logged.run {} =
      .ok ([(.callback (.fileSendRequest 0 0 10 [97] .initial),
          .event (.fileReceive 0 0x100 .data 10 [97]))] ++
        (.callback (.fileControl 0 0 0 .finished), .event (.fileRequestChunk 0 0x100 0 0)) ::
          []) := by
    decide +kernel
  have haccepted : Logged.log <$> acceptedBySender.foldlM Logged.run {} =
      .ok ([(.callback (.fileSendRequest 0 0 10 [97] .initial),
            .event (.fileReceive 0 0x100 .data 10 [97])),
          (.callback (.fileControl 0 0 0 .accept), .event (.fileControl 0 0x100 .resume)),
          (.afterToxDo, .event (.connectionStatus .udp4))] ++
        (.afterToxDo, .event (.fileRequestChunk 0 0x100 0 10)) :: []) := by
    decide +kernel
  rw [Checked.map_eq_ok] at hended haccepted
  obtain ⟨s, hrun, hlog⟩ := hended
  obtain ⟨s', hrun', hlog'⟩ := haccepted
  refine ⟨⟨s, .of_foldlM hrun, ?_⟩, s', .of_foldlM hrun', ?_⟩
  · intro h
    exact absurd (h _ _ _ _ _ _ _ hlog).1 (by decide)
  · intro h
    exact absurd (h _ _ _ _ _ _ _ hlog').1 (by decide)

end Tox4j.Adapter
