import Tox4j.Adapter.Proofs.FileApi
import Tox4j.Misc.Run

/-!
# The file part of one `new_Tox` as a transition system

A session of a `new_Tox` is a sequence of calls of the file API by the local client and of
callbacks by the legacy core. The legacy core makes its callbacks inside `tox_do`, so
`new_tox_iteration` is the callbacks followed by `afterToxDo`; as steps of their own they also
cover a peer who does something between two of them. No other function of the adapter assigns
to the transfer table. Every step comes with its own answers of the legacy core.
-/

namespace Tox4j.Adapter

open Tox4j.Misc

/-- A call of the file API, a callback of the legacy core, or the end of an iteration. -/
inductive Call where
  | fileSend (friendNumber : UInt32) (kind : FileKind) (fileSize : UInt64) (filename : Buffer)
      (cause : PauseReason)
  | fileSendChunk (friendNumber fileNumber : UInt32) (data : Buffer)
  | fileControl (friendNumber fileNumber : UInt32) (control : FileControl)
  | callback (cb : LegacyCallback)
  | afterToxDo
  deriving DecidableEq, Repr

/-- The state after a call and what went out during it. -/
def Call.run (lg : Legacy) (tox : NewTox) : Call → Checked (NewTox × List Action)
  | .fileSend friendNumber kind fileSize filename cause => do
    let (_, _, tox, actions) ←
      newToxFileSend lg tox friendNumber kind fileSize filename cause
    return (tox, actions)
  | .fileSendChunk friendNumber fileNumber data => do
    let (_, tox, actions) ← newToxFileSendChunk lg tox friendNumber fileNumber data
    return (tox, actions)
  | .fileControl friendNumber fileNumber control => do
    let (_, tox, actions) ← newToxFileControl lg tox friendNumber fileNumber control
    return (tox, actions)
  | .callback cb => cb.run tox lg
  | .afterToxDo => .ok (Adapter.afterToxDo lg tox)

section

variable {lg : Legacy} {tox tox' : NewTox} {actions : List Action}

theorem Call.run_fileSend {f : UInt32} {kind : FileKind} {size : UInt64} {name : Buffer}
    {cause : PauseReason}
    (h : (Call.fileSend f kind size name cause).run lg tox = .ok (tox', actions)) :
    (tox' = tox ∧ actions = []) ∨
      ∃ n : UInt8, tox.getTransfer f n.toUInt32 = none ∧
        tox' = tox.setTransfer f n.toUInt32 { cause, fileSize := size } ∧
        actions = [.newSender f n size name.contents] := by
  simp only [run, Checked.bind_eq_ok, Checked.pure_eq_ok, Prod.exists, Prod.mk.injEq] at h
  obtain ⟨err, num, mid, out, hsend, rfl, rfl⟩ := h
  rcases newToxFileSend_cases hsend with ⟨-, -, rfl, rfl⟩ | ⟨n, -, rfl, -, -, -, hnone, rfl, rfl⟩
  · exact .inl ⟨rfl, rfl⟩
  · exact .inr ⟨n, hnone, rfl, rfl⟩

theorem Call.run_fileSendChunk {f n : UInt32} {data : Buffer}
    (h : (Call.fileSendChunk f n data).run lg tox = .ok (tox', actions)) :
    (tox' = tox ∧ actions = []) ∨
      ∃ t, ChunkAccepted lg tox f n data t ∧ sendChunk lg tox f n t data = .ok (tox', actions) := by
  simp only [run, Checked.bind_eq_ok, Checked.pure_eq_ok, Prod.exists, Prod.mk.injEq] at h
  obtain ⟨err, mid, out, hchunk, rfl, rfl⟩ := h
  rcases newToxFileSendChunk_cases hchunk with ⟨-, rfl, rfl⟩ | ⟨t, -, haccepted, hsend⟩
  · exact .inl ⟨rfl, rfl⟩
  · exact .inr ⟨t, haccepted, hsend⟩

/-- No control of the client changes a transfer. -/
theorem Call.run_fileControl {f n : UInt32} {control : FileControl}
    (h : (Call.fileControl f n control).run lg tox = .ok (tox', actions)) :
    tox' = tox ∧ (actions = [] ∨ ∃ c, (c = .accept ∨ c = .pause) ∧
      actions =
        [.sendControl f (FileTransfer.sendReceive n) (FileTransfer.oldFileNumber n) c]) := by
  simp only [run, Checked.bind_eq_ok, Checked.pure_eq_ok, Prod.exists, Prod.mk.injEq] at h
  obtain ⟨err, mid, out, hcontrol, rfl, rfl⟩ := h
  exact newToxFileControl_cases hcontrol

theorem Call.run_afterToxDo (h : Call.afterToxDo.run lg tox = .ok (tox', actions)) :
    tox' = (Adapter.afterToxDo lg tox).1 ∧ actions = (Adapter.afterToxDo lg tox).2 := by
  simp only [run, Except.ok.injEq] at h
  rw [h]
  exact ⟨rfl, rfl⟩

end

/-- One step of a session; its label also holds the answers of the legacy core. -/
def SessionStep (tox : NewTox) (l : Legacy × Call) (tox' : NewTox) : Prop :=
  ∃ actions, l.2.run l.1 tox = .ok (tox', actions)

/-- The state after executing the calls in order. -/
def runCalls (tox : NewTox) (ls : List (Legacy × Call)) : Checked NewTox :=
  ls.foldlM (fun tox l => Prod.fst <$> l.2.run l.1 tox) tox

theorem runCalls_run {tox tox' : NewTox} {ls : List (Legacy × Call)}
    (h : runCalls tox ls = .ok tox') : Run SessionStep tox ls tox' :=
  (Run.of_foldlM h).mono fun _ _ _ hstep => by
    simp only [Checked.map_eq_ok, Prod.exists] at hstep
    obtain ⟨_, actions, hrun, rfl⟩ := hstep
    exact ⟨actions, hrun⟩

end Tox4j.Adapter
