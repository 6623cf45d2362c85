import Tox4j.Adapter.Session

/-!
# What one call can do

`Call.Effect` lists everything that a call which returns can have done to the transfer table,
together with what went out. The invariants of sessions are proved by cases on it.
-/

namespace Tox4j.Adapter

open Tox4j.Misc

/-- A call of the client. -/
def Call.OfClient : Call → Prop
  | .fileSend .. | .fileSendChunk .. | .fileControl .. => True
  | .callback _ | .afterToxDo => False

/-- What a call does: it has no effect on the table, opens a transfer for sending or for receiving,
    sends or receives data, is a control of the friend, or asks for chunks. -/
inductive Call.Effect (lg : Legacy) (tox : NewTox) : Call → NewTox → List Action → Prop where
  | unchanged {call : Call} {actions : List Action} (hclient : call.OfClient)
      (h : ∀ a ∈ actions, ∃ f sendReceive n control, (control = .accept ∨ control = .pause) ∧
        a = .sendControl f sendReceive n control) :
      Effect lg tox call tox actions
  | opened {f : UInt32} {n : UInt8} {kind : FileKind} {size : UInt64} {name : Buffer}
      {cause : PauseReason} (hfree : tox.getTransfer f n.toUInt32 = none) :
      Effect lg tox (.fileSend f kind size name cause)
        (tox.setTransfer f n.toUInt32 { cause, fileSize := size })
        [.newSender f n size name.contents]
  | offered {f : UInt32} {n : UInt8} {size : UInt64} {name : List UInt8} {cause : PauseReason}
      (hfree : tox.getTransfer f (n.toUInt32 ||| 0x100) = none) :
      Effect lg tox (.callback (.fileSendRequest f n size name cause))
        (tox.setTransfer f (n.toUInt32 ||| 0x100) { cause, fileSize := size })
        [.event (.fileReceive f (n.toUInt32 ||| 0x100) .data size name)]
  | sent {f n : UInt32} {data : Buffer} {t : FileTransfer} (h : ChunkAccepted lg tox f n data t) :
      Effect lg tox (.fileSendChunk f n data)
        (tox.setTransfer f n { t.advance data.length with eventPending := false })
        (.sendData f (FileTransfer.oldFileNumber n)
            (data.contents.take data.length.toUInt16.toNat) ::
          if t.position + data.length = t.fileSize then
            [.sendControl f (FileTransfer.sendReceive n) (FileTransfer.oldFileNumber n) .finished]
          else [])
  | received {f : UInt32} {n : UInt8} {data : List UInt8} {t : FileTransfer}
      (ht : tox.getTransfer f (n.toUInt32 ||| 0x100) = some t) :
      Effect lg tox (.callback (.fileData f n data))
        (tox.setTransfer f (n.toUInt32 ||| 0x100) (t.advance (UInt64.ofNat data.length)))
        (.event (.fileReceiveChunk f (n.toUInt32 ||| 0x100) t.position data) ::
          if t.position + UInt64.ofNat data.length = t.fileSize then
            [.sendControl f true n .finished]
          else [])
  | accepted {f : UInt32} {rs n : UInt8} {t : FileTransfer}
      (ht : tox.getTransfer f (FileTransfer.newFileNumber (rs != 0) n) = some t) :
      Effect lg tox (.callback (.fileControl f rs n .accept))
        (tox.setTransfer f (FileTransfer.newFileNumber (rs != 0) n) { t with state := .running })
        [.event (.fileControl f (FileTransfer.newFileNumber (rs != 0) n) .resume)]
  | finished {f : UInt32} {rs n : UInt8} {t : FileTransfer}
      (ht : tox.getTransfer f (FileTransfer.newFileNumber (rs != 0) n) = some t) :
      Effect lg tox (.callback (.fileControl f rs n .finished))
        (tox.eraseTransfer f (FileTransfer.newFileNumber (rs != 0) n))
        [.event (.fileRequestChunk f (FileTransfer.newFileNumber (rs != 0) n) t.position 0)]
  | asked : Effect lg tox .afterToxDo (Adapter.afterToxDo lg tox).1 (Adapter.afterToxDo lg tox).2

theorem Call.run_effect {lg : Legacy} {tox tox' : NewTox} {call : Call} {actions : List Action}
    (hrun : call.run lg tox = .ok (tox', actions)) : call.Effect lg tox tox' actions := by
  cases call with
  | fileSend f kind size name cause =>
    rcases Call.run_fileSend hrun with ⟨rfl, rfl⟩ | ⟨n, hfree, rfl, rfl⟩
    · exact .unchanged trivial (by simp)
    · exact .opened hfree
  | fileSendChunk f n data =>
    rcases Call.run_fileSendChunk hrun with ⟨rfl, rfl⟩ | ⟨t, haccepted, hsend⟩
    · exact .unchanged trivial (by simp)
    · obtain ⟨rfl, rfl⟩ := sendChunk_cases hsend
      exact .sent haccepted
  | fileControl f n control =>
    obtain ⟨rfl, rfl | ⟨c, hc, rfl⟩⟩ := Call.run_fileControl hrun
    · exact .unchanged trivial (by simp)
    · refine .unchanged trivial ?_
      intro a ha
      exact ⟨_, _, _, c, hc, List.mem_singleton.mp ha⟩
  | callback cb =>
    cases cb with
    | fileSendRequest f n size name cause =>
      obtain ⟨hfree, rfl, rfl⟩ := fileSendRequest_eq_ok.mp hrun
      exact .offered hfree
    | fileControl f rs n control =>
      obtain ⟨t, ht, ⟨rfl, rfl, rfl⟩ | ⟨rfl, rfl, rfl⟩⟩ := fileControl_cases hrun
      · exact .accepted ht
      · exact .finished ht
    | fileData f n data =>
      obtain ⟨t, ht, rfl, rfl⟩ := fileData_cases hrun
      exact .received ht
  | afterToxDo =>
    obtain ⟨rfl, rfl⟩ := Call.run_afterToxDo hrun
    exact .asked

end Tox4j.Adapter
