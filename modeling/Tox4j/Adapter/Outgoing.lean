import Tox4j.Adapter.Log

/-!
# Files this side is sending

What happens to an outgoing transfer is read off the log of a session: `new_tox_file_send` opens it
under a number, the friend accepts it, chunks and a FINISHED are sent for it, and the friend ends
it with a FINISHED. A number can be used again, so everything counts since the number was opened.
-/

namespace Tox4j.Adapter

open Tox4j.Misc

/-- `new_tox_file_send` returned the number. -/
def OpensFile (friendNumber fileNumber : UInt32) (e : Call × Action) : Prop :=
  ∃ (filenumber : UInt8) (fileSize : UInt64) (filename : List UInt8),
    filenumber.toUInt32 = fileNumber ∧ e.2 = .newSender friendNumber filenumber fileSize filename

/-- The friend accepted the file. -/
def AcceptsFile (friendNumber : UInt32) (filenumber : UInt8) (e : Call × Action) : Prop :=
  ∃ receiveSend, receiveSend ≠ 0 ∧
    e = (.callback (.fileControl friendNumber receiveSend filenumber .accept),
      .event (.fileControl friendNumber filenumber.toUInt32 .resume))

/-- FINISHED was sent for the file. -/
def FinishesFile (friendNumber : UInt32) (filenumber : UInt8) (e : Call × Action) : Prop :=
  e.2 = .sendControl friendNumber false filenumber .finished

/-- The file is being sent: `new_tox_file_send` returned its number, and its end has not been
    reported since. -/
def BeingSent (friendNumber fileNumber : UInt32) (log : List (Call × Action)) : Prop :=
  fileNumber < 0x100 ∧ Since (OpensFile friendNumber fileNumber)
    (fun e => e.1.Ends friendNumber fileNumber) log

/-- Every request for a chunk, of zero or more bytes, is for a file that is being sent. -/
def RequestsRight (log : List (Call × Action)) : Prop :=
  ∀ a call f n position length b,
    log = a ++ (call, .event (.fileRequestChunk f n position length)) :: b → BeingSent f n a

/-- The friend does not report the end of a file that it sends itself, and no incoming transfer is
    due when an iteration looks for requests. -/
def OutgoingOnly (s : Logged) (l : Legacy × Call) : Prop :=
  match l.2 with
  | .callback (.fileControl _ receiveSend _ .finished) => receiveSend ≠ 0
  | .afterToxDo => ∀ f n t, s.tox.getTransfer f n = some t → t.Due →
      FileTransfer.sendReceive n = false
  | _ => True

/-- The friend has accepted the file that is being sent under a number. -/
def Accepted (friendNumber : UInt32) (filenumber : UInt8) (log : List (Call × Action)) : Prop :=
  Since (AcceptsFile friendNumber filenumber) (OpensFile friendNumber filenumber.toUInt32) log

/-- A chunk of the file has been sent. -/
def Started (friendNumber : UInt32) (filenumber : UInt8) (log : List (Call × Action)) : Prop :=
  Since (SendsChunk friendNumber filenumber.toUInt32)
    (OpensFile friendNumber filenumber.toUInt32) log

/-- FINISHED has been sent for the file. -/
def Finished (friendNumber : UInt32) (filenumber : UInt8) (log : List (Call × Action)) : Prop :=
  Since (FinishesFile friendNumber filenumber) (OpensFile friendNumber filenumber.toUInt32) log

/-- The client has been asked for a chunk of the file, or FINISHED has been sent for it. -/
def KeepsGoing (friendNumber : UInt32) (filenumber : UInt8) (s : Logged) : Prop :=
  (∃ t, s.tox.getTransfer friendNumber filenumber.toUInt32 = some t ∧ t.eventPending = true) ∨
    Finished friendNumber filenumber s.log

end Tox4j.Adapter
