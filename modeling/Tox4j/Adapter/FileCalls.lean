import Tox4j.Adapter.Answering
import Tox4j.Adapter.Outgoing
import Tox4j.Adapter.PauseRule

/-!
# What a client relies on when it sends chunks and cancels

Chunks are for files that this side is sending, so one that is sent goes to exactly that file, and
the number of a file that is received is refused. CANCEL ends a transfer for good: the friend is
told, and nothing is heard of the transfer until its number is given to another one.
-/

namespace Tox4j.Adapter

open Tox4j.Misc

/-- The data went to the outgoing transfer of the number, and to no other. -/
structure SentRight (tox : NewTox) (friendNumber fileNumber : UInt32) (data : Buffer)
    (tox' : NewTox) (actions : List Action) : Prop where
  outgoing : ∃ filenumber : UInt8, fileNumber = filenumber.toUInt32
  position : ∃ t, tox.getTransfer friendNumber fileNumber = some t ∧
    tox'.getTransfer friendNumber fileNumber =
      some { t with position := t.position + data.length, eventPending := false }
  sent : ∃ rest, actions = .sendData friendNumber (FileTransfer.oldFileNumber fileNumber)
      (data.contents.take data.length.toNat) :: rest ∧
    ∀ a ∈ rest, a =
      .sendControl friendNumber false (FileTransfer.oldFileNumber fileNumber) .finished
  others : ∀ f n, (f, n) ≠ (friendNumber, fileNumber) → tox'.getTransfer f n = tox.getTransfer f n

/-- The call returns an error, NOT_FOUND if no other check fails, and does nothing else. -/
def Refuses (lg : Legacy) (tox : NewTox) (friendNumber fileNumber : UInt32) (data : Buffer) :
    Prop :=
  ∃ error, newToxFileSendChunk lg tox friendNumber fileNumber data = .ok (error, tox, []) ∧
    error ≠ .ok ∧ (lg.Takes friendNumber data → error = .notFound)

/-- Chunks go to outgoing transfers, and numbers with the direction bit are refused. -/
structure ChunkRight (lg : Legacy) (tox : NewTox) (friendNumber fileNumber : UInt32)
    (data : Buffer) : Prop where
  sent : ∀ tox' actions,
    newToxFileSendChunk lg tox friendNumber fileNumber data = .ok (.ok, tox', actions) →
      SentRight tox friendNumber fileNumber data tox' actions
  refused : FileTransfer.sendReceive fileNumber = true →
    Refuses lg tox friendNumber fileNumber data

/-- The number is given to another transfer. -/
def Allocates (friendNumber fileNumber : UInt32) (e : Call × Action) : Prop :=
  OpensFile friendNumber fileNumber e ∨ ∃ kind fileSize filename,
    e.2 = .event (.fileReceive friendNumber fileNumber kind fileSize filename)

/-- The client is asked for a chunk, or gets one. -/
def RaisesChunk (friendNumber fileNumber : UInt32) (e : Call × Action) : Prop :=
  (∃ position length, e.2 = .event (.fileRequestChunk friendNumber fileNumber position length)) ∨
    ∃ position data, e.2 = .event (.fileReceiveChunk friendNumber fileNumber position data)

/-- Nothing more is heard of a transfer, until its number is given to another one. -/
def Silent (tox : NewTox) (friendNumber fileNumber : UInt32) : Prop :=
  ∀ ls s, Run LoggedStep { tox } ls s → ∀ a e b, s.log = a ++ e :: b →
    RaisesChunk friendNumber fileNumber e → ∃ z ∈ a, Allocates friendNumber fileNumber z

/-- Controls of the transfer return NOT_FOUND, until its number is given to another one. -/
def Forgotten (tox : NewTox) (friendNumber fileNumber : UInt32) : Prop :=
  ∀ ls s, Run LoggedStep { tox } ls s → (∀ z ∈ s.log, ¬ Allocates friendNumber fileNumber z) →
    ∀ (lg : Legacy) control, lg.Online friendNumber →
      newToxFileControl lg s.tox friendNumber fileNumber control = .ok (.notFound, s.tox, [])

/-- A CANCEL that returns OK has told the friend, and the transfer is over. -/
def CancelTerminates (lg : Legacy) (tox : NewTox) (friendNumber fileNumber : UInt32) : Prop :=
  ∀ tox' actions,
    newToxFileControl lg tox friendNumber fileNumber .cancel = .ok (.ok, tox', actions) →
      .sendControl friendNumber (FileTransfer.sendReceive fileNumber)
          (FileTransfer.oldFileNumber fileNumber) .kill ∈ actions ∧
        tox'.getTransfer friendNumber fileNumber = none ∧
        Silent tox' friendNumber fileNumber ∧ Forgotten tox' friendNumber fileNumber

end Tox4j.Adapter
