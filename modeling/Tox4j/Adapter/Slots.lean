import Tox4j.Adapter.Session

/-!
# The slots of the legacy core

The legacy core has 256 slots in each direction for the files of a friend, and calls the callbacks
of the adapter only for slots in the right state. It is not part of the repository: the slots are
followed here beside the transfer table. Where versions of the legacy core differ, in whether a
FINISHED frees the slot of a file that is received, the label of a step says what happens.
-/

namespace Tox4j.Adapter

open Tox4j.Misc

/-- The slot of a file that a friend sends. -/
inductive Receiving where
  /-- Not in use. It is a leftover when the last transfer ended with a FINISHED of this side. -/
  | free (leftover : Bool)
  /-- In use: whether this side has accepted the file, and whether the friend has sent FINISHED. -/
  | used (accepted finished : Bool)
  deriving DecidableEq, Repr

namespace Receiving

/-- The friend has sent FINISHED. -/
def finishedByFriend (frees : Bool) : Receiving → Receiving
  | .used accepted _ => if frees then .free false else .used accepted true
  | .free _ => .free false

/-- This side has sent FINISHED. -/
def finishedBySelf (frees : Bool) (slot : Receiving) : Receiving :=
  if frees then .free true else slot

/-- This side has sent ACCEPT. -/
def accept : Receiving → Receiving
  | .used _ finished => .used true finished
  | .free leftover => .free leftover

end Receiving

/-- A `new_Tox` and the slots of the legacy core. -/
structure FileHost where
  tox : NewTox := {}
  /-- Whether the slot of a file that is sent is in use. -/
  sending : UInt32 → UInt8 → Bool := fun _ _ => false
  receiving : UInt32 → UInt8 → Receiving := fun _ _ => .free false

/-- A call of the file API, a callback or the end of an iteration, with the answers of the legacy
    core, and whether a FINISHED sent or received in it frees the slot of an incoming file. -/
structure HostCall where
  lg : Legacy
  call : Call
  frees : Bool := true

/-- The number is given to a new transfer: for sending by `tox_new_file_sender`, for receiving by
    the request of the friend. -/
def Action.allocates (friendNumber fileNumber : UInt32) : Action → Bool
  | .newSender f filenumber _ _ => f == friendNumber && filenumber.toUInt32 == fileNumber
  | .event (.fileReceive f number _ _ _) => f == friendNumber && number == fileNumber
  | _ => false

/-- The friend sends FINISHED for the transfer. -/
def Call.finishes (friendNumber fileNumber : UInt32) : Call → Bool
  | .callback (.fileControl f receiveSend filenumber .finished) =>
      f == friendNumber && FileTransfer.newFileNumber (receiveSend != 0) filenumber == fileNumber
  | _ => false

namespace FileHost

/-- The state of a slot for sending after a call. -/
def sendingAfter (call : Call) (actions : List Action) (f : UInt32) (n : UInt8) (used : Bool) :
    Bool :=
  if actions.any (·.allocates f n.toUInt32) then true
  else if call.finishes f n.toUInt32 then false
  else used

/-- The state of a slot for receiving after a call. -/
def receivingAfter (frees : Bool) (call : Call) (actions : List Action) (f : UInt32) (n : UInt8)
    (slot : Receiving) : Receiving :=
  if actions.any (·.allocates f (n.toUInt32 ||| 0x100)) then .used false false
  else if call.finishes f (n.toUInt32 ||| 0x100) then slot.finishedByFriend frees
  else if .sendControl f true n .finished ∈ actions then slot.finishedBySelf frees
  else if .sendControl f true n .accept ∈ actions then slot.accept
  else slot

/-- The state after a call. -/
def run (s : FileHost) (l : HostCall) : Checked FileHost := do
  let (tox, actions) ← l.call.run l.lg s.tox
  return {
    tox
    sending := fun f n => sendingAfter l.call actions f n (s.sending f n)
    receiving := fun f n => receivingAfter l.frees l.call actions f n (s.receiving f n) }

/-- The callbacks that a friend can cause: a request for a free slot, one of the five controls for a
    slot in use, and data for a file that has been accepted. -/
def CanCause (s : FileHost) : LegacyCallback → Prop
  | .fileSendRequest f n _ _ _ => ∃ leftover, s.receiving f n = .free leftover
  | .fileControl f receiveSend n control => (∀ code, control ≠ .unknown code) ∧
      if receiveSend = 0 then ∃ accepted finished, s.receiving f n = .used accepted finished
      else s.sending f n = true
  | .fileData f n _ => ∃ finished, s.receiving f n = .used true finished

/-- The legacy core calls a callback only when a friend can cause it. -/
def Possible (s : FileHost) : Call → Prop
  | .callback cb => s.CanCause cb
  | _ => True

/-- The callbacks that return: requests unless the slot is a leftover, an ACCEPT or FINISHED unless
    it is for an incoming file that the friend has finished before, and data unless the friend has
    finished the file or the FINISHED that answers its last byte cannot be sent. -/
def Harmless (s : FileHost) (lg : Legacy) : LegacyCallback → Prop
  | .fileSendRequest f n _ _ _ => s.receiving f n ≠ .free true
  | .fileControl f receiveSend n control => (control = .accept ∨ control = .finished) ∧
      (receiveSend = 0 → ∀ accepted, s.receiving f n ≠ .used accepted true)
  | .fileData f n data => s.receiving f n ≠ .used true true ∧
      ∀ t, s.tox.getTransfer f (n.toUInt32 ||| 0x100) = some t →
        t.position + UInt64.ofNat data.length = t.fileSize →
          lg.fileSendControl f true n .finished = 0

end FileHost

/-- A step of a host: a call that returns. -/
def HostStep (s : FileHost) (l : HostCall) (s' : FileHost) : Prop :=
  s.Possible l.call ∧ s.run l = .ok s'

end Tox4j.Adapter
