import Tox4j.Adapter.Friends
import Tox4j.Adapter.Session

/-!
# File numbers and friend numbers that are used again

The legacy core hands out a file number again when the slot behind it is free, and a friend number
when the friend is deleted. The transfer table of the adapter is keyed by both. `SlotReusable` and
`EndsTransfers` say that nothing of an earlier transfer stands in the way of a new one.
-/

namespace Tox4j.Adapter

open Tox4j.Misc

/-- A control of the friend for the transfer that is received under a legacy number. -/
def Call.ControlsReceived (friendnumber : UInt32) (filenumber : UInt8) : Call → Prop
  | .callback (.fileControl friendnumber' receiveSend filenumber' _) =>
      friendnumber' = friendnumber ∧ receiveSend = 0 ∧ filenumber' = filenumber
  | _ => False

/-- The table has no entry for an incoming transfer, and a new one can be offered under its number:
    it starts at position 0, with its own size. -/
def SlotReusable (tox : NewTox) (friendnumber : UInt32) (filenumber : UInt8) : Prop :=
  tox.getTransfer friendnumber (filenumber.toUInt32 ||| 0x100) = none ∧
    ∀ filesize filename cause, ∃ tox' actions transfer,
      CB.fileSendRequest tox friendnumber filenumber filesize filename cause =
        .ok (tox', actions) ∧
      tox'.getTransfer friendnumber (filenumber.toUInt32 ||| 0x100) = some transfer ∧
      transfer.position = 0 ∧ transfer.fileSize = filesize

/-- A `new_Tox` with its legacy instance. -/
structure Client (Tox : Type) where
  legacy : Tox
  tox : NewTox := {}

/-- A call of the file API or a callback of the legacy core, or a call that changes the friend
    list. -/
inductive ClientCall where
  | file (lg : Legacy) (call : Call)
  | friends (call : FriendCall)

section

variable {Tox : Type} (core : Toxcore Tox)

/-- `new_tox_friend_delete`. It does not touch the transfers. -/
def Client.friendDelete (c : Client Tox) (friendNumber : UInt32) :
    Checked ((Bool × ErrFriendDelete) × Client Tox) := do
  let (result, legacy) ← newToxFriendDelete core c.legacy friendNumber
  return (result, { c with legacy })

/-- The client after a call and what went out during it. -/
def ClientCall.run (c : Client Tox) : ClientCall → Checked (Client Tox × List Action)
  | .file lg call => do
    let (tox, actions) ← call.run lg c.tox
    return ({ c with tox }, actions)
  | .friends call => do
    let legacy ← call.run core c.legacy
    return ({ c with legacy }, [])

def ClientStep (c : Client Tox) (call : ClientCall) (c' : Client Tox) : Prop :=
  ∃ actions, call.run core c = .ok (c', actions)

end

/-- The friend an event is about. -/
def Event.friend : Event → Option UInt32
  | .connectionStatus _ => none
  | .fileControl friendNumber _ _ => some friendNumber
  | .fileRequestChunk friendNumber _ _ _ => some friendNumber
  | .fileReceive friendNumber _ _ _ _ => some friendNumber
  | .fileReceiveChunk friendNumber _ _ _ => some friendNumber

/-- A new transfer is offered to a friend or by a friend. -/
def Call.Offers (friendNumber : UInt32) : Call → Prop
  | .fileSend friendNumber' _ _ _ _ => friendNumber' = friendNumber
  | .callback (.fileSendRequest friendnumber _ _ _ _) => friendnumber = friendNumber
  | _ => False

def ClientCall.Offers (friendNumber : UInt32) : ClientCall → Prop
  | .file _ call => call.Offers friendNumber
  | .friends _ => False

/-- The table without the transfers of a friend. -/
def NewTox.forget (tox : NewTox) (friendNumber : UInt32) : NewTox :=
  { tox with transfers := tox.transfers.filter fun key _ => key.1 != friendNumber }

/-- Offering a transfer to a friend or being offered one goes as with a friend who never had a
    transfer, and what the friend offers is accepted. -/
structure AsNeverBefore (tox : NewTox) (friendNumber : UInt32) : Prop where
  send : ∀ lg kind fileSize filename cause,
    newToxFileSend lg tox friendNumber kind fileSize filename cause =
      newToxFileSend lg (tox.forget friendNumber) friendNumber kind fileSize filename cause
  receive : ∀ filenumber filesize filename cause,
    CB.fileSendRequest tox friendNumber filenumber filesize filename cause =
      CB.fileSendRequest (tox.forget friendNumber) friendNumber filenumber filesize filename cause
  reusable : ∀ filenumber, SlotReusable tox friendNumber filenumber

/-- From now on, as long as no new transfer of the friend is offered: the table has no transfer of
    the friend, no event is about the friend, and a transfer can be offered as if there had never
    been one. -/
def EndsTransfers {Tox : Type} (core : Toxcore Tox) (friendNumber : UInt32) (c : Client Tox) :
    Prop :=
  ∀ calls c', Run (ClientStep core) c calls c' → (∀ call ∈ calls, ¬ call.Offers friendNumber) →
    (∀ fileNumber, c'.tox.getTransfer friendNumber fileNumber = none) ∧
    (∀ (call : ClientCall) c'' actions, ¬ call.Offers friendNumber →
      call.run core c' = .ok (c'', actions) →
        ∀ e, .event e ∈ actions → e.friend ≠ some friendNumber) ∧
    AsNeverBefore c'.tox friendNumber

end Tox4j.Adapter
