import Mathlib.Tactic
import Tox4j.Misc.Checked

/-!
# `core_private.h`: file transfers and the state of a `new_Tox`

The adapter keeps one `file_transfer` for every transfer of every friend, in both
directions, in a `std::map` from (friend number, file number). The legacy core has one
number space for each direction; the adapter tells them apart by bit 0x100 of the file
number. What the adapter does that others can see is listed in order as `Action`s: calls
of the client's callbacks and calls of sending functions of the legacy core.

The legacy core is not part of the repository: `Legacy` holds the answers it gives during
one call. `size_t` is 64 bits wide.
-/

namespace Tox4j.Adapter

open Tox4j.Misc

/-- `file_transfer::pause_reason`. -/
inductive PauseReason where
  | initial
  | self
  | friend
  deriving DecidableEq, Repr

/-- `file_transfer::transfer_state`. -/
inductive TransferState where
  | paused
  | running
  | finished
  deriving DecidableEq, Repr

/-- `file_transfer`. `cause` has no initialiser in the source, so whoever builds a transfer
    passes the value the memory happens to have. -/
structure FileTransfer where
  cause : PauseReason
  state : TransferState := .paused
  position : UInt64 := 0
  fileSize : UInt64 := 0
  eventPending : Bool := false
  sizeRequested : UInt64 := 0
  deriving DecidableEq, Repr

namespace FileTransfer

/-- `file_transfer::new_file_number`: file numbers are per direction in the old API, but not
    in the new one. -/
def newFileNumber (receiveSend : Bool) (filenumber : UInt8) : UInt32 :=
  ((!receiveSend).toUInt32 <<< 8) ||| filenumber.toUInt32

/-- `file_transfer::old_file_number`. -/
def oldFileNumber (fileNumber : UInt32) : UInt8 := (fileNumber &&& 0xff).toUInt8

/-- `file_transfer::send_receive`. -/
def sendReceive (fileNumber : UInt32) : Bool := fileNumber &&& 0x100 != 0

end FileTransfer

/-- The `TOX_FILECONTROL_*` byte of the legacy API. -/
inductive LegacyControl where
  | accept
  | pause
  | kill
  | finished
  | resumeBroken
  | unknown (code : UInt8)
  deriving DecidableEq, Repr

/-- `TOX_FILE_CONTROL`. -/
inductive FileControl where
  | resume
  | pause
  | cancel
  deriving DecidableEq, Repr

/-- `TOX_FILE_KIND`. -/
inductive FileKind where
  | data
  | avatar
  deriving DecidableEq, Repr

/-- `TOX_CONNECTION`, the two values the adapter reports. -/
inductive Connection where
  | none
  | udp4
  deriving DecidableEq, Repr

/-- The answers of the legacy core during one call of the adapter. -/
structure Legacy where
  /-- `tox_isconnected`. -/
  isconnected : Bool
  /-- `tox_friend_exists`. -/
  friendExists : UInt32 → Bool
  /-- `tox_get_friend_connection_status`: 1, 0, or -1 on failure. -/
  friendConnectionStatus : UInt32 → Int32
  /-- `tox_file_data_size`. -/
  fileDataSize : UInt32 → Int32
  /-- `tox_new_file_sender`: the number of the new transfer, or -1. -/
  newFileSender : UInt32 → Int32
  /-- `tox_file_send_control`: 0, or -1 on failure. -/
  fileSendControl : UInt32 → Bool → UInt8 → LegacyControl → Int32
  /-- `tox_file_send_data`: 0, or -1 on failure. -/
  fileSendData : UInt32 → UInt8 → List UInt8 → Int32

/-- A legacy core with one friend, connected, that takes 1371 bytes at a time. -/
def Legacy.oneFriend : Legacy where
  isconnected := true
  friendExists f := f = 0
  friendConnectionStatus f := if f = 0 then 1 else -1
  fileDataSize f := if f = 0 then 1371 else -1
  newFileSender _ := 0
  fileSendControl _ _ _ _ := 0
  fileSendData _ _ _ := 0

/-- The client callbacks of the file API and `connection_status`, with their arguments. -/
inductive Event where
  | connectionStatus (status : Connection)
  | fileControl (friendNumber fileNumber : UInt32) (control : FileControl)
  | fileRequestChunk (friendNumber fileNumber : UInt32) (position length : UInt64)
  | fileReceive (friendNumber fileNumber : UInt32) (kind : FileKind) (fileSize : UInt64)
      (filename : List UInt8)
  | fileReceiveChunk (friendNumber fileNumber : UInt32) (position : UInt64) (data : List UInt8)
  deriving DecidableEq, Repr

/-- A call out of the adapter: a client callback, or something the legacy core sends. -/
inductive Action where
  | event (e : Event)
  | newSender (friendNumber : UInt32) (filenumber : UInt8) (fileSize : UInt64)
      (filename : List UInt8)
  | sendControl (friendNumber : UInt32) (sendReceive : Bool) (filenumber : UInt8)
      (control : LegacyControl)
  | sendData (friendNumber : UInt32) (filenumber : UInt8) (data : List UInt8)
  deriving DecidableEq, Repr

/-- `tox_file_send_control`: its result, and what goes out when it succeeds. -/
def Legacy.sendControl (lg : Legacy) (friendNumber : UInt32) (sendReceive : Bool)
    (filenumber : UInt8) (control : LegacyControl) : Int32 × List Action :=
  let result := lg.fileSendControl friendNumber sendReceive filenumber control
  (result, if result = 0 then [.sendControl friendNumber sendReceive filenumber control] else [])

/-- The order of `std::pair<uint32_t, uint32_t>`. -/
abbrev transferCmp (a b : UInt32 × UInt32) : Ordering :=
  compareLex (compareOn Prod.fst) (compareOn Prod.snd) a b

instance : Std.TransCmp transferCmp :=
  inferInstanceAs (Std.TransCmp (compareLex (compareOn Prod.fst) (compareOn Prod.snd)))

instance : Std.LawfulEqCmp transferCmp where
  eq_of_compare {a b} h := by
    simp only [transferCmp, compareLex_eq_eq, compareOn, Std.LawfulEqOrd.compare_eq_iff_eq] at h
    exact Prod.ext h.1 h.2

/-- `std::map<std::pair<uint32_t, uint32_t>, file_transfer>`. -/
abbrev Transfers := Std.ExtTreeMap (UInt32 × UInt32) FileTransfer transferCmp

/-- The fields of `new_Tox` besides the legacy object and the callbacks. -/
structure NewTox where
  connected : Bool := false
  hasAv : Bool := false
  transfers : Transfers := ∅

namespace NewTox

/-- `new_Tox::get_transfer`. -/
def getTransfer (tox : NewTox) (friendNumber fileNumber : UInt32) : Option FileTransfer :=
  tox.transfers[(friendNumber, fileNumber)]?

/-- An assignment to the fields of an existing transfer. -/
def setTransfer (tox : NewTox) (friendNumber fileNumber : UInt32) (transfer : FileTransfer) :
    NewTox :=
  { tox with transfers := tox.transfers.insert (friendNumber, fileNumber) transfer }

/-- `new_Tox::add_transfer`; `cause` is what the uninitialised field holds. -/
def addTransfer (tox : NewTox) (friendNumber fileNumber : UInt32) (fileSize : UInt64)
    (cause : PauseReason) : Checked NewTox := do
  Checked.assert (tox.getTransfer friendNumber fileNumber).isNone
    "!get_transfer (friend_number, file_number)"
  return tox.setTransfer friendNumber fileNumber { cause, fileSize }

/-- `new_Tox::remove_transfer`. -/
def removeTransfer (tox : NewTox) (friendNumber fileNumber : UInt32) : Checked NewTox := do
  Checked.assert (tox.getTransfer friendNumber fileNumber).isSome "found != transfers.end ()"
  return { tox with transfers := tox.transfers.erase (friendNumber, fileNumber) }

end NewTox

/-- The file callbacks of `new_Tox::CB`, with the arguments of the legacy core. `data` of
    `fileData` has at most 65535 bytes (its length is a `uint16_t`). -/
inductive LegacyCallback where
  | fileSendRequest (friendnumber : UInt32) (filenumber : UInt8) (filesize : UInt64)
      (filename : List UInt8) (cause : PauseReason)
  | fileControl (friendnumber : UInt32) (receiveSend filenumber : UInt8) (control : LegacyControl)
  | fileData (friendnumber : UInt32) (filenumber : UInt8) (data : List UInt8)
  deriving DecidableEq, Repr

namespace CB

/-- `new_Tox::CB::file_send_request`. The kind is always DATA. -/
def fileSendRequest (self : NewTox) (friendnumber : UInt32) (filenumber : UInt8)
    (filesize : UInt64) (filename : List UInt8) (cause : PauseReason) :
    Checked (NewTox × List Action) := do
  let fileNumber := filenumber.toUInt32 ||| 0x100
  let self ← self.addTransfer friendnumber fileNumber filesize cause
  return (self, [.event (.fileReceive friendnumber fileNumber .data filesize filename)])

/-- `new_Tox::CB::file_control`. Only ACCEPT and FINISHED get past the assertions. -/
def fileControl (self : NewTox) (friendnumber : UInt32) (receiveSend filenumber : UInt8)
    (control : LegacyControl) : Checked (NewTox × List Action) :=
  let fileNumber := FileTransfer.newFileNumber (receiveSend != 0) filenumber
  match self.getTransfer friendnumber fileNumber with
  | none => .error "transfer != nullptr"
  | some transfer =>
    match control with
    | .accept =>
      .ok (self.setTransfer friendnumber fileNumber { transfer with state := .running },
        [.event (.fileControl friendnumber fileNumber .resume)])
    | .finished => do
      -- a request for 0 bytes lets the client know, then the transfer state is deleted
      let self ← self.removeTransfer friendnumber fileNumber
      return (self, [.event (.fileRequestChunk friendnumber fileNumber transfer.position 0)])
    | .pause | .kill | .resumeBroken | .unknown _ => .error "false"

/-- `new_Tox::CB::file_data`. -/
def fileData (self : NewTox) (lg : Legacy) (friendnumber : UInt32) (filenumber : UInt8)
    (data : List UInt8) : Checked (NewTox × List Action) :=
  let fileNumber := filenumber.toUInt32 ||| 0x100
  match self.getTransfer friendnumber fileNumber with
  | none => .error "transfer != nullptr"
  | some transfer => do
    let event := Action.event (.fileReceiveChunk friendnumber fileNumber transfer.position data)
    let position := transfer.position + UInt64.ofNat data.length
    let self := self.setTransfer friendnumber fileNumber { transfer with position }
    if position = transfer.fileSize then
      let (result, sent) := lg.sendControl friendnumber true filenumber .finished
      Checked.assert (result = 0) "result == 0"
      return (self, event :: sent)
    else
      return (self, [event])

end CB

/-- The callback the legacy core calls. -/
def LegacyCallback.run (self : NewTox) (lg : Legacy) :
    LegacyCallback → Checked (NewTox × List Action)
  | .fileSendRequest friendnumber filenumber filesize filename cause =>
      CB.fileSendRequest self friendnumber filenumber filesize filename cause
  | .fileControl friendnumber receiveSend filenumber control =>
      CB.fileControl self friendnumber receiveSend filenumber control
  | .fileData friendnumber filenumber data => CB.fileData self lg friendnumber filenumber data

end Tox4j.Adapter
