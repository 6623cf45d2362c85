import Tox4j.Adapter.CorePrivate

/-!
# `core.cpp`: iteration and the file functions

`new_tox_iteration`, `new_tox_file_control`, `new_tox_file_send` and
`new_tox_file_send_chunk`. The error out-parameter is part of the result: a call returns
`true` (or a file number) exactly when the error is `ok`. A pointer and a length passed
together are a `Buffer`.
-/

namespace Tox4j.Adapter

open Tox4j.Misc

/-- A pointer to `length` bytes: null, or the bytes themselves. -/
inductive Buffer where
  | null (length : UInt64)
  | bytes (data : List UInt8)
  deriving DecidableEq, Repr

namespace Buffer

def length : Buffer → UInt64
  | .null length => length
  | .bytes data => UInt64.ofNat data.length

def isNull : Buffer → Bool
  | .null _ => true
  | .bytes _ => false

/-- The bytes that can be read through the pointer. -/
def contents : Buffer → List UInt8
  | .null _ => []
  | .bytes data => data

end Buffer

/-- `tox_file_data_size` as the adapter uses it: an `int` cast to `uint64_t` or `size_t`. -/
def Legacy.dataSize (lg : Legacy) (friendNumber : UInt32) : UInt64 :=
  UInt64.ofInt (lg.fileDataSize friendNumber).toInt

/-- `new_tox_friend_get_connection_status`, without its error parameter. -/
def newToxFriendGetConnectionStatus (lg : Legacy) (friendNumber : UInt32) : Checked Connection :=
  if lg.friendExists friendNumber then do
    let status := lg.friendConnectionStatus friendNumber
    Checked.assert (status != -1) "status != -1"
    return if status != 0 then .udp4 else .none
  else
    return .none

/-- The callbacks the legacy core makes inside `tox_do`. -/
def toxDo (lg : Legacy) : List LegacyCallback → NewTox → Checked (NewTox × List Action)
  | [], tox => .ok (tox, [])
  | callback :: callbacks, tox => do
    let (tox, actions) ← callback.run tox lg
    let (tox, actions') ← toxDo lg callbacks tox
    return (tox, actions ++ actions')

/-- The check of the connection status. -/
def checkConnection (lg : Legacy) (tox : NewTox) : NewTox × List Action :=
  if lg.isconnected != tox.connected then
    let connected := !tox.connected
    ({ tox with connected },
      [.event (.connectionStatus (if connected then .udp4 else .none))])
  else
    (tox, [])

/-- The loop body of `new_tox_iteration` for one transfer: the transfer afterwards and what it
    asks the client for. -/
def requestChunk (lg : Legacy) (key : UInt32 × UInt32) (transfer : FileTransfer) :
    FileTransfer × List Action :=
  -- we're done, just waiting for the other side to acknowledge
  if transfer.position = transfer.fileSize then (transfer, [])
  else if transfer.state = .running ∧ transfer.eventPending = false then
    let sizeRequested := min (lg.dataSize key.1) (transfer.fileSize - transfer.position)
    ({ transfer with sizeRequested, eventPending := true },
      [.event (.fileRequestChunk key.1 key.2 transfer.position sizeRequested)])
  else
    (transfer, [])

/-- The loop over all transfers, in the order of the map. -/
def requestChunks (lg : Legacy) (tox : NewTox) : NewTox × List Action :=
  ({ tox with transfers := tox.transfers.map fun key transfer => (requestChunk lg key transfer).1 },
    tox.transfers.toList.flatMap fun entry => (requestChunk lg entry.1 entry.2).2)

/-- What `new_tox_iteration` does after `tox_do` returns. -/
def afterToxDo (lg : Legacy) (tox : NewTox) : NewTox × List Action :=
  let (tox, actions) := checkConnection lg tox
  let (tox, actions') := requestChunks lg tox
  (tox, actions ++ actions')

/-- `new_tox_iteration`. -/
def newToxIteration (lg : Legacy) (callbacks : List LegacyCallback) (tox : NewTox) :
    Checked (NewTox × List Action) := do
  let (tox, actions) ← toxDo lg callbacks tox
  let (tox, actions') := afterToxDo lg tox
  return (tox, actions ++ actions')

/-- `TOX_ERR_FILE_CONTROL`. -/
inductive ErrFileControl where
  | ok
  | friendNotFound
  | friendNotConnected
  | notFound
  | notPaused
  | denied
  | alreadyPaused
  deriving DecidableEq, Repr

/-- The switch of `new_tox_file_control` over the control of an existing transfer. -/
def applyControl (lg : Legacy) (friendNumber fileNumber : UInt32) (transfer : FileTransfer) :
    FileControl → Checked (ErrFileControl × List Action)
  | .pause =>
    if transfer.state = .paused then return (.alreadyPaused, [])
    else do
      let (result, sent) := lg.sendControl friendNumber (FileTransfer.sendReceive fileNumber)
        (FileTransfer.oldFileNumber fileNumber) .pause
      Checked.assert (result = 0) "false"
      return (.ok, sent)
  | .resume =>
    if transfer.state ≠ .paused then return (.notPaused, [])
    else if transfer.cause = .friend then return (.denied, [])
    else
      -- a failure to send is ignored
      let (_, sent) := lg.sendControl friendNumber (FileTransfer.sendReceive fileNumber)
        (FileTransfer.oldFileNumber fileNumber) .accept
      return (.ok, sent)
  | .cancel => return (.ok, [])

/-- `new_tox_file_control`. No branch assigns to the transfer. -/
def newToxFileControl (lg : Legacy) (tox : NewTox) (friendNumber fileNumber : UInt32)
    (control : FileControl) : Checked (ErrFileControl × NewTox × List Action) :=
  if !lg.friendExists friendNumber then .ok (.friendNotFound, tox, [])
  else do
    let connection ← newToxFriendGetConnectionStatus lg friendNumber
    if connection = .none then return (.friendNotConnected, tox, [])
    else
      match tox.getTransfer friendNumber fileNumber with
      | none => return (.notFound, tox, [])
      | some transfer =>
        let (error, sent) ← applyControl lg friendNumber fileNumber transfer control
        return (error, tox, sent)

/-- `TOX_ERR_FILE_SEND`. -/
inductive ErrFileSend where
  | ok
  | null
  | friendNotFound
  | friendNotConnected
  | nameEmpty
  | nameTooLong
  | tooMany
  deriving DecidableEq, Repr

/-- `new_tox_file_send`: the error, the number returned, the state and the actions. `cause` is
    what the uninitialised field of the new transfer holds. -/
def newToxFileSend (lg : Legacy) (tox : NewTox) (friendNumber : UInt32) (kind : FileKind)
    (fileSize : UInt64) (filename : Buffer) (cause : PauseReason) :
    Checked (ErrFileSend × UInt32 × NewTox × List Action) :=
  if 255 < filename.length then .ok (.nameTooLong, 0, tox, [])
  else if filename.length = 0 ∧ kind ≠ .avatar then .ok (.nameEmpty, 0, tox, [])
  else if filename.isNull ∧ kind ≠ .avatar then .ok (.null, 0, tox, [])
  else if !lg.friendExists friendNumber then .ok (.friendNotFound, 0, tox, [])
  else do
    let connection ← newToxFriendGetConnectionStatus lg friendNumber
    if connection = .none then return (.friendNotConnected, 0, tox, [])
    else
      let sender := lg.newFileSender friendNumber
      if sender = -1 then return (.tooMany, 0, tox, [])
      else do
        Checked.assert (0 ≤ sender) "sender >= 0"
        Checked.assert (sender ≤ 255) "sender <= 255"
        let number := sender.toUInt32
        Checked.assert (tox.getTransfer friendNumber number).isNone
          "tox->get_transfer (friend_number, sender) == nullptr"
        let tox ← tox.addTransfer friendNumber number fileSize cause
        return (.ok, number, tox,
          [.newSender friendNumber number.toUInt8 fileSize filename.contents])

/-- `TOX_ERR_FILE_SEND_CHUNK`. -/
inductive ErrFileSendChunk where
  | ok
  | null
  | friendNotFound
  | friendNotConnected
  | notFound
  | tooLarge
  deriving DecidableEq, Repr

/-- The end of `new_tox_file_send_chunk`, for an existing transfer: hand the data to the legacy
    core (which takes a `uint16_t` length), advance, and finish a complete transfer. -/
def sendChunk (lg : Legacy) (tox : NewTox) (friendNumber fileNumber : UInt32)
    (transfer : FileTransfer) (data : Buffer) : Checked (NewTox × List Action) := do
  let filenumber := FileTransfer.oldFileNumber fileNumber
  let bytes := data.contents.take data.length.toUInt16.toNat
  Checked.assert (lg.fileSendData friendNumber filenumber bytes != -1) "false"
  let transfer :=
    { transfer with position := transfer.position + data.length, eventPending := false }
  let tox := tox.setTransfer friendNumber fileNumber transfer
  if transfer.position = transfer.fileSize then
    let (result, sent) := lg.sendControl friendNumber (FileTransfer.sendReceive fileNumber)
      filenumber .finished
    Checked.assert (result = 0) "false"
    return (tox, .sendData friendNumber filenumber bytes :: sent)
  else
    return (tox, [.sendData friendNumber filenumber bytes])

/-- `new_tox_file_send_chunk`. -/
def newToxFileSendChunk (lg : Legacy) (tox : NewTox) (friendNumber fileNumber : UInt32)
    (data : Buffer) : Checked (ErrFileSendChunk × NewTox × List Action) :=
  -- transfer finished
  if data.length = 0 then .error "false"
  else if lg.dataSize friendNumber < data.length then .ok (.tooLarge, tox, [])
  else if data.length ≠ 0 ∧ data.isNull then .ok (.null, tox, [])
  else if !lg.friendExists friendNumber then .ok (.friendNotFound, tox, [])
  else do
    let connection ← newToxFriendGetConnectionStatus lg friendNumber
    if connection = .none then return (.friendNotConnected, tox, [])
    else
      match tox.getTransfer friendNumber fileNumber with
      | none => return (.notFound, tox, [])
      | some transfer =>
        let (tox, actions) ← sendChunk lg tox friendNumber fileNumber transfer data
        return (.ok, tox, actions)

end Tox4j.Adapter
