import Tox4j.Adapter.Frames
import Tox4j.Adapter.FileApi
import Tox4j.Instances.Creation

/-!
# Error codes

What the functions of the adapter that take a pointer `error` write through it, and what they
return. `new_tox_new` is with the functions for friends; those, `new_tox_file_send` and
`new_toxav_new` return both values there, and are not repeated here.
-/

namespace Tox4j.Adapter

open Tox4j.Misc

/-- What a call that returned has written through `error`, and its result. -/
structure Outcome (Error α : Type) where
  error : Option Error
  result : α

/-- The error is written, and the call returns. -/
def Outcome.report {Error α : Type} (error : Error) (result : α) : Outcome Error α :=
  { error := some error, result }

/-- `TOX_ERR_BOOTSTRAP`. -/
inductive ErrBootstrap where
  | ok
  | null
  | badAddress
  | badPort
  deriving DecidableEq, Repr

/-- `bootstrap_like`. Its `func` is `tox_bootstrap_from_address` or `tox_add_tcp_relay`. -/
def bootstrapLike (func : List UInt8 → UInt16 → List UInt8 → Int32)
    (address : Option (List UInt8)) (port : UInt16) (publicKey : Option (List UInt8)) :
    Outcome ErrBootstrap Bool :=
  match address, publicKey with
  | some address, some publicKey =>
    if port = 0 then .report .badPort false
    else if func address port publicKey = 0 then .report .badAddress false
    else .report .ok true
  | _, _ => .report .null false

/-- `TOX_ERR_SET_INFO`. -/
inductive ErrSetInfo where
  | ok
  | null
  | tooLong
  deriving DecidableEq, Repr

/-- The body of both functions, with the maximal length and the legacy function of each. -/
def setInfo (maxLength : UInt64) (func : List UInt8 → Int32) (info : Buffer) :
    Outcome ErrSetInfo Bool :=
  if maxLength < info.length then .report .tooLong false
  else if 0 < info.length ∧ info.isNull then .report .null false
  else
    -- the legacy core gets one null byte for an empty text
    let contents := if info.length = 0 then [0] else info.contents
    if func contents = -1 then .report .null false
    else .report .ok true

/-- `new_tox_self_set_name`, with `TOX_MAX_NAME_LENGTH`. -/
def newToxSelfSetName (toxSetName : List UInt8 → Int32) (name : Buffer) :
    Outcome ErrSetInfo Bool :=
  setInfo 128 toxSetName name

/-- `new_tox_self_set_status_message`, with `TOX_MAX_STATUS_MESSAGE_LENGTH`. -/
def newToxSelfSetStatusMessage (toxSetStatusMessage : List UInt8 → Int32) (status : Buffer) :
    Outcome ErrSetInfo Bool :=
  setInfo 1007 toxSetStatusMessage status

/-- `TOX_ERR_FRIEND_BY_PUBLIC_KEY`. -/
inductive ErrFriendByPublicKey where
  | ok
  | null
  | notFound
  deriving DecidableEq, Repr

/-- `TOX_ERR_FRIEND_GET_PUBLIC_KEY`. -/
inductive ErrFriendGetPublicKey where
  | ok
  | friendNotFound
  deriving DecidableEq, Repr

/-- `TOX_ERR_FRIEND_QUERY`. -/
inductive ErrFriendQuery where
  | ok
  | null
  | friendNotFound
  deriving DecidableEq, Repr

/-- `TOX_ERR_SET_TYPING`. -/
inductive ErrSetTyping where
  | ok
  | friendNotFound
  deriving DecidableEq, Repr

/-- `new_tox_friend_by_public_key`. -/
def newToxFriendByPublicKey (toxGetFriendNumber : List UInt8 → Int32)
    (publicKey : Option (List UInt8)) : Outcome ErrFriendByPublicKey UInt32 :=
  match publicKey with
  | none => .report .null 0
  | some publicKey =>
    let friendNumber := toxGetFriendNumber publicKey
    if friendNumber = -1 then .report .notFound 0
    else .report .ok friendNumber.toUInt32

/-- `new_tox_friend_get_public_key`. The key goes to `publicKey`, which may be null. -/
def newToxFriendGetPublicKey (toxGetClientId : Int32 → Int32) (friendNumber : UInt32)
    (publicKeyIsNull : Bool) : Checked (Outcome ErrFriendGetPublicKey Bool) :=
  if publicKeyIsNull then .ok (.report .ok true)
  else
    let result := toxGetClientId friendNumber.toInt32
    if result = -1 then .ok (.report .friendNotFound false)
    else if result = 0 then .ok (.report .ok true)
    else .error "false"

/-- `new_tox_self_set_typing`. -/
def newToxSelfSetTyping (toxSetUserIsTyping : Int32 → Bool → Int32) (friendNumber : UInt32)
    (isTyping : Bool) : Checked (Outcome ErrSetTyping Bool) :=
  let result := toxSetUserIsTyping friendNumber.toInt32 isTyping
  if result = -1 then .ok (.report .friendNotFound false)
  else if result = 0 then .ok (.report .ok true)
  else .error "false"

/-- `TOX_ERR_SEND_MESSAGE`. -/
inductive ErrSendMessage where
  | ok
  | null
  | friendNotFound
  | friendNotConnected
  | sendq
  | tooLong
  | empty
  deriving DecidableEq, Repr

/-- `TOX_ERR_SEND_CUSTOM_PACKET`. -/
inductive ErrSendCustomPacket where
  | ok
  | null
  | friendNotFound
  | friendNotConnected
  | invalid
  | empty
  | tooLong
  | sendq
  deriving DecidableEq, Repr

/-- `new_tox_send_something`, with `TOX_MAX_MESSAGE_LENGTH`. Its `toxSend` is `tox_send_message` or
    `tox_send_action`. -/
def newToxSendSomething (toxSend : Int32 → List UInt8 → UInt32) (lg : Legacy)
    (friendNumber : UInt32) (message : Buffer) : Checked (Outcome ErrSendMessage UInt32) :=
  if message.isNull then .ok (.report .null 0)
  else if message.length = 0 then .ok (.report .empty 0)
  else if 1368 < message.length then .ok (.report .tooLong 0)
  else if !lg.friendExists friendNumber then .ok (.report .friendNotFound 0)
  else do
    let connection ← newToxFriendGetConnectionStatus lg friendNumber
    if connection = .none then return .report .friendNotConnected 0
    else
      let messageId := toxSend friendNumber.toInt32 message.contents
      if messageId = 0 then return .report .sendq 0
      else return .report .ok messageId

/-- `new_tox_send_custom_packet`. Its `send` is `tox_send_lossy_packet` or
    `tox_send_lossless_packet`, which take a `uint32_t` length. -/
def newToxSendCustomPacket (send : Int32 → Buffer → UInt32 → Int32) (lg : Legacy)
    (friendNumber : UInt32) (data : Buffer) : Checked (Outcome ErrSendCustomPacket Bool) :=
  if !lg.friendExists friendNumber then .ok (.report .friendNotFound false)
  else do
    let connection ← newToxFriendGetConnectionStatus lg friendNumber
    if connection = .none then return .report .friendNotConnected false
    else if send friendNumber.toInt32 data data.length.toUInt32 = -1 then
      return .report .sendq false
    else return .report .ok true

namespace Reporting

/-- `new_tox_friend_get_connection_status`. -/
def newToxFriendGetConnectionStatus (lg : Legacy) (friendNumber : UInt32) :
    Checked (Outcome ErrFriendQuery Connection) :=
  if !lg.friendExists friendNumber then .ok (.report .friendNotFound .none)
  else do
    let status := lg.friendConnectionStatus friendNumber
    Checked.assert (status != -1) "status != -1"
    return .report .ok (if status != 0 then .udp4 else .none)

/-- `new_tox_file_control`. -/
def newToxFileControl (lg : Legacy) (tox : NewTox) (friendNumber fileNumber : UInt32)
    (control : FileControl) : Checked (Outcome ErrFileControl Bool × NewTox × List Action) :=
  if !lg.friendExists friendNumber then .ok (.report .friendNotFound false, tox, [])
  else do
    let connection ← Adapter.newToxFriendGetConnectionStatus lg friendNumber
    if connection = .none then return (.report .friendNotConnected false, tox, [])
    else
      match tox.getTransfer friendNumber fileNumber with
      | none => return (.report .notFound false, tox, [])
      | some transfer =>
        match control with
        | .pause =>
          if transfer.state = .paused then return (.report .alreadyPaused false, tox, [])
          else do
            let (result, sent) := lg.sendControl friendNumber (FileTransfer.sendReceive fileNumber)
              (FileTransfer.oldFileNumber fileNumber) .pause
            Checked.assert (result = 0) "false"
            return (.report .ok true, tox, sent)
        | .resume =>
          if transfer.state ≠ .paused then return (.report .notPaused false, tox, [])
          else if transfer.cause = .friend then return (.report .denied false, tox, [])
          else
            let (_, sent) := lg.sendControl friendNumber (FileTransfer.sendReceive fileNumber)
              (FileTransfer.oldFileNumber fileNumber) .accept
            return (.report .ok true, tox, sent)
        | .cancel => return (.report .ok true, tox, [])

/-- `new_tox_file_send_chunk`. -/
def newToxFileSendChunk (lg : Legacy) (tox : NewTox) (friendNumber fileNumber : UInt32)
    (data : Buffer) : Checked (Outcome ErrFileSendChunk Bool × NewTox × List Action) :=
  if data.length = 0 then .error "false"
  else if lg.dataSize friendNumber < data.length then .ok (.report .tooLarge false, tox, [])
  else if data.length ≠ 0 ∧ data.isNull then .ok (.report .null false, tox, [])
  else if !lg.friendExists friendNumber then .ok (.report .friendNotFound false, tox, [])
  else do
    let connection ← Adapter.newToxFriendGetConnectionStatus lg friendNumber
    if connection = .none then return (.report .friendNotConnected false, tox, [])
    else
      match tox.getTransfer friendNumber fileNumber with
      | none => return (.report .notFound false, tox, [])
      | some transfer =>
        let (tox, actions) ← sendChunk lg tox friendNumber fileNumber transfer data
        return (.report .ok true, tox, actions)

/-- `new_toxav_call`. -/
def newToxavCall (av : NewToxAv) (defaultSettings : AvCSettings)
    (friendNumber audioBitRate videoBitRate : UInt32) (result callIndex : Int32) :
    Checked (Outcome ErrCall Bool × NewToxAv × List AvAction) := do
  let settings := makeSettings defaultSettings audioBitRate videoBitRate
  Checked.assert av.friendToCall[friendNumber]?.isNone
    "av->friend_to_call.find (friend_number) == av->friend_to_call.end ()"
  Checked.assert (result = 0) "false"
  return (.report .ok true, av.addCall friendNumber { index := callIndex, settings },
    [.call friendNumber settings])

/-- `new_toxav_answer`. -/
def newToxavAnswer (av : NewToxAv) (defaultSettings : AvCSettings)
    (friendNumber audioBitRate videoBitRate : UInt32) (result : Int32) :
    Checked (Outcome ErrAnswer Bool × NewToxAv × List AvAction) :=
  match av.friendToCall[friendNumber]? with
  | none => .ok (.report .friendNotCalling false, av, [])
  | some call => do
    let settings := makeSettings defaultSettings audioBitRate videoBitRate
    let av := av.setCall friendNumber { call with settings }
    Checked.assert (result = 0) "false"
    return (.report .ok true, av, [.answer call.index settings])

/-- `new_toxav_send_audio_frame`. -/
def newToxavSendAudioFrame (lg : Toxav) (av : NewToxAv) (friendNumber : UInt32)
    (frame : AudioFrame) : Checked (Outcome ErrSendFrame Bool × NewToxAv × List AvOutput) := do
  let call ← av.getCall friendNumber
  Checked.assert (frame.sampleCount = (frame.samplingRate * frame.channels.toUInt32 *
      call.settings.audioFrameDuration.toUInt32 / 1000).toUInt64)
    "sample_count == sampling_rate * channels * call.settings.audio_frame_duration / 1000"
  Checked.assert (frame.channels.toUInt32 = call.settings.audioChannels)
    "channels == call.settings.audio_channels"
  Checked.assert (frame.samplingRate = call.settings.audioSampleRate)
    "sampling_rate == call.settings.audio_sample_rate"
  let (result, dest) := lg.prepareAudioFrame call.index frame.pcm
    (frame.sampleCount * frame.channels.toUInt64)
  Checked.assert (0 < result) "false"
  let data := dest.take result.toNatClampNeg
  Checked.assert (0 ≤ lg.sendAudio call.index data) "false"
  return (.report .ok true, av.setCall friendNumber { call with audioEventPending := false },
    [.sendAudio call.index data])

end Reporting

/-- When the call returns, the error has been written, and it is OK exactly when the call has
    succeeded. -/
def Reports {Error α : Type} (ok : Error) (x : Checked (Outcome Error α))
    (succeeded : α → Prop) : Prop :=
  ∀ o, x = .ok o → ∃ e, o.error = some e ∧ (e = ok ↔ succeeded o.result)

/-- The outcome of a function that returns its error and its result as a pair. -/
def Outcome.ofPair {Error α : Type} (r : α × Error) : Outcome Error α := .report r.2 r.1

/-- The result and what comes with it. -/
def Outcome.withState {Error α β : Type} (r : Outcome Error α × β) : Outcome Error (α × β) :=
  { error := r.1.error, result := (r.1.result, r.2) }

/-- The number is that of the friend that the legacy core returned. -/
def Designates (returned : Option Int32) (friendNumber : UInt32) : Prop :=
  ∃ r, returned = some r ∧ 0 ≤ r ∧ friendNumber = r.toUInt32

/-- A call of a function with an `error` parameter, in a state, with its arguments and the legacy
    functions it uses. -/
inductive ApiCall (Tox ToxAv Events Mutex : Type) where
  | bootstrapLike (func : List UInt8 → UInt16 → List UInt8 → Int32)
      (address : Option (List UInt8)) (port : UInt16) (publicKey : Option (List UInt8))
  | selfSetName (toxSetName : List UInt8 → Int32) (name : Buffer)
  | selfSetStatusMessage (toxSetStatusMessage : List UInt8 → Int32) (status : Buffer)
  | friendAdd (lg : Toxcore Tox) (tox : Tox) (address message : Option (List UInt8))
  | friendAddNorequest (lg : Toxcore Tox) (tox : Tox) (publicKey : List UInt8)
  | friendDelete (lg : Toxcore Tox) (tox : Tox) (friendNumber : UInt32)
  | friendByPublicKey (toxGetFriendNumber : List UInt8 → Int32) (publicKey : Option (List UInt8))
  | friendGetPublicKey (toxGetClientId : Int32 → Int32) (friendNumber : UInt32)
      (publicKeyIsNull : Bool)
  | friendGetConnectionStatus (lg : Legacy) (friendNumber : UInt32)
  | selfSetTyping (toxSetUserIsTyping : Int32 → Bool → Int32) (friendNumber : UInt32)
      (isTyping : Bool)
  | sendSomething (toxSend : Int32 → List UInt8 → UInt32) (lg : Legacy) (friendNumber : UInt32)
      (message : Buffer)
  | fileControl (lg : Legacy) (tox : NewTox) (friendNumber fileNumber : UInt32)
      (control : FileControl)
  | fileSend (lg : Legacy) (tox : NewTox) (friendNumber : UInt32) (kind : FileKind)
      (fileSize : UInt64) (filename : Buffer) (cause : PauseReason)
  | fileSendChunk (lg : Legacy) (tox : NewTox) (friendNumber fileNumber : UInt32) (data : Buffer)
  | sendCustomPacket (send : Int32 → Buffer → UInt32 → Int32) (lg : Legacy)
      (friendNumber : UInt32) (data : Buffer)
  | avNew (s : Instances.AvNative Tox ToxAv Events Mutex) (tox : Option Tox)
      (created : Option ToxAv)
  | avCall (av : NewToxAv) (defaultSettings : AvCSettings)
      (friendNumber audioBitRate videoBitRate : UInt32) (result callIndex : Int32)
  | avAnswer (av : NewToxAv) (defaultSettings : AvCSettings)
      (friendNumber audioBitRate videoBitRate : UInt32) (result : Int32)
  | avSendAudioFrame (lg : Toxav) (av : NewToxAv) (friendNumber : UInt32) (frame : AudioFrame)

namespace ApiCall

variable {Tox ToxAv Events Mutex : Type}

/-- What `tox_add_friend` returned, if it was called. -/
def addFriendReturned (lg : Toxcore Tox) (tox : Tox) (address message : Option (List UInt8)) :
    Option Int32 := do
  let address ← address
  let message ← message
  return (lg.addFriend tox address (message.take (message.length % 2 ^ 16))).1

/-- The error of the call is written, and OK exactly when the call succeeded: its result is true,
    or an object, or the number of the friend, message or transfer. -/
def Consistent [DecidableEq Tox] : ApiCall Tox ToxAv Events Mutex → Prop
  | bootstrapLike func address port publicKey =>
    Reports .ok (.ok (Adapter.bootstrapLike func address port publicKey)) (· = true)
  | selfSetName toxSetName name => Reports .ok (.ok (newToxSelfSetName toxSetName name)) (· = true)
  | selfSetStatusMessage toxSetStatusMessage status =>
    Reports .ok (.ok (newToxSelfSetStatusMessage toxSetStatusMessage status)) (· = true)
  | friendAdd lg tox address message =>
    Reports .ok (.ok (.ofPair (newToxFriendAdd lg tox address message).1))
      (Designates (addFriendReturned lg tox address message))
  | friendAddNorequest lg tox publicKey =>
    Reports .ok (.ok (.ofPair (newToxFriendAddNorequest lg tox publicKey).1))
      (Designates (some (lg.addFriendNorequest tox publicKey).1))
  | friendDelete lg tox friendNumber =>
    Reports .ok ((fun r => .ofPair r.1) <$> newToxFriendDelete lg tox friendNumber) (· = true)
  | friendByPublicKey toxGetFriendNumber publicKey =>
    Reports .ok (.ok (newToxFriendByPublicKey toxGetFriendNumber publicKey))
      (Designates (publicKey.map toxGetFriendNumber))
  | friendGetPublicKey toxGetClientId friendNumber publicKeyIsNull =>
    Reports .ok (newToxFriendGetPublicKey toxGetClientId friendNumber publicKeyIsNull) (· = true)
  | friendGetConnectionStatus lg friendNumber =>
    Reports .ok (Reporting.newToxFriendGetConnectionStatus lg friendNumber)
      fun _ => lg.friendExists friendNumber = true
  | selfSetTyping toxSetUserIsTyping friendNumber isTyping =>
    Reports .ok (newToxSelfSetTyping toxSetUserIsTyping friendNumber isTyping) (· = true)
  | sendSomething toxSend lg friendNumber message =>
    Reports .ok (newToxSendSomething toxSend lg friendNumber message) fun messageId =>
      messageId ≠ 0 ∧ messageId = toxSend friendNumber.toInt32 message.contents
  | fileControl lg tox friendNumber fileNumber control =>
    Reports .ok (.withState <$>
      Reporting.newToxFileControl lg tox friendNumber fileNumber control) (·.1 = true)
  | fileSend lg tox friendNumber kind fileSize filename cause =>
    Reports .ok ((fun r => .ofPair (r.2, r.1)) <$>
      newToxFileSend lg tox friendNumber kind fileSize filename cause) fun r =>
        tox.getTransfer friendNumber r.1 = none ∧
          (r.2.1.getTransfer friendNumber r.1).isSome = true
  | fileSendChunk lg tox friendNumber fileNumber data =>
    Reports .ok (.withState <$>
      Reporting.newToxFileSendChunk lg tox friendNumber fileNumber data) (·.1 = true)
  | sendCustomPacket send lg friendNumber data =>
    Reports .ok (newToxSendCustomPacket send lg friendNumber data) (· = true)
  | avNew s tox created =>
    Reports .ok (.ok (.ofPair (Instances.newToxAvNew s tox created).1)) (·.isSome = true)
  | avCall av defaultSettings friendNumber audioBitRate videoBitRate result callIndex =>
    Reports .ok (.withState <$> Reporting.newToxavCall av defaultSettings friendNumber
      audioBitRate videoBitRate result callIndex) (·.1 = true)
  | avAnswer av defaultSettings friendNumber audioBitRate videoBitRate result =>
    Reports .ok (.withState <$> Reporting.newToxavAnswer av defaultSettings friendNumber
      audioBitRate videoBitRate result) (·.1 = true)
  | avSendAudioFrame lg av friendNumber frame =>
    Reports .ok (.withState <$> Reporting.newToxavSendAudioFrame lg av friendNumber frame)
      (·.1 = true)

/-- The legacy core does not return a negative number that the adapter takes for a friend, and no
    A/V object is created. -/
def Expected : ApiCall Tox ToxAv Events Mutex → Prop
  | friendAdd lg tox address message =>
    ∀ r, addFriendReturned lg tox address message = some r →
      0 ≤ r ∨ r ∈ [-1, -2, -3, -4, -6, -7, -8]
  | friendAddNorequest lg tox publicKey =>
    0 ≤ (lg.addFriendNorequest tox publicKey).1 ∨
      (lg.addFriendNorequest tox publicKey).1 ∈ [-3, -4, -6, -7, -8]
  | friendByPublicKey toxGetFriendNumber publicKey =>
    ∀ key, publicKey = some key → -1 ≤ toxGetFriendNumber key
  | avNew s tox created => ∀ t, tox = some t → s.hasAv t = false → created = none
  | _ => True

end ApiCall

end Tox4j.Adapter
