import Tox4j.Jni.Exceptions

/-!
# The native methods that report errors

Each of them is what it passes to `with_instance`: the names and the cases of its switch, what it
makes of a result, and a function of the adapter with its arguments.
-/

namespace Tox4j.Jni

open Tox4j.Misc Tox4j.Adapter Tox4j.Instances

/-- What the methods call of the legacy core, besides what `CoreFunctions` has. -/
structure LegacyFunctions (Tox : Type) extends CoreFunctions Tox where
  toxSetName : Tox → List UInt8 → Int32
  toxSetStatusMessage : Tox → List UInt8 → Int32
  /-- The result, and the key that is written. -/
  toxGetClientId : Tox → Int32 → Int32 × List UInt8
  toxSetUserIsTyping : Tox → Int32 → Bool → Int32
  toxSendMessage : Tox → Int32 → List UInt8 → UInt32
  toxSendAction : Tox → Int32 → List UInt8 → UInt32
  toxSendLossyPacket : Tox → Int32 → Buffer → UInt32 → Int32
  toxSendLosslessPacket : Tox → Int32 → Buffer → UInt32 → Int32

/-- What the methods call of the legacy A/V library. -/
structure AvFunctions (ToxAv : Type) where
  lg : ToxAv → Toxav
  newToxAv : ToxAv → NewToxAv
  defaultSettings : AvCSettings
  /-- The result, and the index of the new call. -/
  toxavCall : ToxAv → UInt32 → Int32 × Int32
  toxavAnswer : ToxAv → UInt32 → Int32

section

variable {Tox Events Mutex Error Value State α : Type}

/-- What a method has got from `with_instance`. -/
def adapterCall (returned : α → Outcome Error Value × State)
    (x : NativeRun (Except Throwable α)) : NativeRun (Except Early (Outcome Error Value × State)) :=
  (fun result => match result with
    | .error exception => .error (.instance exception)
    | .ok a => .ok (returned a)) <$> x

/-- A function of the adapter, whose assertions are not about the arguments alone. -/
def adapterRun (x : Checked α) : NativeRun α := x.mapError .state

/-- Runs a function of the adapter that leaves its state alone. -/
def onInstance (manager : InstanceManager Tox Events Mutex) (instanceNumber : Int32)
    (func : Tox → Checked (Outcome Error Value)) :
    NativeRun (Except Early (Outcome Error Value × Unit)) :=
  adapterCall (·, ()) (withInstance manager instanceNumber fun tox => adapterRun (func tox))

/-- Runs a function of the adapter that returns its new state. -/
def onInstanceState (manager : InstanceManager Tox Events Mutex) (instanceNumber : Int32)
    (func : Tox → Checked (Outcome Error Value × State)) :
    NativeRun (Except Early (Outcome Error Value × State)) :=
  adapterCall id (withInstance manager instanceNumber fun tox => adapterRun (func tox))

end

/-! ## `ToxCoreImpl` -/

/-- `handle_set_info_error`. -/
def handleSetInfoError : ErrorFunc ErrSetInfo :=
  { module := "core", method := "SetInfo", failureCases := [.null, .tooLong] }

/-- `handle_tox_friend_add_result`. -/
def handleToxFriendAddResult : ErrorFunc ErrFriendAdd :=
  { module := "core", method := "FriendAdd", failureCases := [.null, .tooLong, .noMessage, .ownKey,
      .alreadySent, .badChecksum, .setNewNospam, .malloc] }

/-- `handle_send_message_error`. -/
def handleSendMessageError : ErrorFunc ErrSendMessage :=
  { module := "core", method := "SendMessage", failureCases := [.null, .friendNotFound,
      .friendNotConnected, .sendq, .tooLong, .empty] }

/-- `handle_send_custom_packet_error`. -/
def handleSendCustomPacketError : ErrorFunc ErrSendCustomPacket :=
  { module := "core", method := "SendCustomPacket", failureCases := [.null, .friendNotFound,
      .friendNotConnected, .invalid, .empty, .tooLong, .sendq] }

/-- The switch of `toxBootstrapLike`. -/
def bootstrapError : ErrorFunc ErrBootstrap :=
  { module := "core", method := "Bootstrap", failureCases := [.null, .badAddress, .badPort] }

/-- The switch of `toxGetUdpPort` and of `toxGetTcpPort`. -/
def getPortError : ErrorFunc ErrGetPort :=
  { module := "core", method := "GetPort", failureCases := [.notBound] }

/-- The switch of `toxFriendDelete`. -/
def friendDeleteError : ErrorFunc ErrFriendDelete :=
  { module := "core", method := "FriendDelete", failureCases := [.friendNotFound] }

/-- The switch of `toxFriendByPublicKey`. -/
def friendByPublicKeyError : ErrorFunc ErrFriendByPublicKey :=
  { module := "core", method := "FriendByPublicKey", failureCases := [.null, .notFound] }

/-- The switch of `toxFriendGetPublicKey`. -/
def friendGetPublicKeyError : ErrorFunc ErrFriendGetPublicKey :=
  { module := "core", method := "FriendGetPublicKey", failureCases := [.friendNotFound] }

/-- The switch of `toxSelfSetTyping`. -/
def setTypingError : ErrorFunc ErrSetTyping :=
  { module := "core", method := "SetTyping", failureCases := [.friendNotFound] }

/-- The switch of `toxFileControl`. -/
def fileControlError : ErrorFunc ErrFileControl :=
  { module := "core", method := "FileControl", failureCases := [.friendNotFound,
      .friendNotConnected, .notFound, .notPaused, .denied, .alreadyPaused] }

/-- The switch of `toxFileSend`. -/
def fileSendError : ErrorFunc ErrFileSend :=
  { module := "core", method := "FileSend", failureCases := [.null, .friendNotFound,
      .friendNotConnected, .nameEmpty, .nameTooLong, .tooMany] }

/-- The switch of `toxFileSendChunk`. -/
def fileSendChunkError : ErrorFunc ErrFileSendChunk :=
  { module := "core", method := "FileSendChunk", failureCases := [.null, .friendNotFound,
      .friendNotConnected, .notFound, .tooLarge] }

namespace ToxCoreImpl

section

variable {Tox Events Mutex : Type} (core : LegacyFunctions Tox)
  (manager : InstanceManager Tox Events Mutex) (instanceNumber : Int32)

/-- The end of `toxBootstrapLike`. -/
def bootstrapLikeCall (function : Tox → List UInt8 → UInt16 → List UInt8 → Int32)
    (address : Option (List UInt8)) (port : Int32) (publicKey : Option (JavaArray Int8)) :
    NativeCall where
  errorFunc := bootstrapError
  successFunc _ := ()
  adapter := adapterCall (·, ())
    (toxBootstrapLike manager instanceNumber function address port publicKey)

def toxBootstrap (address : Option (List UInt8)) (port : Int32)
    (publicKey : Option (JavaArray Int8)) : NativeCall :=
  bootstrapLikeCall manager instanceNumber core.toxBootstrapFromAddress address port publicKey

def toxAddTcpRelay (address : Option (List UInt8)) (port : Int32)
    (publicKey : Option (JavaArray Int8)) : NativeCall :=
  bootstrapLikeCall manager instanceNumber core.toxAddTcpRelay address port publicKey

/-- The body of the next two methods. -/
def toxGetPort : NativeCall where
  errorFunc := getPortError
  successFunc port := port.toUInt32.toInt32
  adapter := onInstance manager instanceNumber fun _ => .ok newToxGetPort

def toxGetUdpPort : NativeCall := toxGetPort manager instanceNumber

def toxGetTcpPort : NativeCall := toxGetPort manager instanceNumber

def toxSelfSetName (name : Option (JavaArray Int8)) : NativeCall where
  errorFunc := handleSetInfoError
  successFunc _ := ()
  adapter := onInstance manager instanceNumber fun tox =>
    .ok (newToxSelfSetName (core.toxSetName tox) (ByteArray.mk name).buffer)

def toxSelfSetStatusMessage (statusMessage : Option (JavaArray Int8)) : NativeCall where
  errorFunc := handleSetInfoError
  successFunc _ := ()
  adapter := onInstance manager instanceNumber fun tox =>
    .ok (newToxSelfSetStatusMessage (core.toxSetStatusMessage tox)
      (ByteArray.mk statusMessage).buffer)

def toxFriendAdd (address message : Option (JavaArray Int8)) : NativeCall where
  errorFunc := handleToxFriendAddResult
  successFunc friendNumber := friendNumber.toInt32
  adapter := adapterCall (fun r => (.ofPair r.1, r.2))
    (Jni.toxFriendAdd manager instanceNumber core.toCoreFunctions address message)

def toxFriendAddNorequest (publicKey : Option (JavaArray Int8)) : NativeCall where
  errorFunc := handleToxFriendAddResult
  successFunc friendNumber := friendNumber.toInt32
  adapter := adapterCall (fun r => (.ofPair r.1, r.2))
    (Jni.toxFriendAddNorequest manager instanceNumber core.toCoreFunctions publicKey)

def toxFriendDelete (friendNumber : Int32) : NativeCall where
  errorFunc := friendDeleteError
  successFunc _ := ()
  adapter := onInstanceState manager instanceNumber fun tox =>
    (fun r => (.ofPair r.1, r.2)) <$> newToxFriendDelete core.lg tox friendNumber.toUInt32

def toxFriendByPublicKey (publicKey : Option (JavaArray Int8)) : NativeCall where
  errorFunc := friendByPublicKeyError
  successFunc friendNumber := friendNumber.toInt32
  adapter := adapterCall (·, ())
    (Jni.toxFriendByPublicKey manager instanceNumber core.toCoreFunctions publicKey)

/-- The buffer that the key is written to is not null. -/
def toxFriendGetPublicKey (friendNumber : Int32) : NativeCall where
  errorFunc := friendGetPublicKeyError
  successFunc := Prod.snd
  adapter := onInstance manager instanceNumber fun tox =>
    (fun r => .withState (r, (core.toxGetClientId tox friendNumber).2)) <$>
      newToxFriendGetPublicKey (fun f => (core.toxGetClientId tox f).1) friendNumber.toUInt32 false

def toxSelfSetTyping (friendNumber : Int32) (isTyping : Bool) : NativeCall where
  errorFunc := setTypingError
  successFunc _ := ()
  adapter := onInstance manager instanceNumber fun tox =>
    newToxSelfSetTyping (core.toxSetUserIsTyping tox) friendNumber.toUInt32 isTyping

def toxSendMessage (friendNumber : Int32) (message : Option (JavaArray Int8)) : NativeCall where
  errorFunc := handleSendMessageError
  successFunc messageId := messageId.toInt32
  adapter := onInstance manager instanceNumber fun tox =>
    newToxSendSomething (core.toxSendMessage tox) (core.legacy tox) friendNumber.toUInt32
      (ByteArray.mk message).buffer

def toxSendAction (friendNumber : Int32) (action : Option (JavaArray Int8)) : NativeCall where
  errorFunc := handleSendMessageError
  successFunc messageId := messageId.toInt32
  adapter := onInstance manager instanceNumber fun tox =>
    newToxSendSomething (core.toxSendAction tox) (core.legacy tox) friendNumber.toUInt32
      (ByteArray.mk action).buffer

/-- `ToxFileControl` and `TOX_FILE_CONTROL` have the same values. -/
def toxFileControl (friendNumber fileNumber : Int32) (control : FileControl) : NativeCall where
  errorFunc := fileControlError
  successFunc _ := ()
  adapter := onInstanceState manager instanceNumber fun tox =>
    Reporting.newToxFileControl (core.legacy tox) (core.newTox tox) friendNumber.toUInt32
      fileNumber.toUInt32 control

/-- `cause` is what the uninitialised field of the new transfer holds. -/
def toxFileSend (friendNumber : Int32) (kind : FileKind) (fileSize : Int64)
    (filename : Option (JavaArray Int8)) (cause : PauseReason) : NativeCall where
  errorFunc := fileSendError
  successFunc fileNumber := fileNumber.toInt32
  adapter := onInstanceState manager instanceNumber fun tox =>
    (fun r => (.ofPair (r.2.1, r.1), r.2.2)) <$> newToxFileSend (core.legacy tox)
      (core.newTox tox) friendNumber.toUInt32 kind fileSize.toUInt64 (ByteArray.mk filename).buffer
      cause

def toxFileSendChunk (friendNumber fileNumber : Int32) (chunk : Option (JavaArray Int8)) :
    NativeCall where
  errorFunc := fileSendChunkError
  successFunc _ := ()
  adapter := onInstanceState manager instanceNumber fun tox =>
    Reporting.newToxFileSendChunk (core.legacy tox) (core.newTox tox) friendNumber.toUInt32
      fileNumber.toUInt32 (ByteArray.mk chunk).buffer

def toxSendLossyPacket (friendNumber : Int32) (packet : Option (JavaArray Int8)) :
    NativeCall where
  errorFunc := handleSendCustomPacketError
  successFunc _ := ()
  adapter := onInstance manager instanceNumber fun tox =>
    newToxSendCustomPacket (core.toxSendLossyPacket tox) (core.legacy tox) friendNumber.toUInt32
      (ByteArray.mk packet).buffer

def toxSendLosslessPacket (friendNumber : Int32) (packet : Option (JavaArray Int8)) :
    NativeCall where
  errorFunc := handleSendCustomPacketError
  successFunc _ := ()
  adapter := onInstance manager instanceNumber fun tox =>
    newToxSendCustomPacket (core.toxSendLosslessPacket tox) (core.legacy tox)
      friendNumber.toUInt32 (ByteArray.mk packet).buffer

end

end ToxCoreImpl

/-! ## `ToxAvImpl` -/

/-- The switch of both methods that send a frame. BAD_LENGTH is no error of the adapter. -/
def sendFrameError : ErrorFunc ErrSendFrame :=
  { module := "av", method := "SendFrame", failureCases := [.null, .friendNotFound,
      .friendNotInCall, .notRequested, .invalid] }

/-- The switch of `toxAvCall`. -/
def callError : ErrorFunc ErrCall :=
  { module := "av", method := "Call", failureCases := [.malloc, .friendNotFound,
      .friendNotConnected, .friendAlreadyInCall, .invalidBitRate] }

/-- The switch of `toxAvAnswer`. -/
def answerError : ErrorFunc ErrAnswer :=
  { module := "av", method := "Answer", failureCases := [.malloc, .friendNotFound,
      .friendNotCalling, .invalidBitRate] }

/-- The switch of `toxAvCallControl`. -/
def callControlError : ErrorFunc ErrCallControl :=
  { module := "av", method := "CallControl", failureCases := [.friendNotFound, .friendNotInCall,
      .notPaused, .denied, .alreadyPaused] }

/-- The switch of `toxAvSetAudioBitRate` and of `toxAvSetVideoBitRate`. -/
def bitRateError : ErrorFunc ErrBitRate :=
  { module := "av", method := "BitRate", failureCases := [.invalid] }

namespace ToxAvImpl

section

variable {ToxAv Events Mutex : Type} (lg : AvFunctions ToxAv)
  (manager : InstanceManager ToxAv Events Mutex) (instanceNumber : Int32)

def toxAvCall (friendNumber audioBitRate videoBitRate : Int32) : NativeCall where
  errorFunc := callError
  successFunc _ := ()
  adapter := onInstanceState manager instanceNumber fun av =>
    let (result, callIndex) := lg.toxavCall av friendNumber.toUInt32
    Reporting.newToxavCall (lg.newToxAv av) lg.defaultSettings friendNumber.toUInt32
      audioBitRate.toUInt32 videoBitRate.toUInt32 result callIndex

def toxAvAnswer (friendNumber audioBitRate videoBitRate : Int32) : NativeCall where
  errorFunc := answerError
  successFunc _ := ()
  adapter := onInstanceState manager instanceNumber fun av =>
    Reporting.newToxavAnswer (lg.newToxAv av) lg.defaultSettings friendNumber.toUInt32
      audioBitRate.toUInt32 videoBitRate.toUInt32 (lg.toxavAnswer av friendNumber.toUInt32)

def toxAvCallControl (friendNumber control : Int32) : NativeCall where
  errorFunc := callControlError
  successFunc _ := ()
  adapter := onInstance manager instanceNumber fun av =>
    newToxavCallControl (lg.newToxAv av) friendNumber.toUInt32 control

/-- The body of the next two methods. -/
def toxAvSetBitRate (friendNumber bitRate : Int32) : NativeCall where
  errorFunc := bitRateError
  successFunc _ := ()
  adapter := onInstance manager instanceNumber fun av =>
    newToxavSetBitRate (lg.newToxAv av) friendNumber.toUInt32 bitRate.toUInt32

def toxAvSetAudioBitRate (friendNumber audioBitRate : Int32) : NativeCall :=
  toxAvSetBitRate lg manager instanceNumber friendNumber audioBitRate

def toxAvSetVideoBitRate (friendNumber videoBitRate : Int32) : NativeCall :=
  toxAvSetBitRate lg manager instanceNumber friendNumber videoBitRate

def toxAvSendVideoFrame (friendNumber width height : Int32)
    (y u v a : Option (JavaArray Int8)) : NativeCall where
  errorFunc := sendFrameError
  successFunc _ := ()
  adapter :=
    match Jni.toxAvSendVideoFrame friendNumber width height y u v a with
    | .error .badLength => .ok (.error (.code "BAD_LENGTH"))
    | .ok args => onInstanceState manager instanceNumber fun av =>
        (fun r => (.ofPair ((), r.1), r.2)) <$>
          newToxavSendVideoFrame (lg.newToxAv av) args.friendNumber

def toxAvSendAudioFrame (friendNumber : Int32) (pcm : Option (JavaArray Int16))
    (sampleCount channels samplingRate : Int32) : NativeCall where
  errorFunc := sendFrameError
  successFunc _ := ()
  adapter :=
    match Jni.toxAvSendAudioFrame friendNumber pcm sampleCount channels samplingRate with
    | .error condition => .error (.argument condition)
    | .ok (.error .badLength) => .ok (.error (.code "BAD_LENGTH"))
    | .ok (.ok args) => onInstanceState manager instanceNumber fun av =>
        Reporting.newToxavSendAudioFrame (lg.lg av) (lg.newToxAv av) args.friendNumber
          { pcm := args.pcm.getD []
            sampleCount := args.sampleCount
            channels := args.channels
            samplingRate := args.samplingRate }

end

end ToxAvImpl

/-! ## All of them -/

/-- The managers, and the legacy libraries. -/
structure NativeLibrary (Tox ToxAv Events AvEvents Mutex : Type) where
  core : LegacyFunctions Tox
  av : AvFunctions ToxAv
  tox : InstanceManager Tox Events Mutex
  toxAv : InstanceManager ToxAv AvEvents Mutex

/-- A native method, and its arguments after the instance number. -/
inductive MethodCall where
  | toxBootstrap (address : Option (List UInt8)) (port : Int32)
      (publicKey : Option (JavaArray Int8))
  | toxAddTcpRelay (address : Option (List UInt8)) (port : Int32)
      (publicKey : Option (JavaArray Int8))
  | toxGetUdpPort
  | toxGetTcpPort
  | toxSelfSetName (name : Option (JavaArray Int8))
  | toxSelfSetStatusMessage (statusMessage : Option (JavaArray Int8))
  | toxFriendAdd (address message : Option (JavaArray Int8))
  | toxFriendAddNorequest (publicKey : Option (JavaArray Int8))
  | toxFriendDelete (friendNumber : Int32)
  | toxFriendByPublicKey (publicKey : Option (JavaArray Int8))
  | toxFriendGetPublicKey (friendNumber : Int32)
  | toxSelfSetTyping (friendNumber : Int32) (isTyping : Bool)
  | toxSendMessage (friendNumber : Int32) (message : Option (JavaArray Int8))
  | toxSendAction (friendNumber : Int32) (action : Option (JavaArray Int8))
  | toxFileControl (friendNumber fileNumber : Int32) (control : FileControl)
  | toxFileSend (friendNumber : Int32) (kind : FileKind) (fileSize : Int64)
      (filename : Option (JavaArray Int8)) (cause : PauseReason)
  | toxFileSendChunk (friendNumber fileNumber : Int32) (chunk : Option (JavaArray Int8))
  | toxSendLossyPacket (friendNumber : Int32) (packet : Option (JavaArray Int8))
  | toxSendLosslessPacket (friendNumber : Int32) (packet : Option (JavaArray Int8))
  | toxAvCall (friendNumber audioBitRate videoBitRate : Int32)
  | toxAvAnswer (friendNumber audioBitRate videoBitRate : Int32)
  | toxAvCallControl (friendNumber control : Int32)
  | toxAvSetAudioBitRate (friendNumber audioBitRate : Int32)
  | toxAvSetVideoBitRate (friendNumber videoBitRate : Int32)
  | toxAvSendVideoFrame (friendNumber width height : Int32) (y u v a : Option (JavaArray Int8))
  | toxAvSendAudioFrame (friendNumber : Int32) (pcm : Option (JavaArray Int16))
      (sampleCount channels samplingRate : Int32)

section

variable {Tox ToxAv Events AvEvents Mutex : Type}
  (library : NativeLibrary Tox ToxAv Events AvEvents Mutex) (instanceNumber : Int32)

/-- The call on the object with an instance number. -/
def MethodCall.call : MethodCall → NativeCall
  | toxBootstrap address port publicKey =>
    ToxCoreImpl.toxBootstrap library.core library.tox instanceNumber address port publicKey
  | toxAddTcpRelay address port publicKey =>
    ToxCoreImpl.toxAddTcpRelay library.core library.tox instanceNumber address port publicKey
  | toxGetUdpPort => ToxCoreImpl.toxGetUdpPort library.tox instanceNumber
  | toxGetTcpPort => ToxCoreImpl.toxGetTcpPort library.tox instanceNumber
  | toxSelfSetName name =>
    ToxCoreImpl.toxSelfSetName library.core library.tox instanceNumber name
  | toxSelfSetStatusMessage statusMessage =>
    ToxCoreImpl.toxSelfSetStatusMessage library.core library.tox instanceNumber statusMessage
  | toxFriendAdd address message =>
    ToxCoreImpl.toxFriendAdd library.core library.tox instanceNumber address message
  | toxFriendAddNorequest publicKey =>
    ToxCoreImpl.toxFriendAddNorequest library.core library.tox instanceNumber publicKey
  | toxFriendDelete friendNumber =>
    ToxCoreImpl.toxFriendDelete library.core library.tox instanceNumber friendNumber
  | toxFriendByPublicKey publicKey =>
    ToxCoreImpl.toxFriendByPublicKey library.core library.tox instanceNumber publicKey
  | toxFriendGetPublicKey friendNumber =>
    ToxCoreImpl.toxFriendGetPublicKey library.core library.tox instanceNumber friendNumber
  | toxSelfSetTyping friendNumber isTyping =>
    ToxCoreImpl.toxSelfSetTyping library.core library.tox instanceNumber friendNumber isTyping
  | toxSendMessage friendNumber message =>
    ToxCoreImpl.toxSendMessage library.core library.tox instanceNumber friendNumber message
  | toxSendAction friendNumber action =>
    ToxCoreImpl.toxSendAction library.core library.tox instanceNumber friendNumber action
  | toxFileControl friendNumber fileNumber control =>
    ToxCoreImpl.toxFileControl library.core library.tox instanceNumber friendNumber fileNumber
      control
  | toxFileSend friendNumber kind fileSize filename cause =>
    ToxCoreImpl.toxFileSend library.core library.tox instanceNumber friendNumber kind fileSize
      filename cause
  | toxFileSendChunk friendNumber fileNumber chunk =>
    ToxCoreImpl.toxFileSendChunk library.core library.tox instanceNumber friendNumber fileNumber
      chunk
  | toxSendLossyPacket friendNumber packet =>
    ToxCoreImpl.toxSendLossyPacket library.core library.tox instanceNumber friendNumber packet
  | toxSendLosslessPacket friendNumber packet =>
    ToxCoreImpl.toxSendLosslessPacket library.core library.tox instanceNumber friendNumber packet
  | toxAvCall friendNumber audioBitRate videoBitRate =>
    ToxAvImpl.toxAvCall library.av library.toxAv instanceNumber friendNumber audioBitRate
      videoBitRate
  | toxAvAnswer friendNumber audioBitRate videoBitRate =>
    ToxAvImpl.toxAvAnswer library.av library.toxAv instanceNumber friendNumber audioBitRate
      videoBitRate
  | toxAvCallControl friendNumber control =>
    ToxAvImpl.toxAvCallControl library.av library.toxAv instanceNumber friendNumber control
  | toxAvSetAudioBitRate friendNumber audioBitRate =>
    ToxAvImpl.toxAvSetAudioBitRate library.av library.toxAv instanceNumber friendNumber
      audioBitRate
  | toxAvSetVideoBitRate friendNumber videoBitRate =>
    ToxAvImpl.toxAvSetVideoBitRate library.av library.toxAv instanceNumber friendNumber
      videoBitRate
  | toxAvSendVideoFrame friendNumber width height y u v a =>
    ToxAvImpl.toxAvSendVideoFrame library.av library.toxAv instanceNumber friendNumber width height
      y u v a
  | toxAvSendAudioFrame friendNumber pcm sampleCount channels samplingRate =>
    ToxAvImpl.toxAvSendAudioFrame library.av library.toxAv instanceNumber friendNumber pcm
      sampleCount channels samplingRate

/-- `with_instance` runs its function on this object. -/
def Reaches {Tox Events Mutex : Type} (manager : InstanceManager Tox Events Mutex)
    (instanceNumber : Int32) (tox : Tox) : Prop :=
  ∃ manager', manager.withInstance instanceNumber = .ok (.ran (some tox), manager')

/-- A chunk for a live instance that has more bytes than the legacy core takes at once. -/
def MethodCall.TooLarge : MethodCall → Prop
  | toxFileSendChunk friendNumber _ chunk =>
    ∃ tox, Reaches library.tox instanceNumber tox ∧ JavaArray.length chunk ≠ 0 ∧
      (library.core.legacy tox).dataSize friendNumber.toUInt32 <
        UInt64.ofNat (JavaArray.length chunk)
  | _ => False

end

end Tox4j.Jni
