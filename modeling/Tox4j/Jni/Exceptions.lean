import Tox4j.Jni.Arguments
import Tox4j.Jni.SendFrame

/-!
# `ErrorHandling.cpp`: from error codes to Java exceptions

A native method calls a function of the adapter, and a switch over the error that the function
wrote tells whether its result is returned or an exception is thrown. The exception is made from
names alone: that of its class, and that of a constant of the `enum` in the class.
-/

namespace Tox4j.Adapter

open Tox4j.Misc

/-- `TOX_ERR_GET_PORT`. -/
inductive ErrGetPort where
  | ok
  | notBound
  deriving DecidableEq, Repr

/-- `TOXAV_ERR_CALL_CONTROL`. -/
inductive ErrCallControl where
  | ok
  | friendNotFound
  | friendNotInCall
  | notPaused
  | denied
  | alreadyPaused
  deriving DecidableEq, Repr

/-- `TOXAV_ERR_BIT_RATE`. -/
inductive ErrBitRate where
  | ok
  | invalid
  deriving DecidableEq, Repr

/-- `new_tox_get_udp_port` and `new_tox_get_tcp_port`. -/
def newToxGetPort : Outcome ErrGetPort UInt16 := .report .notBound 0

/-- `new_toxav_call_control`. -/
def newToxavCallControl (_av : NewToxAv) (_friendNumber : UInt32) (_control : Int32) :
    Checked (Outcome ErrCallControl Bool) :=
  .error "false"

/-- `new_toxav_set_audio_bit_rate` and `new_toxav_set_video_bit_rate`. -/
def newToxavSetBitRate (_av : NewToxAv) (_friendNumber _bitRate : UInt32) :
    Checked (Outcome ErrBitRate Bool) :=
  .error "false"

end Tox4j.Adapter

namespace Tox4j.Jni

open Tox4j.Misc Tox4j.Adapter Tox4j.Instances

/-- An `enum` of errors, in order: the enumerators, and their names after the prefix. -/
class ErrorEnum (Error : Type) [DecidableEq Error] where
  ok : Error
  enumerators : List (Error × String)
  complete : ∀ error, error ∈ enumerators.map Prod.fst
  distinct : (enumerators.map Prod.snd).Nodup

namespace ErrorEnum

variable {Error : Type} [DecidableEq Error] [ErrorEnum Error]

/-- What `#ERROR` is in `failure_case`. -/
def name (error : Error) : String := ((enumerators.lookup error).getD "")

/-- The value of an enumerator. -/
def number (error : Error) : Int32 :=
  Int32.ofNat (enumerators.findIdx fun entry : Error × String => entry.1 == error)

end ErrorEnum

instance instErrorEnumBootstrap : ErrorEnum ErrBootstrap where
  ok := .ok
  enumerators := [(.ok, "OK"), (.null, "NULL"), (.badAddress, "BAD_ADDRESS"),
    (.badPort, "BAD_PORT")]
  complete error := by cases error <;> decide
  distinct := by decide

instance instErrorEnumGetPort : ErrorEnum ErrGetPort where
  ok := .ok
  enumerators := [(.ok, "OK"), (.notBound, "NOT_BOUND")]
  complete error := by cases error <;> decide
  distinct := by decide

instance instErrorEnumSetInfo : ErrorEnum ErrSetInfo where
  ok := .ok
  enumerators := [(.ok, "OK"), (.null, "NULL"), (.tooLong, "TOO_LONG")]
  complete error := by cases error <;> decide
  distinct := by decide

instance instErrorEnumFriendAdd : ErrorEnum ErrFriendAdd where
  ok := .ok
  enumerators := [(.ok, "OK"), (.null, "NULL"), (.tooLong, "TOO_LONG"),
    (.noMessage, "NO_MESSAGE"), (.ownKey, "OWN_KEY"), (.alreadySent, "ALREADY_SENT"),
    (.badChecksum, "BAD_CHECKSUM"), (.setNewNospam, "SET_NEW_NOSPAM"), (.malloc, "MALLOC")]
  complete error := by cases error <;> decide
  distinct := by decide

instance instErrorEnumFriendDelete : ErrorEnum ErrFriendDelete where
  ok := .ok
  enumerators := [(.ok, "OK"), (.friendNotFound, "FRIEND_NOT_FOUND")]
  complete error := by cases error <;> decide
  distinct := by decide

instance instErrorEnumFriendByPublicKey : ErrorEnum ErrFriendByPublicKey where
  ok := .ok
  enumerators := [(.ok, "OK"), (.null, "NULL"), (.notFound, "NOT_FOUND")]
  complete error := by cases error <;> decide
  distinct := by decide

instance instErrorEnumFriendGetPublicKey : ErrorEnum ErrFriendGetPublicKey where
  ok := .ok
  enumerators := [(.ok, "OK"), (.friendNotFound, "FRIEND_NOT_FOUND")]
  complete error := by cases error <;> decide
  distinct := by decide

instance instErrorEnumSetTyping : ErrorEnum ErrSetTyping where
  ok := .ok
  enumerators := [(.ok, "OK"), (.friendNotFound, "FRIEND_NOT_FOUND")]
  complete error := by cases error <;> decide
  distinct := by decide

instance instErrorEnumSendMessage : ErrorEnum ErrSendMessage where
  ok := .ok
  enumerators := [(.ok, "OK"), (.null, "NULL"), (.friendNotFound, "FRIEND_NOT_FOUND"),
    (.friendNotConnected, "FRIEND_NOT_CONNECTED"), (.sendq, "SENDQ"), (.tooLong, "TOO_LONG"),
    (.empty, "EMPTY")]
  complete error := by cases error <;> decide
  distinct := by decide

instance instErrorEnumSendCustomPacket : ErrorEnum ErrSendCustomPacket where
  ok := .ok
  enumerators := [(.ok, "OK"), (.null, "NULL"), (.friendNotFound, "FRIEND_NOT_FOUND"),
    (.friendNotConnected, "FRIEND_NOT_CONNECTED"), (.invalid, "INVALID"), (.empty, "EMPTY"),
    (.tooLong, "TOO_LONG"), (.sendq, "SENDQ")]
  complete error := by cases error <;> decide
  distinct := by decide

instance instErrorEnumFileControl : ErrorEnum ErrFileControl where
  ok := .ok
  enumerators := [(.ok, "OK"), (.friendNotFound, "FRIEND_NOT_FOUND"),
    (.friendNotConnected, "FRIEND_NOT_CONNECTED"), (.notFound, "NOT_FOUND"),
    (.notPaused, "NOT_PAUSED"), (.denied, "DENIED"), (.alreadyPaused, "ALREADY_PAUSED")]
  complete error := by cases error <;> decide
  distinct := by decide

instance instErrorEnumFileSend : ErrorEnum ErrFileSend where
  ok := .ok
  enumerators := [(.ok, "OK"), (.null, "NULL"), (.friendNotFound, "FRIEND_NOT_FOUND"),
    (.friendNotConnected, "FRIEND_NOT_CONNECTED"), (.nameEmpty, "NAME_EMPTY"),
    (.nameTooLong, "NAME_TOO_LONG"), (.tooMany, "TOO_MANY")]
  complete error := by cases error <;> decide
  distinct := by decide

instance instErrorEnumFileSendChunk : ErrorEnum ErrFileSendChunk where
  ok := .ok
  enumerators := [(.ok, "OK"), (.null, "NULL"), (.friendNotFound, "FRIEND_NOT_FOUND"),
    (.friendNotConnected, "FRIEND_NOT_CONNECTED"), (.notFound, "NOT_FOUND"),
    (.tooLarge, "TOO_LARGE")]
  complete error := by cases error <;> decide
  distinct := by decide

instance instErrorEnumCall : ErrorEnum ErrCall where
  ok := .ok
  enumerators := [(.ok, "OK"), (.malloc, "MALLOC"), (.friendNotFound, "FRIEND_NOT_FOUND"),
    (.friendNotConnected, "FRIEND_NOT_CONNECTED"),
    (.friendAlreadyInCall, "FRIEND_ALREADY_IN_CALL"), (.invalidBitRate, "INVALID_BIT_RATE")]
  complete error := by cases error <;> decide
  distinct := by decide

instance instErrorEnumAnswer : ErrorEnum ErrAnswer where
  ok := .ok
  enumerators := [(.ok, "OK"), (.malloc, "MALLOC"), (.friendNotFound, "FRIEND_NOT_FOUND"),
    (.friendNotCalling, "FRIEND_NOT_CALLING"), (.invalidBitRate, "INVALID_BIT_RATE")]
  complete error := by cases error <;> decide
  distinct := by decide

instance instErrorEnumCallControl : ErrorEnum ErrCallControl where
  ok := .ok
  enumerators := [(.ok, "OK"), (.friendNotFound, "FRIEND_NOT_FOUND"),
    (.friendNotInCall, "FRIEND_NOT_IN_CALL"), (.notPaused, "NOT_PAUSED"), (.denied, "DENIED"),
    (.alreadyPaused, "ALREADY_PAUSED")]
  complete error := by cases error <;> decide
  distinct := by decide

instance instErrorEnumBitRate : ErrorEnum ErrBitRate where
  ok := .ok
  enumerators := [(.ok, "OK"), (.invalid, "INVALID")]
  complete error := by cases error <;> decide
  distinct := by decide

instance instErrorEnumSendFrame : ErrorEnum ErrSendFrame where
  ok := .ok
  enumerators := [(.ok, "OK"), (.null, "NULL"), (.friendNotFound, "FRIEND_NOT_FOUND"),
    (.friendNotInCall, "FRIEND_NOT_IN_CALL"), (.notRequested, "NOT_REQUESTED"),
    (.invalid, "INVALID")]
  complete error := by cases error <;> decide
  distinct := by decide

/-- What native code looks for in a class: the constants of its nested `enum` `Code`, and a
    constructor that takes one of them. -/
structure ExceptionClass where
  code : Option (List String)
  takesCode : Bool
  deriving DecidableEq, Repr

/-- The name of a class. -/
def exceptionName (module method : String) : String :=
  "im/tox/tox4j/" ++ module ++ "/exceptions/Tox" ++ method ++ "Exception"

/-- A class of the packages `im.tox.tox4j.core.exceptions` and `im.tox.tox4j.av.exceptions`, which
    all have a `Code`. -/
def exceptionClass (module method : String) (constants : List String) :
    String × ExceptionClass :=
  (exceptionName module method, { code := some constants, takesCode := true })

/-- The classes that there are. -/
def exceptionClasses : List (String × ExceptionClass) := [
  exceptionClass "core" "Bootstrap" ["NULL", "BAD_ADDRESS", "BAD_PORT"],
  exceptionClass "core" "FileControl" ["FRIEND_NOT_FOUND", "FRIEND_NOT_CONNECTED", "NOT_FOUND",
    "NOT_PAUSED", "DENIED", "ALREADY_PAUSED"],
  exceptionClass "core" "FileSendChunk" ["NULL", "FRIEND_NOT_FOUND", "FRIEND_NOT_CONNECTED",
    "NOT_FOUND"],
  exceptionClass "core" "FileSend" ["NULL", "FRIEND_NOT_FOUND", "FRIEND_NOT_CONNECTED",
    "NAME_EMPTY", "NAME_TOO_LONG", "TOO_MANY"],
  exceptionClass "core" "FriendAdd" ["NULL", "TOO_LONG", "NO_MESSAGE", "OWN_KEY", "ALREADY_SENT",
    "BAD_CHECKSUM", "SET_NEW_NOSPAM", "MALLOC"],
  exceptionClass "core" "FriendByPublicKey" ["NULL", "NOT_FOUND"],
  exceptionClass "core" "FriendDelete" ["FRIEND_NOT_FOUND"],
  exceptionClass "core" "FriendGetPublicKey" ["FRIEND_NOT_FOUND"],
  exceptionClass "core" "GetPort" ["NOT_BOUND"],
  exceptionClass "core" "Load" ["NULL", "ENCRYPTED", "BAD_FORMAT"],
  exceptionClass "core" "New" ["NULL", "MALLOC", "PORT_ALLOC", "PROXY_BAD_HOST",
    "PROXY_BAD_PORT", "PROXY_NOT_FOUND", "LOAD_ENCRYPTED", "LOAD_BAD_FORMAT"],
  exceptionClass "core" "SendCustomPacket" ["NULL", "FRIEND_NOT_FOUND", "FRIEND_NOT_CONNECTED",
    "INVALID", "EMPTY", "TOO_LONG", "SENDQ"],
  exceptionClass "core" "SendMessage" ["NULL", "FRIEND_NOT_FOUND", "FRIEND_NOT_CONNECTED",
    "SENDQ", "TOO_LONG", "EMPTY"],
  exceptionClass "core" "SetInfo" ["NULL", "TOO_LONG"],
  exceptionClass "core" "SetTyping" ["FRIEND_NOT_FOUND"],
  exceptionClass "av" "Answer" ["MALLOC", "FRIEND_NOT_FOUND", "FRIEND_NOT_CALLING",
    "INVALID_BIT_RATE"],
  exceptionClass "av" "AvNew" ["MALLOC", "MULTIPLE", "CODECS"],
  exceptionClass "av" "BitRate" ["INVALID"],
  exceptionClass "av" "CallControl" ["FRIEND_NOT_FOUND", "FRIEND_NOT_IN_CALL", "NOT_PAUSED",
    "DENIED", "ALREADY_PAUSED"],
  exceptionClass "av" "Call" ["MALLOC", "FRIEND_NOT_FOUND", "FRIEND_NOT_CONNECTED",
    "FRIEND_ALREADY_IN_CALL", "INVALID_BIT_RATE"],
  exceptionClass "av" "SendFrame" ["NULL", "FRIEND_NOT_FOUND", "FRIEND_NOT_IN_CALL",
    "NOT_REQUESTED", "INVALID", "BAD_LENGTH"]]

/-- The exception that is pending when a native method returns. -/
inductive Thrown where
  /-- One of `exceptionClasses`, with one of its codes. -/
  | tox (className code : String)
  /-- Something native code has looked for is not there. -/
  | missing (className message : String)
  | other (exception : Throwable)
  deriving DecidableEq, Repr

/-- `throw_tox_exception`. -/
def throwToxException (module method code : String) : NativeRun Thrown :=
  let className := exceptionName module method
  match exceptionClasses.lookup className with
  | none => .ok (.missing "java/lang/NoClassDefFoundError" (fullMessage 0 className))
  | some exClass =>
    let enumName := className ++ "$Code"
    match exClass.code with
    | none => .ok (.missing "java/lang/NoClassDefFoundError" (fullMessage 0 enumName))
    | some constants =>
      -- every `enum` has a `valueOf`
      if !exClass.takesCode then
        .ok (.missing "java/lang/NoSuchMethodException"
          (fullMessage 0 ("<init>" ++ "(L" ++ enumName ++ ";)V")))
      else if constants.contains code then .ok (.tox className code)
      -- `valueOf` has thrown, and there is no object
      else .error (.state "enumCode")

/-- The names that a native method passes to `with_error_handling`, and the errors for which its
    switch has a `failure_case`. -/
structure ErrorFunc (Error : Type) where
  module : String
  method : String
  failureCases : List Error

section

variable {Error : Type} [DecidableEq Error] [ErrorEnum Error]

/-- The switch, which starts with the `success_case`. -/
def ErrorFunc.handle (self : ErrorFunc Error) (error : Error) : ErrorHandling :=
  if error = ErrorEnum.ok then .success
  else if error ∈ self.failureCases then .failure (ErrorEnum.name error)
  else .unhandled

/-- `with_error_handling`, after the function of the adapter has returned. -/
def withErrorHandling {Value α : Type} (errorFunc : ErrorFunc Error) (successFunc : Value → α)
    (outcome : Outcome Error Value) : NativeRun (Except Thrown α) :=
  match outcome.error with
  -- a variable without a value is read
  | none => .error (.state "error")
  | some error =>
    match errorFunc.handle error with
    | .success => .ok (.ok (successFunc outcome.result))
    | .failure code => .error <$> throwToxException errorFunc.module errorFunc.method code
    | .unhandled => .ok (.error (.other
        (throwIllegalStateException (ErrorEnum.number error) "Unknown error code")))

end

/-- What a native method throws before the function of the adapter is called. -/
inductive Early where
  /-- By `with_instance`. -/
  | instance (exception : Throwable)
  /-- By the method itself, with a code of its exception. -/
  | code (code : String)
  deriving DecidableEq, Repr

/-- A call of a native method that goes through `with_instance` and `with_error_handling`. -/
structure NativeCall where
  {Error Value Result State : Type}
  [decEq : DecidableEq Error]
  [enum : ErrorEnum Error]
  errorFunc : ErrorFunc Error
  successFunc : Value → Result
  /-- How the call of the adapter ends, and the state that it leaves. -/
  adapter : NativeRun (Except Early (Outcome Error Value × State))

attribute [instance] NativeCall.decEq NativeCall.enum

namespace NativeCall

/-- The call: the result or the exception that is pending, and the state that the adapter leaves
    if it was called. -/
def run (self : NativeCall) : NativeRun (Except Thrown self.Result × Option self.State) := do
  match ← self.adapter with
  | .error (.instance exception) => return (.error (.other exception), none)
  | .error (.code code) =>
    return (.error (← throwToxException self.errorFunc.module self.errorFunc.method code), none)
  | .ok (outcome, state) =>
    return (← withErrorHandling self.errorFunc self.successFunc outcome, some state)

/-- The class of the exception for the errors of the adapter. -/
def className (self : NativeCall) : String :=
  exceptionName self.errorFunc.module self.errorFunc.method

/-- What the caller is to get for an error: the result, or the exception with the name of the
    error, which no other error has. -/
def Received (self : NativeCall) (error : self.Error) (result : self.Value)
    (received : Except Thrown self.Result) : Prop :=
  error = ErrorEnum.ok ∧ received = .ok (self.successFunc result) ∨
    error ≠ ErrorEnum.ok ∧ received = .error (.tox self.className (ErrorEnum.name error)) ∧
      ∀ other : self.Error, ErrorEnum.name other = ErrorEnum.name error → other = error

/-- The caller gets what the adapter has written, or what was thrown before it was called. What
    stops the program before the adapter returns is all that stops it. -/
def Delivers (self : NativeCall) : Prop :=
  match self.adapter with
  | .error fault => self.run = .error fault
  | .ok (.error (.instance exception)) => self.run = .ok (.error (.other exception), none)
  | .ok (.error (.code code)) => self.run = .ok (.error (.tox self.className code), none)
  | .ok (.ok (outcome, state)) =>
    ∃ error received, outcome.error = some error ∧ self.run = .ok (received, some state) ∧
      self.Received error outcome.result received

end NativeCall

end Tox4j.Jni
