import Tox4j.Adapter.Proofs.ErrorCodes
import Tox4j.Jni.NativeMethods
import Tox4j.Jni.Proofs.Arguments

/-!
# Which errors come to the caller

Every function of the adapter that returns has written an error, every switch has a case for every
error, and every name is that of a constant, except that `ToxFileSendChunkException` has none for
TOO_LARGE.
-/

namespace Tox4j.Jni

open Tox4j.Misc Tox4j.Adapter Tox4j.Instances

/-! ## Names -/

namespace ErrorEnum

variable {Error : Type} [DecidableEq Error] [ErrorEnum Error]

theorem mem_enumerators (error : Error) : (error, name error) ∈ enumerators := by
  cases hlookup : List.lookup error enumerators with
  | none =>
    obtain ⟨entry, hentry, rfl⟩ := List.mem_map.mp (complete error)
    have hne := List.lookup_eq_none_iff.mp hlookup entry hentry
    simp at hne
  | some text =>
    obtain ⟨before, after, hsplit, -⟩ := List.lookup_eq_some_iff.mp hlookup
    rw [name, hlookup, hsplit]
    simp

theorem name_injective {a b : Error} (h : name a = name b) : a = b := by
  have hpairs := List.inj_on_of_nodup_map distinct (mem_enumerators a) (mem_enumerators b) h
  exact congrArg Prod.fst hpairs

end ErrorEnum

/-- The constants of the class of a method. -/
def codes (module method : String) : List String :=
  match exceptionClasses.lookup (exceptionName module method) with
  | some { code := some constants, takesCode := true } => constants
  | _ => []

theorem throwToxException_of_mem {module method code : String} (h : code ∈ codes module method) :
    throwToxException module method code = .ok (.tox (exceptionName module method) code) := by
  unfold codes at h
  unfold throwToxException
  cases hlookup : exceptionClasses.lookup (exceptionName module method) with
  | none => simp [hlookup] at h
  | some exClass =>
    obtain ⟨code?, takesCode⟩ := exClass
    cases code? with
    | none => simp [hlookup] at h
    | some constants =>
      cases takesCode with
      | false => simp [hlookup] at h
      | true =>
        simp only [hlookup] at h
        simp [hlookup, h]

/-- `valueOf` finds no such constant. -/
example : throwToxException "core" "FileSendChunk" "TOO_LARGE" = .error (.state "enumCode") := by
  rfl

/-! ## Switches -/

section

variable {Error : Type} [DecidableEq Error] [ErrorEnum Error]

/-- An exception for the error can be thrown, unless it is OK. -/
def ErrorFunc.Throws (self : ErrorFunc Error) (error : Error) : Prop :=
  error = ErrorEnum.ok ∨
    error ∈ self.failureCases ∧ ErrorEnum.name error ∈ codes self.module self.method

instance (self : ErrorFunc Error) (error : Error) : Decidable (self.Throws error) :=
  inferInstanceAs (Decidable (_ ∨ _))

/-- For every error an exception can be thrown. -/
def ErrorFunc.Complete (self : ErrorFunc Error) : Prop :=
  ∀ entry ∈ (ErrorEnum.enumerators : List (Error × String)), self.Throws entry.1

instance (self : ErrorFunc Error) : Decidable self.Complete :=
  inferInstanceAs (Decidable (∀ entry ∈ (ErrorEnum.enumerators : List (Error × String)), _))

theorem ErrorFunc.Complete.throws {self : ErrorFunc Error} (h : self.Complete) (error : Error) :
    self.Throws error := h _ (ErrorEnum.mem_enumerators error)

end

namespace NativeCall

variable {call : NativeCall}

/-- A call that throws codes of its class, and whose adapter writes errors for which an exception
    can be thrown. -/
theorem delivers_of_throws
    (hcode : ∀ code, call.adapter = .ok (.error (.code code)) →
      code ∈ codes call.errorFunc.module call.errorFunc.method)
    (hthrows : ∀ outcome state, call.adapter = .ok (.ok (outcome, state)) →
      ∃ error, outcome.error = some error ∧ call.errorFunc.Throws error) :
    call.Delivers := by
  unfold Delivers
  split
  · next fault hadapter =>
    rw [run, hadapter]
    rfl
  · next exception hadapter =>
    rw [run, hadapter]
    rfl
  · next code hadapter =>
    rw [run, hadapter]
    show (throwToxException _ _ _ >>= _) = _
    rw [throwToxException_of_mem (hcode code hadapter)]
    rfl
  · next outcome state hadapter =>
    obtain ⟨error, herror, hthrow⟩ := hthrows outcome state hadapter
    rw [run, hadapter]
    by_cases hok : error = ErrorEnum.ok
    · refine ⟨error, .ok (call.successFunc outcome.result), herror, ?_, .inl ⟨hok, rfl⟩⟩
      show (withErrorHandling call.errorFunc call.successFunc outcome >>= _) = _
      simp only [withErrorHandling, herror, ErrorFunc.handle, if_pos hok]
      rfl
    · obtain ⟨hcase, hname⟩ := hthrow.resolve_left hok
      refine ⟨error, .error (.tox call.className (ErrorEnum.name error)), herror, ?_,
        .inr ⟨hok, rfl, fun other hother => ErrorEnum.name_injective hother⟩⟩
      show (withErrorHandling call.errorFunc call.successFunc outcome >>= _) = _
      simp only [withErrorHandling, herror, ErrorFunc.handle, if_neg hok, if_pos hcase,
        throwToxException_of_mem hname]
      rfl

/-- A call with a complete switch. -/
theorem delivers_of_complete (hcomplete : call.errorFunc.Complete)
    (hcode : ∀ code, call.adapter = .ok (.error (.code code)) →
      code ∈ codes call.errorFunc.module call.errorFunc.method)
    (hwritten : ∀ outcome state, call.adapter = .ok (.ok (outcome, state)) →
      ∃ error, outcome.error = some error) :
    call.Delivers := by
  apply delivers_of_throws hcode
  intro outcome state hadapter
  obtain ⟨error, herror⟩ := hwritten outcome state hadapter
  exact ⟨error, herror, hcomplete.throws error⟩

/-- A call whose class has no constant for an error with a case. -/
theorem not_delivers {outcome : Outcome call.Error call.Value} {state : call.State}
    {error : call.Error} (hadapter : call.adapter = .ok (.ok (outcome, state)))
    (herror : outcome.error = some error)
    (hstops : call.errorFunc.handle error = .failure (ErrorEnum.name error))
    (hthrow : throwToxException call.errorFunc.module call.errorFunc.method (ErrorEnum.name error) =
      .error (.state "enumCode")) : ¬ call.Delivers := by
  have hrun : call.run = .error (.state "enumCode") := by
    rw [run, hadapter]
    show (withErrorHandling call.errorFunc call.successFunc outcome >>= _) = _
    simp only [withErrorHandling, herror, hstops, hthrow]
    rfl
  unfold Delivers
  rw [hadapter]
  rintro ⟨_, _, -, hdelivered, -⟩
  rw [hrun] at hdelivered
  cases hdelivered

end NativeCall

/-! ## Calls of the adapter -/

section

variable {Tox Events Mutex Error Value State α : Type} {manager : InstanceManager Tox Events Mutex}
  {n : Int32}

/-- A function that runs on an instance has returned what the method gets. -/
theorem adapterCall_eq_ok {returned : α → Outcome Error Value × State}
    {x : NativeRun (Except Throwable α)} {r : Outcome Error Value × State}
    (h : adapterCall returned x = .ok (.ok r)) : ∃ a, x = .ok (.ok a) ∧ returned a = r := by
  cases x with
  | error fault => cases h
  | ok result =>
    cases result with
    | error exception => cases h
    | ok a =>
      cases h
      exact ⟨a, rfl, rfl⟩

theorem adapterCall_ne_code {returned : α → Outcome Error Value × State}
    {x : NativeRun (Except Throwable α)} {code : String} :
    adapterCall returned x ≠ .ok (.error (.code code)) := by
  intro h
  cases x with
  | error fault => cases h
  | ok result =>
    cases result with
    | error exception => cases h
    | ok a => cases h

theorem withInstance_eq_ok {func : Tox → NativeRun α} {a : α}
    (h : withInstance manager n func = .ok (.ok a)) :
    ∃ tox, Reaches manager n tox ∧ func tox = .ok a := by
  unfold withInstance at h
  split at h
  · cases h
  · next tox manager' hran =>
    cases hfunc : func tox with
    | error fault =>
      rw [hfunc] at h
      cases h
    | ok b =>
      rw [hfunc] at h
      cases h
      exact ⟨tox, ⟨manager', hran⟩, hfunc⟩
  · cases h
  · cases h

theorem Reaches.withInstance {func : Tox → NativeRun α} {tox : Tox} (h : Reaches manager n tox) :
    withInstance manager n func = .ok <$> func tox := by
  obtain ⟨manager', hran⟩ := h
  simp only [Jni.withInstance, hran]

theorem adapterRun_eq_ok {x : Checked α} {a : α} : adapterRun x = .ok a ↔ x = .ok a := by
  cases x with
  | error condition => exact iff_of_false (by rintro ⟨⟩) (by rintro ⟨⟩)
  | ok b => simp [adapterRun, Except.mapError]

end

/-! ## Errors that are written -/

section

variable {Tox Events Mutex Error Value State : Type} {manager : InstanceManager Tox Events Mutex}
  {n : Int32}

/-- Whatever the call of the adapter returns, an error was written. -/
def Writes (x : NativeRun (Except Early (Outcome Error Value × State))) : Prop :=
  ∀ outcome state, x = .ok (.ok (outcome, state)) → ∃ error, outcome.error = some error

theorem writes_adapterCall {α : Type} {returned : α → Outcome Error Value × State}
    {x : NativeRun (Except Throwable α)}
    (h : ∀ a, x = .ok (.ok a) → ∃ error, (returned a).1.error = some error) :
    Writes (adapterCall returned x) := by
  intro outcome state hx
  obtain ⟨a, ha, hreturned⟩ := adapterCall_eq_ok hx
  obtain ⟨error, herror⟩ := h a ha
  rw [hreturned] at herror
  exact ⟨error, herror⟩

theorem writes_onInstance {func : Tox → Checked (Outcome Error Value)}
    (h : ∀ tox outcome, func tox = .ok outcome → ∃ error, outcome.error = some error) :
    Writes (onInstance manager n func) := by
  apply writes_adapterCall
  intro outcome hx
  obtain ⟨tox, -, hfunc⟩ := withInstance_eq_ok hx
  exact h tox outcome (adapterRun_eq_ok.mp hfunc)

theorem writes_onInstanceState {func : Tox → Checked (Outcome Error Value × State)}
    (h : ∀ tox r, func tox = .ok r → ∃ error, r.1.error = some error) :
    Writes (onInstanceState manager n func) := by
  apply writes_adapterCall
  intro r hx
  obtain ⟨tox, -, hfunc⟩ := withInstance_eq_ok hx
  exact h tox r (adapterRun_eq_ok.mp hfunc)

theorem written_of_reports {α : Type} {ok : Error} {x : Checked (Outcome Error α)}
    {succeeded : α → Prop} (h : Reports ok x succeeded) {outcome : Outcome Error α}
    (hx : x = .ok outcome) : ∃ error, outcome.error = some error := by
  obtain ⟨error, herror, -⟩ := h outcome hx
  exact ⟨error, herror⟩

/-- An outcome that is made from the error of a model with one value. -/
theorem written_of_withResult {β : Type} [DecidableEq Error] {ok : Error}
    {x : Checked (Outcome Error Bool × β)} {y : Checked (Error × β)}
    (h : x = withResult ok <$> y) {r : Outcome Error Bool × β} (hx : x = .ok r) :
    ∃ error, r.1.error = some error := by
  rw [h, Checked.map_eq_ok] at hx
  obtain ⟨s, -, rfl⟩ := hx
  exact ⟨s.1, rfl⟩

end

/-- Whatever the legacy core returns, the error is written. -/
theorem newToxFriendByPublicKey_written (toxGetFriendNumber : List UInt8 → Int32)
    (publicKey : Option (List UInt8)) :
    ∃ error, (newToxFriendByPublicKey toxGetFriendNumber publicKey).error = some error := by
  cases publicKey with
  | none => exact ⟨.null, rfl⟩
  | some key =>
    by_cases hfound : toxGetFriendNumber key = -1
    · exact ⟨.notFound, by simp [newToxFriendByPublicKey, hfound, Outcome.report]⟩
    · exact ⟨.ok, by simp [newToxFriendByPublicKey, hfound, Outcome.report]⟩

/-! ## Methods with a complete switch -/

/-- The assertions of a native method hold if it returns. -/
theorem of_assertArgument {α : Type} {condition : Bool} {text : String} {x : NativeRun α} {a : α}
    (h : (assertArgument condition text >>= fun _ => x) = .ok a) : x = .ok a := by
  cases condition with
  | false => cases h
  | true => exact h

section

variable {Tox Events Mutex Error Value Result State : Type} [DecidableEq Error] [ErrorEnum Error]
  {errorFunc : ErrorFunc Error} {successFunc : Value → Result}
  {manager : InstanceManager Tox Events Mutex} {n : Int32}

theorem delivers_adapterCall {α : Type} {returned : α → Outcome Error Value × State}
    {x : NativeRun (Except Throwable α)} (hcomplete : errorFunc.Complete)
    (h : ∀ a, x = .ok (.ok a) → ∃ error, (returned a).1.error = some error) :
    NativeCall.Delivers { errorFunc, successFunc, adapter := adapterCall returned x } := by
  apply NativeCall.delivers_of_complete hcomplete
  · intro code hcode
    exact absurd hcode adapterCall_ne_code
  · exact writes_adapterCall h

theorem delivers_onInstance {func : Tox → Checked (Outcome Error Value)}
    (hcomplete : errorFunc.Complete)
    (h : ∀ tox outcome, func tox = .ok outcome → ∃ error, outcome.error = some error) :
    NativeCall.Delivers { errorFunc, successFunc, adapter := onInstance manager n func } := by
  apply NativeCall.delivers_of_complete hcomplete
  · intro code hcode
    exact absurd hcode adapterCall_ne_code
  · exact writes_onInstance h

theorem delivers_onInstanceState {func : Tox → Checked (Outcome Error Value × State)}
    (hcomplete : errorFunc.Complete)
    (h : ∀ tox r, func tox = .ok r → ∃ error, r.1.error = some error) :
    NativeCall.Delivers { errorFunc, successFunc, adapter := onInstanceState manager n func } := by
  apply NativeCall.delivers_of_complete hcomplete
  · intro code hcode
    exact absurd hcode adapterCall_ne_code
  · exact writes_onInstanceState h

end

theorem handleSetInfoError_complete : handleSetInfoError.Complete := by decide

theorem handleToxFriendAddResult_complete : handleToxFriendAddResult.Complete := by decide

theorem handleSendMessageError_complete : handleSendMessageError.Complete := by decide

theorem handleSendCustomPacketError_complete : handleSendCustomPacketError.Complete := by decide

theorem sendFrameError_complete : sendFrameError.Complete := by decide

namespace ToxCoreImpl

section

variable {Tox Events Mutex : Type} (core : LegacyFunctions Tox)
  (manager : InstanceManager Tox Events Mutex) (n : Int32)

theorem delivers_bootstrapLikeCall (function : Tox → List UInt8 → UInt16 → List UInt8 → Int32)
    (address : Option (List UInt8)) (port : Int32) (publicKey : Option (JavaArray Int8)) :
    (bootstrapLikeCall manager n function address port publicKey).Delivers := by
  refine delivers_adapterCall (by decide) ?_
  intro outcome h
  obtain ⟨tox, -, hfunc⟩ :=
    withInstance_eq_ok (of_assertArgument (of_assertArgument (of_assertArgument h)))
  cases hfunc
  exact written_of_reports (bootstrapLike_reports _ _ _ _) rfl

theorem delivers_toxGetPort : (toxGetPort manager n).Delivers := by
  refine delivers_onInstance (by decide) ?_
  intro tox outcome h
  cases h
  exact ⟨.notBound, rfl⟩

theorem delivers_toxSelfSetName (name : Option (JavaArray Int8)) :
    (toxSelfSetName core manager n name).Delivers := by
  refine delivers_onInstance handleSetInfoError_complete ?_
  intro tox outcome h
  exact written_of_reports (setInfo_reports _ _ _) h

theorem delivers_toxSelfSetStatusMessage (statusMessage : Option (JavaArray Int8)) :
    (toxSelfSetStatusMessage core manager n statusMessage).Delivers := by
  refine delivers_onInstance handleSetInfoError_complete ?_
  intro tox outcome h
  exact written_of_reports (setInfo_reports _ _ _) h

theorem delivers_toxFriendAdd (address message : Option (JavaArray Int8)) :
    (toxFriendAdd core manager n address message).Delivers := by
  refine delivers_adapterCall handleToxFriendAddResult_complete ?_
  intro r _
  exact ⟨r.1.2, rfl⟩

theorem delivers_toxFriendAddNorequest (publicKey : Option (JavaArray Int8)) :
    (toxFriendAddNorequest core manager n publicKey).Delivers := by
  refine delivers_adapterCall handleToxFriendAddResult_complete ?_
  intro r _
  exact ⟨r.1.2, rfl⟩

theorem delivers_toxFriendDelete (friendNumber : Int32) :
    (toxFriendDelete core manager n friendNumber).Delivers := by
  refine delivers_onInstanceState (by decide) ?_
  intro tox r h
  obtain ⟨deleted, -, rfl⟩ := Checked.map_eq_ok.mp h
  exact ⟨deleted.1.2, rfl⟩

theorem delivers_toxFriendByPublicKey (publicKey : Option (JavaArray Int8)) :
    (toxFriendByPublicKey core manager n publicKey).Delivers := by
  refine delivers_adapterCall (by decide) ?_
  intro outcome h
  obtain ⟨tox, -, hfunc⟩ := withInstance_eq_ok (of_assertArgument h)
  cases hfunc
  exact newToxFriendByPublicKey_written _ _

theorem delivers_toxFriendGetPublicKey (friendNumber : Int32) :
    (toxFriendGetPublicKey core manager n friendNumber).Delivers := by
  refine delivers_onInstance (by decide) ?_
  intro tox outcome h
  obtain ⟨o, ho, rfl⟩ := Checked.map_eq_ok.mp h
  exact written_of_reports (newToxFriendGetPublicKey_reports _ _ _) ho

theorem delivers_toxSelfSetTyping (friendNumber : Int32) (isTyping : Bool) :
    (toxSelfSetTyping core manager n friendNumber isTyping).Delivers := by
  refine delivers_onInstance (by decide) ?_
  intro tox outcome h
  exact written_of_reports (newToxSelfSetTyping_reports _ _ _) h

theorem delivers_toxSendMessage (friendNumber : Int32) (message : Option (JavaArray Int8)) :
    (toxSendMessage core manager n friendNumber message).Delivers := by
  refine delivers_onInstance handleSendMessageError_complete ?_
  intro tox outcome h
  exact written_of_reports (newToxSendSomething_reports _ _ _ _) h

theorem delivers_toxSendAction (friendNumber : Int32) (action : Option (JavaArray Int8)) :
    (toxSendAction core manager n friendNumber action).Delivers := by
  refine delivers_onInstance handleSendMessageError_complete ?_
  intro tox outcome h
  exact written_of_reports (newToxSendSomething_reports _ _ _ _) h

theorem delivers_toxFileControl (friendNumber fileNumber : Int32) (control : FileControl) :
    (toxFileControl core manager n friendNumber fileNumber control).Delivers := by
  refine delivers_onInstanceState (by decide) ?_
  intro tox r h
  exact written_of_withResult (Reporting.newToxFileControl_eq _ _ _ _ _) h

theorem delivers_toxFileSend (friendNumber : Int32) (kind : FileKind) (fileSize : Int64)
    (filename : Option (JavaArray Int8)) (cause : PauseReason) :
    (toxFileSend core manager n friendNumber kind fileSize filename cause).Delivers := by
  refine delivers_onInstanceState (by decide) ?_
  intro tox r h
  obtain ⟨sent, -, rfl⟩ := Checked.map_eq_ok.mp h
  exact ⟨sent.1, rfl⟩

theorem delivers_toxSendLossyPacket (friendNumber : Int32) (packet : Option (JavaArray Int8)) :
    (toxSendLossyPacket core manager n friendNumber packet).Delivers := by
  refine delivers_onInstance handleSendCustomPacketError_complete ?_
  intro tox outcome h
  exact written_of_reports (newToxSendCustomPacket_reports _ _ _ _) h

theorem delivers_toxSendLosslessPacket (friendNumber : Int32)
    (packet : Option (JavaArray Int8)) :
    (toxSendLosslessPacket core manager n friendNumber packet).Delivers := by
  refine delivers_onInstance handleSendCustomPacketError_complete ?_
  intro tox outcome h
  exact written_of_reports (newToxSendCustomPacket_reports _ _ _ _) h

end

end ToxCoreImpl

namespace ToxAvImpl

section

variable {ToxAv Events Mutex : Type} (lg : AvFunctions ToxAv)
  (manager : InstanceManager ToxAv Events Mutex) (n : Int32)

theorem delivers_toxAvCall (friendNumber audioBitRate videoBitRate : Int32) :
    (toxAvCall lg manager n friendNumber audioBitRate videoBitRate).Delivers := by
  refine delivers_onInstanceState (by decide) ?_
  intro av r h
  exact written_of_withResult (Reporting.newToxavCall_eq _ _ _ _ _ _ _) h

theorem delivers_toxAvAnswer (friendNumber audioBitRate videoBitRate : Int32) :
    (toxAvAnswer lg manager n friendNumber audioBitRate videoBitRate).Delivers := by
  refine delivers_onInstanceState (by decide) ?_
  intro av r h
  exact written_of_withResult (Reporting.newToxavAnswer_eq _ _ _ _ _ _) h

theorem delivers_toxAvCallControl (friendNumber control : Int32) :
    (toxAvCallControl lg manager n friendNumber control).Delivers := by
  refine delivers_onInstance (by decide) ?_
  intro av outcome h
  cases h

theorem delivers_toxAvSetBitRate (friendNumber bitRate : Int32) :
    (toxAvSetBitRate lg manager n friendNumber bitRate).Delivers := by
  refine delivers_onInstance (by decide) ?_
  intro av outcome h
  cases h

/-- BAD_LENGTH is a constant of the class, although it is no error of the adapter. -/
theorem delivers_badLength {Value Result State : Type} {successFunc : Value → Result} :
    NativeCall.Delivers
      { errorFunc := sendFrameError
        successFunc := successFunc
        adapter := (.ok (.error (.code "BAD_LENGTH")) :
          NativeRun (Except Early (Outcome ErrSendFrame Value × State))) } := by
  apply NativeCall.delivers_of_throws
  · intro code hcode
    cases hcode
    show "BAD_LENGTH" ∈ codes "av" "SendFrame"
    decide
  · intro outcome state houtcome
    cases houtcome

theorem delivers_toxAvSendVideoFrame (friendNumber width height : Int32)
    (y u v a : Option (JavaArray Int8)) :
    (toxAvSendVideoFrame lg manager n friendNumber width height y u v a).Delivers := by
  unfold toxAvSendVideoFrame
  cases Jni.toxAvSendVideoFrame friendNumber width height y u v a with
  | error exception =>
    cases exception with
    | badLength => exact delivers_badLength
  | ok args =>
    refine delivers_onInstanceState sendFrameError_complete ?_
    intro av r h
    cases h

theorem delivers_toxAvSendAudioFrame (friendNumber : Int32) (pcm : Option (JavaArray Int16))
    (sampleCount channels samplingRate : Int32) :
    (toxAvSendAudioFrame lg manager n friendNumber pcm sampleCount channels
      samplingRate).Delivers := by
  unfold toxAvSendAudioFrame
  cases Jni.toxAvSendAudioFrame friendNumber pcm sampleCount channels samplingRate with
  | error condition => rfl
  | ok checked =>
    cases checked with
    | error exception =>
      cases exception with
      | badLength => exact delivers_badLength
    | ok args =>
      refine delivers_onInstanceState sendFrameError_complete ?_
      intro av r h
      exact written_of_withResult (Reporting.newToxavSendAudioFrame_eq _ _ _ _) h

end

end ToxAvImpl

/-! ## Chunks -/

/-- Exceptions can be thrown for all errors but one. -/
theorem fileSendChunkError_throws {error : ErrFileSendChunk} (h : error ≠ .tooLarge) :
    fileSendChunkError.Throws error := by
  cases error with
  | ok => decide
  | null => decide
  | friendNotFound => decide
  | friendNotConnected => decide
  | notFound => decide
  | tooLarge => exact absurd rfl h

theorem length_buffer (data : Option (JavaArray Int8)) :
    (ByteArray.mk data).buffer.length = UInt64.ofNat (JavaArray.length data) := by
  cases data with
  | none => rfl
  | some bytes =>
    show UInt64.ofNat (bytes.elements.map Int8.toUInt8).length = _
    rw [List.length_map]
    rfl

section

variable {Tox Events Mutex : Type} (core : LegacyFunctions Tox)
  (manager : InstanceManager Tox Events Mutex) (n : Int32)

/-- The adapter refuses a chunk because of its size. -/
theorem tooLarge_iff {lg : Legacy} {tox : NewTox} {f k : UInt32} {data : Buffer} :
    (∃ outcome state, Reporting.newToxFileSendChunk lg tox f k data = .ok (outcome, state) ∧
        outcome.error = some .tooLarge) ↔
      data.length ≠ 0 ∧ lg.dataSize f < data.length := by
  rw [Reporting.newToxFileSendChunk_eq]
  constructor
  · rintro ⟨outcome, state, hreport, herror⟩
    obtain ⟨⟨error, tox', actions⟩, hsend, hr⟩ := Checked.map_eq_ok.mp hreport
    cases hr
    cases herror
    have hlength : data.length ≠ 0 := by
      intro hempty
      rw [newToxFileSendChunk, if_pos hempty] at hsend
      cases hsend
    exact ⟨hlength, (newToxFileSendChunk_tooLarge hlength).mp ⟨tox', actions, hsend⟩⟩
  · rintro ⟨hlength, hlarge⟩
    obtain ⟨tox', actions, hsend⟩ := (newToxFileSendChunk_tooLarge hlength).mpr hlarge
    rw [hsend]
    exact ⟨_, _, rfl, rfl⟩

theorem delivers_toxFileSendChunk_iff (friendNumber fileNumber : Int32)
    (chunk : Option (JavaArray Int8)) :
    (ToxCoreImpl.toxFileSendChunk core manager n friendNumber fileNumber chunk).Delivers ↔
      ¬ ∃ tox, Reaches manager n tox ∧ JavaArray.length chunk ≠ 0 ∧
        (core.legacy tox).dataSize friendNumber.toUInt32 <
          UInt64.ofNat (JavaArray.length chunk) := by
  constructor
  · rintro hdelivers ⟨tox, hreaches, hlength, hlarge⟩
    rw [← length_buffer_ne_zero_iff] at hlength
    rw [← length_buffer] at hlarge
    obtain ⟨outcome, state, hsend, herror⟩ := tooLarge_iff.mpr ⟨hlength, hlarge⟩
    have hadapter : (ToxCoreImpl.toxFileSendChunk core manager n friendNumber fileNumber
        chunk).adapter = .ok (.ok (outcome, state)) := by
      show adapterCall id (withInstance manager n fun tox => adapterRun _) = _
      rw [hreaches.withInstance, hsend]
      rfl
    exact NativeCall.not_delivers hadapter herror rfl rfl hdelivers
  · intro hfits
    apply NativeCall.delivers_of_throws
    · intro code hcode
      exact absurd hcode adapterCall_ne_code
    · intro outcome state hadapter
      obtain ⟨r, hrun, rfl⟩ := adapterCall_eq_ok hadapter
      obtain ⟨tox, hreaches, hfunc⟩ := withInstance_eq_ok hrun
      have hsend := adapterRun_eq_ok.mp hfunc
      obtain ⟨error, herror⟩ :=
        written_of_withResult (Reporting.newToxFileSendChunk_eq _ _ _ _ _) hsend
      refine ⟨error, herror, fileSendChunkError_throws ?_⟩
      rintro rfl
      obtain ⟨hlength, hlarge⟩ := tooLarge_iff.mp ⟨outcome, state, hsend, herror⟩
      rw [length_buffer_ne_zero_iff] at hlength
      rw [length_buffer] at hlarge
      exact hfits ⟨tox, hreaches, hlength, hlarge⟩

end

/-! ## All methods -/

section

variable {Tox ToxAv Events AvEvents Mutex : Type}

/-- Every native method that reports errors delivers what it has got, except for a chunk that is
    too large: the class of its exception has no such code. -/
theorem MethodCall.delivers_iff (library : NativeLibrary Tox ToxAv Events AvEvents Mutex)
    (instanceNumber : Int32) (call : MethodCall) :
    (call.call library instanceNumber).Delivers ↔ ¬ call.TooLarge library instanceNumber := by
  have hall (h : (call.call library instanceNumber).Delivers)
      (hfits : ¬ call.TooLarge library instanceNumber) :
      (call.call library instanceNumber).Delivers ↔ ¬ call.TooLarge library instanceNumber :=
    iff_of_true h hfits
  cases call with
  | toxBootstrap => exact hall (ToxCoreImpl.delivers_bootstrapLikeCall _ _ _ _ _ _) not_false
  | toxAddTcpRelay => exact hall (ToxCoreImpl.delivers_bootstrapLikeCall _ _ _ _ _ _) not_false
  | toxGetUdpPort => exact hall (ToxCoreImpl.delivers_toxGetPort _ _) not_false
  | toxGetTcpPort => exact hall (ToxCoreImpl.delivers_toxGetPort _ _) not_false
  | toxSelfSetName => exact hall (ToxCoreImpl.delivers_toxSelfSetName _ _ _ _) not_false
  | toxSelfSetStatusMessage =>
    exact hall (ToxCoreImpl.delivers_toxSelfSetStatusMessage _ _ _ _) not_false
  | toxFriendAdd => exact hall (ToxCoreImpl.delivers_toxFriendAdd _ _ _ _ _) not_false
  | toxFriendAddNorequest =>
    exact hall (ToxCoreImpl.delivers_toxFriendAddNorequest _ _ _ _) not_false
  | toxFriendDelete => exact hall (ToxCoreImpl.delivers_toxFriendDelete _ _ _ _) not_false
  | toxFriendByPublicKey =>
    exact hall (ToxCoreImpl.delivers_toxFriendByPublicKey _ _ _ _) not_false
  | toxFriendGetPublicKey =>
    exact hall (ToxCoreImpl.delivers_toxFriendGetPublicKey _ _ _ _) not_false
  | toxSelfSetTyping => exact hall (ToxCoreImpl.delivers_toxSelfSetTyping _ _ _ _ _) not_false
  | toxSendMessage => exact hall (ToxCoreImpl.delivers_toxSendMessage _ _ _ _ _) not_false
  | toxSendAction => exact hall (ToxCoreImpl.delivers_toxSendAction _ _ _ _ _) not_false
  | toxFileControl => exact hall (ToxCoreImpl.delivers_toxFileControl _ _ _ _ _ _) not_false
  | toxFileSend => exact hall (ToxCoreImpl.delivers_toxFileSend _ _ _ _ _ _ _ _) not_false
  | toxFileSendChunk => exact delivers_toxFileSendChunk_iff _ _ _ _ _ _
  | toxSendLossyPacket => exact hall (ToxCoreImpl.delivers_toxSendLossyPacket _ _ _ _ _) not_false
  | toxSendLosslessPacket =>
    exact hall (ToxCoreImpl.delivers_toxSendLosslessPacket _ _ _ _ _) not_false
  | toxAvCall => exact hall (ToxAvImpl.delivers_toxAvCall _ _ _ _ _ _) not_false
  | toxAvAnswer => exact hall (ToxAvImpl.delivers_toxAvAnswer _ _ _ _ _ _) not_false
  | toxAvCallControl => exact hall (ToxAvImpl.delivers_toxAvCallControl _ _ _ _ _) not_false
  | toxAvSetAudioBitRate => exact hall (ToxAvImpl.delivers_toxAvSetBitRate _ _ _ _ _) not_false
  | toxAvSetVideoBitRate => exact hall (ToxAvImpl.delivers_toxAvSetBitRate _ _ _ _ _) not_false
  | toxAvSendVideoFrame =>
    exact hall (ToxAvImpl.delivers_toxAvSendVideoFrame _ _ _ _ _ _ _ _ _ _) not_false
  | toxAvSendAudioFrame =>
    exact hall (ToxAvImpl.delivers_toxAvSendAudioFrame _ _ _ _ _ _ _ _) not_false

end

end Tox4j.Jni
