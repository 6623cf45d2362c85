import Tox4j.Adapter.Frames
import Tox4j.Adapter.Proofs.Reuse
import Tox4j.Misc.Since

/-!
# Sessions with their log

A log has everything that went out in a session, in order, each with the call it went out in. A
call that fails an assertion ends the session and is not in the log. Clients answer a request after
the iteration that raised it: every call has returned before the next one starts.
-/

namespace Tox4j.Adapter

open Tox4j.Misc

/-- A `new_Tox` and the log of what it did. -/
structure Logged where
  tox : NewTox := {}
  log : List (Call × Action) := []

/-- The state and the log after a call, with the answers of the legacy core. -/
def Logged.run (s : Logged) (l : Legacy × Call) : Checked Logged := do
  let (tox, actions) ← l.2.run l.1 s.tox
  return { tox, log := s.log ++ actions.map (Prod.mk l.2) }

def LoggedStep (s : Logged) (l : Legacy × Call) (s' : Logged) : Prop := s.run l = .ok s'

/-- A request for a chunk that is not empty. -/
def AsksChunk (friendNumber fileNumber : UInt32) (e : Call × Action) : Prop :=
  ∃ position length, length ≠ 0 ∧
    e.2 = .event (.fileRequestChunk friendNumber fileNumber position length)

/-- A call of `new_tox_file_send_chunk` that sent its data. -/
def SendsChunk (friendNumber fileNumber : UInt32) (e : Call × Action) : Prop :=
  ∃ data bytes, e = (.fileSendChunk friendNumber fileNumber data,
    .sendData friendNumber (FileTransfer.oldFileNumber fileNumber) bytes)

/-- The data asked for has been sent, or the friend has ended the transfer. -/
def ClosesRequest (friendNumber fileNumber : UInt32) (e : Call × Action) : Prop :=
  SendsChunk friendNumber fileNumber e ∨ e.1.Ends friendNumber fileNumber

/-- A call of the A/V API, a callback of the legacy library, or the end of an iteration. -/
inductive AvApiCall where
  /-- `new_toxav_call`, and what the legacy `toxav_call` returns. -/
  | call (friendNumber audioBitRate videoBitRate : UInt32) (result callIndex : Int32)
  /-- `new_toxav_answer`, and what the legacy `toxav_answer` returns. -/
  | answer (friendNumber audioBitRate videoBitRate : UInt32) (result : Int32)
  | callback (cb : AvCallback)
  | afterToxavDo
  | sendAudioFrame (friendNumber : UInt32) (frame : AudioFrame)
  | sendVideoFrame (friendNumber : UInt32)
  deriving DecidableEq, Repr

/-- The state after a call and what went out during it. -/
def AvApiCall.run (defaultSettings : AvCSettings) (lg : Toxav) (av : NewToxAv) :
    AvApiCall → Checked (NewToxAv × List AvOutput)
  | .call friendNumber audioBitRate videoBitRate result callIndex => do
    let (_, av, actions) ←
      newToxavCall av defaultSettings friendNumber audioBitRate videoBitRate result callIndex
    return (av, actions.map .action)
  | .answer friendNumber audioBitRate videoBitRate result => do
    let (_, av, actions) ←
      newToxavAnswer av defaultSettings friendNumber audioBitRate videoBitRate result
    return (av, actions.map .action)
  | .callback cb => cb.run av
  | .afterToxavDo => .ok (Adapter.afterToxavDo av)
  | .sendAudioFrame friendNumber frame => do
    let (_, av, outputs) ← newToxavSendAudioFrame lg av friendNumber frame
    return (av, outputs)
  | .sendVideoFrame friendNumber => do
    let (_, av, outputs) ← newToxavSendVideoFrame av friendNumber
    return (av, outputs)

/-- A `new_ToxAV` and the log of what it did. -/
structure AvLogged where
  av : NewToxAv := {}
  log : List (AvApiCall × AvOutput) := []

/-- The state and the log after a call, with the answers of the legacy library. -/
def AvLogged.run (defaultSettings : AvCSettings) (s : AvLogged) (l : Toxav × AvApiCall) :
    Checked AvLogged := do
  let (av, outputs) ← l.2.run defaultSettings l.1 s.av
  return { av, log := s.log ++ outputs.map (Prod.mk l.2) }

def AvLoggedStep (defaultSettings : AvCSettings) (s : AvLogged) (l : Toxav × AvApiCall)
    (s' : AvLogged) : Prop :=
  s.run defaultSettings l = .ok s'

inductive Medium where
  | audio
  | video
  deriving DecidableEq, Repr

/-- The pending flag of a call. -/
def AvCall.eventPending (call : AvCall) : Medium → Bool
  | .audio => call.audioEventPending
  | .video => call.videoEventPending

/-- A request for a frame. -/
def AsksFrame (medium : Medium) (friendNumber : UInt32) (e : AvApiCall × AvOutput) : Prop :=
  match medium with
  | .audio => e.2 = .requestAudioFrame friendNumber
  | .video => e.2 = .requestVideoFrame friendNumber

/-- A call that sent a frame. None that sends a video frame returns. -/
def SendsFrame (medium : Medium) (friendNumber : UInt32) (e : AvApiCall × AvOutput) : Prop :=
  match medium with
  | .audio => ∃ frame callIndex data,
      e = (.sendAudioFrame friendNumber frame, .sendAudio callIndex data)
  | .video => e.1 = .sendVideoFrame friendNumber

end Tox4j.Adapter
