import Tox4j.Adapter.Frames
import Tox4j.Adapter.Proofs.FileApi
import Tox4j.Misc.Pointwise

/-!
# Answering a request inside its callback

The callbacks of an iteration may call back into the adapter: a client can send the chunk or the
audio frame it is asked for right away, or write the request down and send it when the iteration
has returned. In the first case the loop still holds a reference to the record that the answer
assigns to.
-/

namespace Tox4j.Adapter

open Tox4j.Misc

/-- The arguments of `file_request_chunk`. -/
structure ChunkRequest where
  friendNumber : UInt32
  fileNumber : UInt32
  position : UInt64
  length : UInt64
  deriving DecidableEq, Repr

/-- A client that answers requests with data, or not at all. The answers of the legacy core to the
    call are given along with it. -/
abbrev ChunkClient := ChunkRequest → Option (Legacy × Buffer)

/-- The answer of a client. A request for 0 bytes says that the transfer is over, and has none. -/
def answerChunk (client : ChunkClient) (request : ChunkRequest) (tox : NewTox) :
    Checked (NewTox × List Action) :=
  if request.length = 0 then .ok (tox, [])
  else match client request with
    | none => .ok (tox, [])
    | some (lg, data) => do
      let (_, tox, actions) ←
        newToxFileSendChunk lg tox request.friendNumber request.fileNumber data
      return (tox, actions)

/-- The loop body of `new_tox_iteration` for one transfer, with a callback that answers. The
    reference `transfer` sees what the callback assigns. -/
def requestAnswered (lg : Legacy) (client : ChunkClient) (key : UInt32 × UInt32) (tox : NewTox) :
    Checked (NewTox × List Action) :=
  match tox.getTransfer key.1 key.2 with
  | none => .ok (tox, [])
  | some transfer =>
    if transfer.position = transfer.fileSize then .ok (tox, [])
    else if transfer.state = .running ∧ transfer.eventPending = false then do
      let sizeRequested := min (lg.dataSize key.1) (transfer.fileSize - transfer.position)
      let tox := tox.setTransfer key.1 key.2 { transfer with sizeRequested }
      let (tox, actions) ←
        answerChunk client ⟨key.1, key.2, transfer.position, sizeRequested⟩ tox
      let tox := match tox.getTransfer key.1 key.2 with
        | none => tox
        | some transfer => tox.setTransfer key.1 key.2 { transfer with eventPending := true }
      return (tox,
        .event (.fileRequestChunk key.1 key.2 transfer.position sizeRequested) :: actions)
    else .ok (tox, [])

/-- `new_tox_iteration` with callbacks that answer. -/
def iterationAnswered (lg : Legacy) (callbacks : List LegacyCallback) (client : ChunkClient)
    (tox : NewTox) : Checked (NewTox × List Action) := do
  let (tox, actions) ← toxDo lg callbacks tox
  let (tox, actions') := checkConnection lg tox
  let (tox, actions'') ← runAll (requestAnswered lg client) tox.transfers.keys tox
  return (tox, actions ++ actions' ++ actions'')

def Action.chunkRequest : Action → Option ChunkRequest
  | .event (.fileRequestChunk friendNumber fileNumber position length) =>
      some ⟨friendNumber, fileNumber, position, length⟩
  | _ => none

/-- `new_tox_iteration` with callbacks that write the requests down, and then the answers. -/
def iterationThenAnswers (lg : Legacy) (callbacks : List LegacyCallback) (client : ChunkClient)
    (tox : NewTox) : Checked (NewTox × List Action) := do
  let (tox, actions) ← newToxIteration lg callbacks tox
  let (tox, actions') ← runAll (answerChunk client) (actions.filterMap Action.chunkRequest) tox
  return (tox, actions ++ actions')

/-- Both return and leave the same transfers, or both fail an assertion. -/
def SameTransfers (x y : Checked (NewTox × List Action)) : Prop :=
  (∃ a b, x = .ok a ∧ y = .ok b ∧ a.1.transfers = b.1.transfers) ∨
    ∃ e e', x = .error e ∧ y = .error e'

/-- A client that answers requests for audio frames, or not at all. -/
abbrev FrameClient := UInt32 → Option (Toxav × AudioFrame)

/-- The answer of a client. -/
def answerFrame (client : FrameClient) (friendNumber : UInt32) (av : NewToxAv) :
    Checked (NewToxAv × List AvOutput) :=
  match client friendNumber with
  | none => .ok (av, [])
  | some (lg, frame) => do
    let (_, av, outputs) ← newToxavSendAudioFrame lg av friendNumber frame
    return (av, outputs)

/-- The case `TOXAV_CALL_STATE_SENDING_A` of the switch, with a callback that answers. -/
def audioAnswered (client : FrameClient) (friendNumber : UInt32) (call : AvCall) (av : NewToxAv) :
    Checked (NewToxAv × List AvOutput) :=
  if !call.audioEventPending then do
    let (av, outputs) ← answerFrame client friendNumber av
    let av := match av.friendToCall[friendNumber]? with
      | none => av
      | some call => av.setCall friendNumber { call with audioEventPending := true }
    return (av, .requestAudioFrame friendNumber :: outputs)
  else .ok (av, [])

/-- The loop body of `new_toxav_iteration` for one call, with a callback that answers requests for
    audio frames. -/
def framesAnswered (client : FrameClient) (friendNumber : UInt32) (av : NewToxAv) :
    Checked (NewToxAv × List AvOutput) :=
  match av.friendToCall[friendNumber]? with
  | none => .ok (av, [])
  | some call =>
    match call.state with
    | .sendingV | .sendingAV =>
      if !call.videoEventPending then
        let call := { call with videoEventPending := true }
        let av := av.setCall friendNumber call
        if call.state = .sendingV then .ok (av, [.requestVideoFrame friendNumber])
        else do
          let (av, outputs) ← audioAnswered client friendNumber call av
          return (av, .requestVideoFrame friendNumber :: outputs)
      else audioAnswered client friendNumber call av
    | .sendingA => audioAnswered client friendNumber call av
    | .ringing | .sendingNone | .paused | .ended | .error => .ok (av, [])

/-- `new_toxav_iteration` with callbacks that answer. -/
def avIterationAnswered (callbacks : List AvCallback) (client : FrameClient) (av : NewToxAv) :
    Checked (NewToxAv × List AvOutput) := do
  let (av, outputs) ← toxavDo callbacks av
  let (av, outputs') ← runAll (framesAnswered client) av.friendToCall.keys av
  return (av, outputs ++ outputs')

def AvOutput.audioRequest : AvOutput → Option UInt32
  | .requestAudioFrame friendNumber => some friendNumber
  | _ => none

/-- `new_toxav_iteration` with callbacks that write the requests down, and then the answers. -/
def avIterationThenAnswers (callbacks : List AvCallback) (client : FrameClient) (av : NewToxAv) :
    Checked (NewToxAv × List AvOutput) := do
  let (av, outputs) ← newToxavIteration callbacks av
  let (av, outputs') ← runAll (answerFrame client) (outputs.filterMap AvOutput.audioRequest) av
  return (av, outputs ++ outputs')

/-- Both return and leave the same calls, or both fail an assertion. -/
def SameCalls (x y : Checked (NewToxAv × List AvOutput)) : Prop :=
  (∃ a b, x = .ok a ∧ y = .ok b ∧ a.1.friendToCall = b.1.friendToCall) ∨
    ∃ e e', x = .error e ∧ y = .error e'

/-- The legacy core is up to a call of `new_tox_file_send_chunk`, and takes the data. -/
structure Legacy.Takes (lg : Legacy) (friendNumber : UInt32) (data : Buffer) : Prop where
  length_ne_zero : data.length ≠ 0
  length_le : data.length ≤ lg.dataSize friendNumber
  not_null : data.isNull = false
  connected : lg.Connected friendNumber

/-- A call of `new_tox_file_send_chunk` for the transfer fails an assertion: the chunk is empty, or
    the legacy core does not do what it is asked to. -/
def ChunkFails (lg : Legacy) (friendNumber fileNumber : UInt32) (transfer : FileTransfer)
    (data : Buffer) : Prop :=
  data.length = 0 ∨ lg.Takes friendNumber data ∧
    (lg.friendConnectionStatus friendNumber = -1 ∨
      lg.fileSendData friendNumber (FileTransfer.oldFileNumber fileNumber)
        (data.contents.take data.length.toUInt16.toNat) = -1 ∨
      transfer.position + data.length = transfer.fileSize ∧
        lg.fileSendControl friendNumber (FileTransfer.sendReceive fileNumber)
          (FileTransfer.oldFileNumber fileNumber) .finished ≠ 0)

/-- The client answers the request for a transfer that is due. -/
def ChunkAnswered (lg : Legacy) (client : ChunkClient) (tox : NewTox)
    (friendNumber fileNumber : UInt32) (transfer : FileTransfer) (lg' : Legacy) (data : Buffer) :
    Prop :=
  tox.getTransfer friendNumber fileNumber = some transfer ∧ transfer.Due ∧
    requestSize lg friendNumber transfer ≠ 0 ∧
    client ⟨friendNumber, fileNumber, transfer.position, requestSize lg friendNumber transfer⟩ =
      some (lg', data)

/-- A call of `new_toxav_send_audio_frame` fails an assertion: the frame does not fit the settings
    of the call, or the legacy library does not take it. -/
def FrameFails (lg : Toxav) (call : AvCall) (frame : AudioFrame) : Prop :=
  frame.sampleCount ≠ (frame.samplingRate * frame.channels.toUInt32 *
      call.settings.audioFrameDuration.toUInt32 / 1000).toUInt64 ∨
    frame.channels.toUInt32 ≠ call.settings.audioChannels ∨
    frame.samplingRate ≠ call.settings.audioSampleRate ∨
    (lg.prepareAudioFrame call.index frame.pcm
      (frame.sampleCount * frame.channels.toUInt64)).1 ≤ 0 ∨
    lg.sendAudio call.index
      ((lg.prepareAudioFrame call.index frame.pcm
        (frame.sampleCount * frame.channels.toUInt64)).2.take
          (lg.prepareAudioFrame call.index frame.pcm
            (frame.sampleCount * frame.channels.toUInt64)).1.toNatClampNeg) < 0

/-- The client answers the request for an audio frame of a call. -/
def FrameAnswered (client : FrameClient) (av : NewToxAv) (friendNumber : UInt32) (call : AvCall)
    (lg : Toxav) (frame : AudioFrame) : Prop :=
  av.friendToCall[friendNumber]? = some call ∧
    .requestAudioFrame friendNumber ∈ (requestFrames friendNumber call).2 ∧
    client friendNumber = some (lg, frame)

end Tox4j.Adapter
