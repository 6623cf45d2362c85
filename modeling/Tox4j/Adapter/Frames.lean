import Tox4j.Adapter.Calls
import Tox4j.Misc.TableLoop

/-!
# `av.cpp`: iteration, and audio and video frames

`new_toxav_iteration` asks the client for the frames of all calls that send, and the client answers
with `new_toxav_send_audio_frame` or `new_toxav_send_video_frame`. The codecs and the network are
those of the legacy library, whose answers are in a `Toxav`.
-/

namespace Tox4j.Adapter

open Tox4j.Misc

/-- What others see of a `new_ToxAV`: a callback of the client, or a call of the legacy library
    that succeeded. -/
inductive AvOutput where
  | action (a : AvAction)
  | receiveAudioFrame (friendNumber : UInt32) (pcm : List Int16) (sampleCount : UInt64)
      (channels : UInt8) (samplingRate : UInt32)
  | requestVideoFrame (friendNumber : UInt32)
  | requestAudioFrame (friendNumber : UInt32)
  | sendAudio (callIndex : Int32) (data : List UInt8)
  deriving DecidableEq, Repr

/-- The answers of the legacy library during one call. -/
structure Toxav where
  /-- `toxav_prepare_audio_frame`: its result, and what it leaves in the buffer. -/
  prepareAudioFrame : Int32 → List Int16 → UInt64 → Int32 × List UInt8
  /-- `toxav_send_audio`. -/
  sendAudio : Int32 → List UInt8 → Int32

/-- A legacy library that makes one byte of every sample. -/
def Toxav.oneByte : Toxav where
  prepareAudioFrame _ pcm _ := (Int32.ofNat pcm.length, pcm.map Int16.toUInt16 |>.map UInt16.toUInt8)
  sendAudio _ _ := 0

/-- A callback that the legacy library makes inside `toxav_do`. -/
inductive AvCallback where
  | invite (callIdx : Int32) (peerId : UInt32)
  | ringing (callIdx : Int32)
  | start (callIdx : Int32)
  | ended (how : CallEnd) (callIdx : Int32)
  | peerCSChange (callIdx : Int32)
  | selfCSChange (callIdx : Int32)
  | audio (callIdx : Int32) (pcm : List Int16) (peerSettings : AvCSettings)
  | video (callIdx : Int32)
  deriving DecidableEq, Repr

namespace CB

def callstateOnPeerCSChange := unimplemented
def callstateOnSelfCSChange := unimplemented
def video := unimplemented

/-- `new_ToxAV::CB::audio`; `settings` is what `toxav_get_peer_csettings` fills in. -/
def audio (self : NewToxAv) (callIdx : Int32) (pcm : List Int16) (settings : AvCSettings) :
    Checked (NewToxAv × List AvOutput) := do
  let friendNumber ← self.getFriendNumber callIdx
  let call ← self.getCall friendNumber
  let sampleCount := settings.audioChannels * settings.audioSampleRate *
    call.settings.audioFrameDuration.toUInt32 / 1000
  return (self, [.receiveAudioFrame friendNumber pcm sampleCount.toUInt64
    settings.audioChannels.toUInt8 settings.audioSampleRate])

end CB

/-- What a callback does, with its actions among all outputs. -/
def avOutputs (x : Checked (NewToxAv × List AvAction)) : Checked (NewToxAv × List AvOutput) := do
  let (av, actions) ← x
  return (av, actions.map .action)

/-- The callback the legacy library calls. -/
def AvCallback.run (self : NewToxAv) : AvCallback → Checked (NewToxAv × List AvOutput)
  | .invite callIdx peerId => avOutputs (CB.callstateOnInvite self callIdx peerId)
  | .ringing callIdx => avOutputs (CB.callstateOnRinging self callIdx)
  | .start callIdx => avOutputs (CB.callstateOnStart self callIdx)
  | .ended how callIdx => avOutputs (how.callback self callIdx)
  | .peerCSChange callIdx => avOutputs (CB.callstateOnPeerCSChange self callIdx)
  | .selfCSChange callIdx => avOutputs (CB.callstateOnSelfCSChange self callIdx)
  | .audio callIdx pcm peerSettings => CB.audio self callIdx pcm peerSettings
  | .video callIdx => avOutputs (CB.video self callIdx)

/-- The callbacks the legacy library makes inside `toxav_do`. -/
def toxavDo : List AvCallback → NewToxAv → Checked (NewToxAv × List AvOutput)
  | [], av => .ok (av, [])
  | callback :: callbacks, av => do
    let (av, outputs) ← callback.run av
    let (av, outputs') ← toxavDo callbacks av
    return (av, outputs ++ outputs')

/-- The case `TOXAV_CALL_STATE_SENDING_A` of the switch. -/
def requestAudioFrame (friendNumber : UInt32) (call : AvCall) : AvCall × List AvOutput :=
  if !call.audioEventPending then
    ({ call with audioEventPending := true }, [.requestAudioFrame friendNumber])
  else
    (call, [])

/-- The loop body of `new_toxav_iteration` for one call: the call afterwards and what it asks the
    client for. -/
def requestFrames (friendNumber : UInt32) (call : AvCall) : AvCall × List AvOutput :=
  match call.state with
  | .sendingV | .sendingAV =>
    if !call.videoEventPending then
      let call := { call with videoEventPending := true }
      if call.state = .sendingV then (call, [.requestVideoFrame friendNumber])
      else
        let (call, outputs) := requestAudioFrame friendNumber call
        (call, .requestVideoFrame friendNumber :: outputs)
    else
      -- falls through to the next case
      requestAudioFrame friendNumber call
  | .sendingA => requestAudioFrame friendNumber call
  | .ringing | .sendingNone | .paused | .ended | .error => (call, [])

/-- What `new_toxav_iteration` does after `toxav_do` returns. -/
def afterToxavDo (av : NewToxAv) : NewToxAv × List AvOutput :=
  let (friendToCall, outputs) := loopRecords requestFrames av.friendToCall
  ({ av with friendToCall }, outputs)

/-- `new_toxav_iteration`. -/
def newToxavIteration (callbacks : List AvCallback) (av : NewToxAv) :
    Checked (NewToxAv × List AvOutput) := do
  let (av, outputs) ← toxavDo callbacks av
  let (av, outputs') := afterToxavDo av
  return (av, outputs ++ outputs')

/-- `TOXAV_ERR_SEND_FRAME`. -/
inductive ErrSendFrame where
  | ok
  | null
  | friendNotFound
  | friendNotInCall
  | notRequested
  | invalid
  deriving DecidableEq, Repr

/-- The arguments of `new_toxav_send_audio_frame` besides the friend. -/
structure AudioFrame where
  pcm : List Int16
  sampleCount : UInt64
  channels : UInt8
  samplingRate : UInt32
  deriving DecidableEq, Repr

/-- `new_toxav_send_audio_frame`. -/
def newToxavSendAudioFrame (lg : Toxav) (av : NewToxAv) (friendNumber : UInt32)
    (frame : AudioFrame) : Checked (ErrSendFrame × NewToxAv × List AvOutput) := do
  let call ← av.getCall friendNumber
  Checked.assert (frame.sampleCount = (frame.samplingRate * frame.channels.toUInt32 *
      call.settings.audioFrameDuration.toUInt32 / 1000).toUInt64)
    "sample_count == sampling_rate * channels * call.settings.audio_frame_duration / 1000"
  Checked.assert (frame.channels.toUInt32 = call.settings.audioChannels)
    "channels == call.settings.audio_channels"
  Checked.assert (frame.samplingRate = call.settings.audioSampleRate)
    "sampling_rate == call.settings.audio_sample_rate"
  let (result, dest) := lg.prepareAudioFrame call.index frame.pcm
    (frame.sampleCount * frame.channels.toUInt64)
  Checked.assert (0 < result) "false"
  let data := dest.take result.toNatClampNeg
  Checked.assert (0 ≤ lg.sendAudio call.index data) "false"
  return (.ok, av.setCall friendNumber { call with audioEventPending := false },
    [.sendAudio call.index data])

/-- `new_toxav_send_video_frame`, which is not written yet. -/
def newToxavSendVideoFrame (_av : NewToxAv) (_friendNumber : UInt32) :
    Checked (ErrSendFrame × NewToxAv × List AvOutput) :=
  .error "false"

/-- The call sends audio, and no audio frame has been asked for. -/
def AvCall.WantsAudio (call : AvCall) : Prop :=
  (call.state = .sendingA ∨ call.state = .sendingAV) ∧ call.audioEventPending = false

/-- The call sends video, and no video frame has been asked for. -/
def AvCall.WantsVideo (call : AvCall) : Prop :=
  (call.state = .sendingV ∨ call.state = .sendingAV) ∧ call.videoEventPending = false

instance (call : AvCall) : Decidable call.WantsAudio := inferInstanceAs (Decidable (_ ∧ _))

instance (call : AvCall) : Decidable call.WantsVideo := inferInstanceAs (Decidable (_ ∧ _))

/-- The call after the frames it wants have been asked for. -/
def AvCall.asked (call : AvCall) : AvCall :=
  { call with
    audioEventPending := call.audioEventPending || decide call.WantsAudio
    videoEventPending := call.videoEventPending || decide call.WantsVideo }

/-- Every frame that a call wants is asked for, once, and nothing else happens. -/
structure FramesRequested (before after : NewToxAv) (outputs : List AvOutput) : Prop where
  audio : ∀ f : UInt32, .requestAudioFrame f ∈ outputs ↔
    ∃ call, before.friendToCall[f]? = some call ∧ call.WantsAudio
  video : ∀ f : UInt32, .requestVideoFrame f ∈ outputs ↔
    ∃ call, before.friendToCall[f]? = some call ∧ call.WantsVideo
  once : outputs.Nodup
  requests : ∀ output ∈ outputs, ∃ f, output = .requestAudioFrame f ∨ output = .requestVideoFrame f
  calls : ∀ f : UInt32, after.friendToCall[f]? = before.friendToCall[f]?.map AvCall.asked
  friends : after.callToFriend = before.callToFriend

end Tox4j.Adapter
