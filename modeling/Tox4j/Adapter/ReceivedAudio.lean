import Mathlib.Algebra.Ring.Nat
import Tox4j.Adapter.Frames

/-!
# `lifecycle.cpp`: received audio frames

`new_ToxAV::CB::audio` computes how many samples a frame has and hands them to the callback of the
JNI library, which copies them into an event.
-/

namespace Tox4j.Adapter

open Tox4j.Misc

/-- The event `ReceiveAudioFrame`. -/
structure ReceiveAudioFrame where
  friendNumber : UInt32
  pcm : List Int16
  channels : UInt8
  samplingRate : UInt32
  deriving DecidableEq, Repr

/-- The loop over `pcm[i]`. There is no result when it reads behind the end of the buffer. -/
def addPcm (pcm : List Int16) : ℕ → Option (List Int16)
  | 0 => some []
  | i + 1 => do
    let added ← addPcm pcm i
    let sample ← pcm[i]?
    return added ++ [sample]

/-- `tox4j_receive_audio_frame_cb`. -/
def tox4jReceiveAudioFrameCb (friendNumber : UInt32) (pcm : List Int16) (sampleCount : UInt64)
    (channels : UInt8) (samplingRate : UInt32) : Option ReceiveAudioFrame := do
  let pcm ← addPcm pcm (sampleCount * channels.toUInt64).toNat
  return { friendNumber, pcm, channels, samplingRate }

/-- A frame of `size` samples for each channel is handed on with that number of samples, and all of
    it is copied. -/
def ReceivedExactly (self : NewToxAv) (callIdx : Int32) (pcm : List Int16) (size : UInt16)
    (peerSettings : AvCSettings) : Prop :=
  ∃ friendNumber sampleCount channels samplingRate event,
    CB.audio self callIdx pcm peerSettings =
      .ok (self, [.receiveAudioFrame friendNumber pcm sampleCount channels samplingRate]) ∧
    sampleCount.toNat = size.toNat ∧
    tox4jReceiveAudioFrameCb friendNumber pcm sampleCount channels samplingRate = some event ∧
    event.pcm = pcm

/-- The peer's channels, its sampling rate and the frame duration of this side: their product in 32
    bits, which is in thousandths of a sample. -/
def frameProduct (peerSettings settings : AvCSettings) : ℕ :=
  peerSettings.audioChannels.toNat * peerSettings.audioSampleRate.toNat *
    settings.audioFrameDuration.toNat % 2 ^ 32

/-- The call is known, and the product is that of the samples of one channel. -/
def FrameFits (self : NewToxAv) (callIdx : Int32) (size : UInt16) (peerSettings : AvCSettings) :
    Prop :=
  ∃ (f : UInt32) (call : AvCall),
    self.callToFriend[callIdx]? = some f ∧ self.friendToCall[f]? = some call ∧
      1000 * size.toNat ≤ frameProduct peerSettings call.settings ∧
      frameProduct peerSettings call.settings < 1000 * (size.toNat + 1)

/-- A frame that `new_toxav_send_audio_frame` accepts for the call `sent` and that arrives with its
    samples, channels and rate. -/
structure FrameArrives (lg : Toxav) (sender : NewToxAv) (f : UInt32) (sent : AvCall)
    (frame : AudioFrame) (size : UInt16) (peerSettings : AvCSettings) : Prop where
  call : sender.friendToCall[f]? = some sent
  accepted : ∃ result, newToxavSendAudioFrame lg sender f frame = .ok result
  complete : frame.pcm.length = frame.sampleCount.toNat * frame.channels.toNat
  size : size.toNat = frame.sampleCount.toNat
  channels : peerSettings.audioChannels = frame.channels.toUInt32
  samplingRate : peerSettings.audioSampleRate = frame.samplingRate

end Tox4j.Adapter
