import Tox4j.Jni.Arrays
import Tox4j.Misc.Checked

/-!
# `ToxAv/av.cpp`: sending frames

`toxAvSendVideoFrame` and `toxAvSendAudioFrame` compare the lengths of the arrays with a product of
two `jint`s, and then call the function of the adapter with arguments of its own types.
-/

namespace Tox4j.Jni

open Tox4j.Misc

/-- What the two functions throw themselves. -/
inductive SendFrameException where
  | badLength
  deriving DecidableEq, Repr

/-- A `jint` as a `size_t`. -/
def sizeOfJint (i : Int32) : UInt64 := i.toInt64.toUInt64

/-- The arguments of `toxav_send_video_frame`. -/
structure VideoFrameArgs where
  friendNumber : UInt32
  width : UInt16
  height : UInt16
  y : Option (List UInt8)
  u : Option (List UInt8)
  v : Option (List UInt8)
  a : Option (List UInt8)
  deriving DecidableEq, Repr

/-- The arguments of `toxav_send_audio_frame`. -/
structure AudioFrameArgs where
  friendNumber : UInt32
  pcm : Option (List Int16)
  sampleCount : UInt64
  channels : UInt8
  samplingRate : UInt32
  deriving DecidableEq, Repr

/-- `toxAvSendVideoFrame`, up to the call of `toxav_send_video_frame`. -/
def toxAvSendVideoFrame (friendNumber width height : Int32) (y u v a : Option (JavaArray Int8)) :
    Except SendFrameException VideoFrameArgs :=
  let pixelCount := sizeOfJint (width * height)
  let yData : ByteArray := ⟨y⟩
  let uData : ByteArray := ⟨u⟩
  let vData : ByteArray := ⟨v⟩
  let aData : ByteArray := ⟨a⟩
  if yData.size ≠ pixelCount ∨ uData.size ≠ pixelCount ∨ vData.size ≠ pixelCount ∨
      (!aData.empty ∧ aData.size ≠ pixelCount) then
    .error .badLength
  else
    .ok {
      friendNumber := friendNumber.toUInt32
      width := width.toUInt32.toUInt16
      height := height.toUInt32.toUInt16
      y := yData.data
      u := uData.data
      v := vData.data
      a := aData.data }

/-- `toxAvSendAudioFrame`, up to the call of `toxav_send_audio_frame`. -/
def toxAvSendAudioFrame (friendNumber : Int32) (pcm : Option (JavaArray Int16))
    (sampleCount channels samplingRate : Int32) :
    Checked (Except SendFrameException AudioFrameArgs) := do
  Checked.assert (0 ≤ sampleCount) "sampleCount >= 0"
  Checked.assert (0 ≤ channels) "channels >= 0"
  Checked.assert (channels ≤ 255) "channels <= 255"
  Checked.assert (0 ≤ samplingRate) "samplingRate >= 0"
  let pcmData := ShortArray.ofJava pcm
  if pcmData.size ≠ sizeOfJint (sampleCount * channels) then
    return .error .badLength
  else
    return .ok {
      friendNumber := friendNumber.toUInt32
      pcm := pcmData.data
      sampleCount := sizeOfJint sampleCount
      channels := channels.toUInt32.toUInt8
      samplingRate := samplingRate.toUInt32 }

/-- If the check is passed, `y`, `u` and `v`, and `a` unless it is null, have a byte for every pixel
    of the size that the adapter is given. -/
def VideoLengthsRight (friendNumber width height : Int32) (y u v a : Option (JavaArray Int8)) :
    Prop :=
  ∀ args, toxAvSendVideoFrame friendNumber width height y u v a = .ok args →
    JavaArray.length y = args.width.toNat * args.height.toNat ∧
    JavaArray.length u = args.width.toNat * args.height.toNat ∧
    JavaArray.length v = args.width.toNat * args.height.toNat ∧
    (a ≠ none → JavaArray.length a = args.width.toNat * args.height.toNat)

/-- If the check is passed, `pcm` has a sample of every channel for each of the samples. -/
def AudioLengthRight (friendNumber : Int32) (pcm : Option (JavaArray Int16))
    (sampleCount channels samplingRate : Int32) : Prop :=
  ∀ args, toxAvSendAudioFrame friendNumber pcm sampleCount channels samplingRate = .ok (.ok args) →
    (JavaArray.length pcm : ℤ) = sampleCount.toInt * channels.toInt

/-- The arrays have the length that the product has in 32 bits; `a` may have no elements. -/
def PlanesHave (n : ℤ) (y u v a : Option (JavaArray Int8)) : Prop :=
  JavaArray.length y = n ∧ JavaArray.length u = n ∧ JavaArray.length v = n ∧
    (JavaArray.length a = 0 ∨ JavaArray.length a = n)

/-- What 16 bits leave of the width and the height loses nothing of their product in 32 bits. -/
def ProductKept (width height : Int32) : Prop :=
  2 ^ 16 ∣ width.toInt / 2 ^ 16 * (height.toInt % 2 ^ 16) +
    height.toInt / 2 ^ 16 * (width.toInt % 2 ^ 16)

instance (width height : Int32) : Decidable (ProductKept width height) :=
  inferInstanceAs (Decidable (_ ∣ _))

end Tox4j.Jni
