import Tox4j.Adapter.ReceivedAudio
import Tox4j.Adapter.Proofs.AudioAnswering

/-!
# When received audio is complete

The number of samples is a product that has the channels in it already, and the copy multiplies by
the channels again.
-/

namespace Tox4j.Adapter

open Tox4j.Misc

/-- The loop stays inside the buffer when the buffer is long enough. -/
theorem addPcm_eq (pcm : List Int16) (n : ℕ) :
    addPcm pcm n = if n ≤ pcm.length then some (pcm.take n) else none := by
  induction n with
  | zero => rfl
  | succ n ih =>
    rw [addPcm, ih]
    by_cases hlt : n < pcm.length
    · have hle : n ≤ pcm.length := hlt.le
      have hsucc : n + 1 ≤ pcm.length := hlt
      rw [if_pos hle, if_pos hsucc, List.getElem?_eq_getElem hlt,
        List.take_succ_eq_append_getElem hlt]
      rfl
    · have hsucc : ¬ n + 1 ≤ pcm.length := hlt
      rw [if_neg hsucc, List.getElem?_eq_none (Nat.not_lt.mp hlt)]
      split <;> rfl

/-- The number of samples, without 32 bits. -/
theorem toNat_sampleCount (peerSettings settings : AvCSettings) :
    (peerSettings.audioChannels * peerSettings.audioSampleRate *
      settings.audioFrameDuration.toUInt32 / 1000).toUInt64.toNat =
        frameProduct peerSettings settings / 1000 := by
  simp [frameProduct]

section

variable {self : NewToxAv} {callIdx : Int32} {pcm : List Int16} {size : UInt16}
  {peerSettings : AvCSettings}

/-- What the callback hands on, for a call that is known. -/
theorem audio_eq_ok {r : NewToxAv × List AvOutput} :
    CB.audio self callIdx pcm peerSettings = .ok r ↔
      ∃ (f : UInt32) (call : AvCall),
        self.callToFriend[callIdx]? = some f ∧ self.friendToCall[f]? = some call ∧
          r = (self, [.receiveAudioFrame f pcm (peerSettings.audioChannels *
            peerSettings.audioSampleRate * call.settings.audioFrameDuration.toUInt32 /
              1000).toUInt64 peerSettings.audioChannels.toUInt8 peerSettings.audioSampleRate]) := by
  simp only [CB.audio, Checked.bind_eq_ok, getFriendNumber_eq_ok, getCall_eq_ok,
    Checked.pure_eq_ok]
  constructor
  · intro h
    obtain ⟨f, hf, call, hcall, hr⟩ := h
    exact ⟨f, call, hf, hcall, hr.symm⟩
  · intro h
    obtain ⟨f, call, hf, hcall, hr⟩ := h
    exact ⟨f, hf, call, hcall, hr.symm⟩

/-- The frame is complete in the event when the number of samples is right. -/
theorem tox4jReceiveAudioFrameCb_eq {f : UInt32} {sampleCount : UInt64} {channels : UInt8}
    {samplingRate : UInt32} (hpcm : pcm.length = sampleCount.toNat * channels.toNat)
    (hlt : sampleCount.toNat < 2 ^ 32) :
    tox4jReceiveAudioFrameCb f pcm sampleCount channels samplingRate =
      some { friendNumber := f, pcm, channels, samplingRate } := by
  have hchannels : channels.toNat < 256 := channels.toNat_lt
  have hproduct : sampleCount.toNat * channels.toNat < 2 ^ 64 := by
    calc sampleCount.toNat * channels.toNat ≤ 2 ^ 32 * 256 :=
          Nat.mul_le_mul hlt.le hchannels.le
      _ < 2 ^ 64 := by decide
  have hcount : (sampleCount * channels.toUInt64).toNat = pcm.length := by
    rw [UInt64.toNat_mul, UInt8.toNat_toUInt64, Nat.mod_eq_of_lt hproduct, hpcm]
  rw [tox4jReceiveAudioFrameCb, hcount, addPcm_eq, if_pos le_rfl, List.take_length]
  rfl

/-- The quotient is the number of samples exactly when the product is in range. -/
theorem frameProduct_div_eq_iff (settings : AvCSettings) :
    frameProduct peerSettings settings / 1000 = size.toNat ↔
      1000 * size.toNat ≤ frameProduct peerSettings settings ∧
        frameProduct peerSettings settings < 1000 * (size.toNat + 1) := by
  omega

theorem receivedExactly_iff (hmax : peerSettings.audioChannels.toNat ≤ 255)
    (hpcm : pcm.length = size.toNat * peerSettings.audioChannels.toNat) :
    ReceivedExactly self callIdx pcm size peerSettings ↔
      FrameFits self callIdx size peerSettings := by
  constructor
  · intro h
    obtain ⟨f, sampleCount, channels, samplingRate, event, haudio, hcount, _⟩ := h
    obtain ⟨f', call, hf, hcall, hr⟩ := audio_eq_ok.mp haudio
    cases hr
    rw [toNat_sampleCount] at hcount
    exact ⟨f, call, hf, hcall, (frameProduct_div_eq_iff call.settings).mp hcount⟩
  · intro h
    obtain ⟨f, call, hf, hcall, hproduct⟩ := h
    have hcount := toNat_sampleCount peerSettings call.settings
    rw [(frameProduct_div_eq_iff call.settings).mpr hproduct] at hcount
    have hchannels : peerSettings.audioChannels.toUInt8.toNat =
        peerSettings.audioChannels.toNat := by
      rw [UInt32.toNat_toUInt8, Nat.mod_eq_of_lt (by omega)]
    refine ⟨f, _, _, _, _, audio_eq_ok.mpr ⟨f, call, hf, hcall, rfl⟩, hcount,
      tox4jReceiveAudioFrameCb_eq ?_ ?_, rfl⟩
    · rw [hcount, hchannels, hpcm]
    · rw [hcount]
      have hsize := size.toNat_lt
      omega

/-- The number of samples that the sender's assertion asks for. -/
theorem FrameArrives.toNat_size {lg : Toxav} {sender : NewToxAv} {f : UInt32} {sent : AvCall}
    {frame : AudioFrame} (h : FrameArrives lg sender f sent frame size peerSettings) :
    size.toNat = frameProduct peerSettings sent.settings / 1000 := by
  obtain ⟨result, haccepted⟩ := h.accepted
  have hfails := ((newToxavSendAudioFrame_eq_ok h.call).mp haccepted).1
  have hcount : frame.sampleCount = (frame.samplingRate * frame.channels.toUInt32 *
      sent.settings.audioFrameDuration.toUInt32 / 1000).toUInt64 :=
    not_not.mp fun hne => hfails (.inl hne)
  rw [h.size, hcount, ← toNat_sampleCount, h.channels, h.samplingRate,
    UInt32.mul_comm frame.samplingRate]

/-- A received frame is read and delivered exactly when the product of the peer's channels and rate
    and of this side's frame duration is that of the samples of one channel; a frame that was sent
    is when the frame durations of both sides give the same number. -/
theorem received_audio_exact_iff (self : NewToxAv) (callIdx : Int32) (size : UInt16)
    (peerSettings : AvCSettings) :
    (∀ pcm : List Int16, 1 ≤ peerSettings.audioChannels.toNat →
      peerSettings.audioChannels.toNat ≤ 255 →
      pcm.length = size.toNat * peerSettings.audioChannels.toNat →
        (ReceivedExactly self callIdx pcm size peerSettings ↔
          FrameFits self callIdx size peerSettings)) ∧
    ∀ (lg : Toxav) (sender : NewToxAv) (f : UInt32) (sent : AvCall) (frame : AudioFrame),
      FrameArrives lg sender f sent frame size peerSettings →
        (ReceivedExactly self callIdx frame.pcm size peerSettings ↔
          ∃ (f : UInt32) (call : AvCall),
            self.callToFriend[callIdx]? = some f ∧ self.friendToCall[f]? = some call ∧
              frameProduct peerSettings call.settings / 1000 =
                frameProduct peerSettings sent.settings / 1000) := by
  constructor
  · intro pcm _ hmax hpcm
    exact receivedExactly_iff hmax hpcm
  · intro lg sender f sent frame h
    have hmax : peerSettings.audioChannels.toNat ≤ 255 := by
      rw [h.channels, UInt8.toNat_toUInt32]
      exact Nat.le_of_lt_succ frame.channels.toNat_lt
    have hpcm : frame.pcm.length = size.toNat * peerSettings.audioChannels.toNat := by
      rw [h.complete, h.size, h.channels, UInt8.toNat_toUInt32]
    rw [receivedExactly_iff hmax hpcm, FrameFits, ← h.toNat_size]
    simp only [frameProduct_div_eq_iff]

end

/-- A call with friend 0 that has one channel of 8000 samples a second, in frames of 60 ms. -/
def monoCall : NewToxAv :=
  ({} : NewToxAv).addCall 0 { index := 0, settings := makeSettings {} 48 0 }

theorem monoCall_known : monoCall.callToFriend[(0 : Int32)]? = some 0 ∧
    monoCall.friendToCall[(0 : UInt32)]? =
      some { index := 0, settings := makeSettings {} 48 0 } := by
  constructor
  · exact (lookup_insert _ _ _ _).trans (if_pos rfl)
  · exact (lookup_insertIfNew Std.ExtTreeMap.getElem?_empty _ _).trans (if_pos rfl)

theorem silence_arrives :
    FrameArrives .oneByte monoCall 0 { index := 0, settings := makeSettings {} 48 0 }
      ⟨List.replicate 480 0, 480, 1, 8000⟩ 480 { audioChannels := 1, audioSampleRate := 8000 } where
  call := monoCall_known.2
  accepted := ⟨_, (newToxavSendAudioFrame_eq_ok monoCall_known.2).mpr
    ⟨by decide +kernel, rfl⟩⟩
  complete := by
    rw [List.length_replicate]
    rfl
  size := rfl
  channels := rfl
  samplingRate := rfl

/-- A frame of 960 samples at 16 kHz, and one of 480 samples at 8 kHz that was sent. -/
theorem received_audio_exact_mono :
    ReceivedExactly monoCall 0 (List.replicate 960 0) 960
        { audioChannels := 1, audioSampleRate := 16000 } ∧
      ReceivedExactly monoCall 0 (List.replicate 480 0) 480
        { audioChannels := 1, audioSampleRate := 8000 } := by
  constructor
  · refine ((received_audio_exact_iff monoCall 0 960 _).1 _ (by decide) (by decide) ?_).mpr ?_
    · rw [List.length_replicate]
      rfl
    · exact ⟨0, _, monoCall_known.1, monoCall_known.2, by decide, by decide⟩
  · refine ((received_audio_exact_iff monoCall 0 480 _).2 _ _ _ _ _ silence_arrives).mpr ?_
    exact ⟨0, _, monoCall_known.1, monoCall_known.2, rfl⟩

/-- A frame of 480 samples in two channels is handed on as one of 960 samples, and the copy reads
    behind its end. -/
theorem stereo_audio_overread :
    (List.replicate 960 (0 : Int16)).length = 480 * 2 ∧
      ¬ ReceivedExactly monoCall 0 (List.replicate 960 0) 480
        { audioChannels := 2, audioSampleRate := 8000 } ∧
      CB.audio monoCall 0 (List.replicate 960 0) { audioChannels := 2, audioSampleRate := 8000 } =
        .ok (monoCall, [.receiveAudioFrame 0 (List.replicate 960 0) 960 2 8000]) ∧
      tox4jReceiveAudioFrameCb 0 (List.replicate 960 0) 960 2 8000 = none := by
  have hlength : (List.replicate 960 (0 : Int16)).length = 480 * 2 := by
    rw [List.length_replicate]
  refine ⟨hlength, ?_, ?_, ?_⟩
  · rw [receivedExactly_iff (by decide) (by rw [hlength]; rfl)]
    intro h
    obtain ⟨f, call, hf, hcall, _, hlt⟩ := h
    cases monoCall_known.1.symm.trans hf
    cases monoCall_known.2.symm.trans hcall
    exact absurd hlt (by decide)
  · exact audio_eq_ok.mpr ⟨0, _, monoCall_known.1, monoCall_known.2, rfl⟩
  · rw [tox4jReceiveAudioFrameCb, addPcm_eq, if_neg]
    · rfl
    · rw [hlength]
      decide

end Tox4j.Adapter
