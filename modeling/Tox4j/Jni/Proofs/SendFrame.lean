import Tox4j.Jni.SendFrame

/-!
# What the length checks of frames imply

The products are those of integers modulo `2 ^ 32`, and a product that is negative in 32 bits is
the length of no array.
-/

namespace Tox4j.Jni

open Tox4j.Misc

/-- The length of an array is compared with the integer that the `jint` stands for. -/
theorem ofNat_eq_sizeOfJint {n : ℕ} (hn : n < 2 ^ 31) (i : Int32) :
    UInt64.ofNat n = sizeOfJint i ↔ (n : ℤ) = i.toInt := by
  have hlength : (UInt64.ofNat n).toBitVec.toInt = n := by
    have hbv : (UInt64.ofNat n).toBitVec = BitVec.ofNat 64 n := rfl
    have hnat : (BitVec.ofNat 64 n).toNat = n := by
      rw [BitVec.toNat_ofNat, Nat.mod_eq_of_lt (by omega)]
    rw [hbv, BitVec.toInt_eq_toNat_of_lt (by omega), hnat]
  have hjint : (sizeOfJint i).toBitVec.toInt = i.toInt := by
    have hbv : (sizeOfJint i).toBitVec = i.toBitVec.signExtend 64 := rfl
    rw [hbv, BitVec.toInt_signExtend_of_le (by decide)]
    rfl
  rw [← UInt64.toBitVec_inj, ← BitVec.toInt_inj, hlength, hjint]

/-- Products of `jint`s, modulo `2 ^ 32`. -/
theorem eq_mul_iff {n : ℕ} (hn : n < 2 ^ 31) (i j : Int32) :
    UInt64.ofNat n = sizeOfJint (i * j) ↔ (n : ℤ) = i.toInt * j.toInt % 2 ^ 32 := by
  rw [ofNat_eq_sizeOfJint hn, Int32.toInt_mul, Int.bmod_def]
  generalize i.toInt * j.toInt = product
  omega

theorem length_ofJava (pcm : Option (JavaArray Int16)) :
    JavaArray.length (ShortArray.ofJava pcm).jArray = JavaArray.length pcm := by
  rw [ShortArray.ofJava]
  split
  · rfl
  · next hempty => exact (not_not.mp hempty).symm

/-- When a call gets as far as the adapter. -/
theorem toxAvSendAudioFrame_eq_ok (friendNumber : Int32) (pcm : Option (JavaArray Int16))
    (sampleCount channels samplingRate : Int32) (args : AudioFrameArgs) :
    toxAvSendAudioFrame friendNumber pcm sampleCount channels samplingRate = .ok (.ok args) ↔
      (0 ≤ sampleCount ∧ 0 ≤ channels ∧ channels ≤ 255 ∧ 0 ≤ samplingRate) ∧
        (JavaArray.length pcm : ℤ) = sampleCount.toInt * channels.toInt % 2 ^ 32 ∧
        args = {
          friendNumber := friendNumber.toUInt32
          pcm := (ShortArray.ofJava pcm).data
          sampleCount := sizeOfJint sampleCount
          channels := channels.toUInt32.toUInt8
          samplingRate := samplingRate.toUInt32 } := by
  have hsize : (ShortArray.ofJava pcm).size = sizeOfJint (sampleCount * channels) ↔
      (JavaArray.length pcm : ℤ) = sampleCount.toInt * channels.toInt % 2 ^ 32 := by
    rw [ShortArray.size, length_ofJava]
    exact eq_mul_iff (JavaArray.length_lt_two_pow pcm) sampleCount channels
  rw [← hsize]
  simp only [toxAvSendAudioFrame, Checked.bind_eq_ok, Checked.assert_eq_ok, decide_eq_true_eq]
  constructor
  · intro h
    obtain ⟨_, hcount, _, hmin, _, hmax, _, hrate, hcheck⟩ := h
    split at hcheck
    · cases hcheck
    · next hequal =>
      cases hcheck
      exact ⟨⟨hcount, hmin, hmax, hrate⟩, not_not.mp hequal, rfl⟩
  · intro h
    obtain ⟨⟨hcount, hmin, hmax, hrate⟩, hequal, rfl⟩ := h
    refine ⟨⟨⟩, hcount, ⟨⟩, hmin, ⟨⟩, hmax, ⟨⟩, hrate, ?_⟩
    rw [if_neg (not_not.mpr hequal)]
    rfl

/-- A check that is passed means what it should unless the product has lost its upper bits. -/
theorem audioLengthRight_iff {friendNumber : Int32} {pcm : Option (JavaArray Int16)}
    {sampleCount channels samplingRate : Int32} (hcount : 0 ≤ sampleCount) (hmin : 0 ≤ channels)
    (hmax : channels ≤ 255) :
    AudioLengthRight friendNumber pcm sampleCount channels samplingRate ↔
      sampleCount.toInt * channels.toInt < 2 ^ 32 ∨
        (JavaArray.length pcm : ℤ) ≠ sampleCount.toInt * channels.toInt % 2 ^ 32 ∨
        samplingRate < 0 := by
  have hnonneg : 0 ≤ sampleCount.toInt * channels.toInt :=
    mul_nonneg (Int32.le_iff_toInt_le.mp hcount) (Int32.le_iff_toInt_le.mp hmin)
  have hlength := JavaArray.length_lt_two_pow pcm
  constructor
  · intro h
    by_contra hnot
    simp only [not_or, not_not, Int32.not_lt] at hnot
    obtain ⟨hlarge, hequal, hrate⟩ := hnot
    have hexact := h _ ((toxAvSendAudioFrame_eq_ok ..).mpr
      ⟨⟨hcount, hmin, hmax, hrate⟩, hequal, rfl⟩)
    omega
  · intro h args hargs
    obtain ⟨⟨_, _, _, hrate⟩, hequal, _⟩ := (toxAvSendAudioFrame_eq_ok ..).mp hargs
    rcases h with hsmall | hne | hneg
    · rw [hequal, Int.emod_eq_of_lt hnonneg hsmall]
    · exact absurd hequal hne
    · exact absurd hneg (Int32.not_lt.mpr hrate)

theorem empty_iff (a : Option (JavaArray Int8)) :
    (ByteArray.mk a).empty = true ↔ JavaArray.length a = 0 := by
  have hzero := ofNat_eq_sizeOfJint (JavaArray.length_lt_two_pow a) 0
  have hempty : (ByteArray.mk a).empty = true ↔
      UInt64.ofNat (JavaArray.length a) = sizeOfJint 0 := beq_iff_eq
  rw [hempty, hzero]
  exact Int.natCast_eq_zero

theorem toxAvSendVideoFrame_eq_ok (friendNumber width height : Int32)
    (y u v a : Option (JavaArray Int8)) (args : VideoFrameArgs) :
    toxAvSendVideoFrame friendNumber width height y u v a = .ok args ↔
      PlanesHave (width.toInt * height.toInt % 2 ^ 32) y u v a ∧
        args = {
          friendNumber := friendNumber.toUInt32
          width := width.toUInt32.toUInt16
          height := height.toUInt32.toUInt16
          y := (ByteArray.mk y).data
          u := (ByteArray.mk u).data
          v := (ByteArray.mk v).data
          a := (ByteArray.mk a).data } := by
  have hsize : ∀ plane : Option (JavaArray Int8),
      (ByteArray.mk plane).size = sizeOfJint (width * height) ↔
        (JavaArray.length plane : ℤ) = width.toInt * height.toInt % 2 ^ 32 :=
    fun plane => eq_mul_iff (JavaArray.length_lt_two_pow plane) width height
  have hcheck : PlanesHave (width.toInt * height.toInt % 2 ^ 32) y u v a ↔
      ¬ ((ByteArray.mk y).size ≠ sizeOfJint (width * height) ∨
        (ByteArray.mk u).size ≠ sizeOfJint (width * height) ∨
        (ByteArray.mk v).size ≠ sizeOfJint (width * height) ∨
        (!(ByteArray.mk a).empty ∧ (ByteArray.mk a).size ≠ sizeOfJint (width * height))) := by
    rw [PlanesHave, ← hsize, ← hsize, ← hsize, ← hsize, ← empty_iff]
    cases (ByteArray.mk a).empty <;> simp [not_or]
  rw [hcheck]
  simp only [toxAvSendVideoFrame]
  constructor
  · intro h
    split at h
    · cases h
    · next hpasses =>
      cases h
      exact ⟨hpasses, rfl⟩
  · intro h
    rw [if_neg h.1, h.2]

/-- What is left of a `jint` in 16 bits. -/
theorem toNat_toUInt16 (i : Int32) : (i.toUInt32.toUInt16.toNat : ℤ) = i.toInt % 2 ^ 16 := by
  have hint : i.toInt = (i.toUInt32.toNat : ℤ).bmod (2 ^ 32) := BitVec.toInt_eq_toNat_bmod _
  rw [UInt32.toNat_toUInt16, hint, Int.bmod_def]
  omega

theorem productKept_iff (width height : Int32) :
    ProductKept width height ↔ width.toInt * height.toInt % 2 ^ 32 =
      (width.toInt % 2 ^ 16) * (height.toInt % 2 ^ 16) := by
  rw [ProductKept]
  generalize width.toInt = i
  generalize height.toInt = j
  have hi := Int.mul_ediv_add_emod i (2 ^ 16)
  have hj := Int.mul_ediv_add_emod j (2 ^ 16)
  have hw : 0 ≤ i % 2 ^ 16 ∧ i % 2 ^ 16 ≤ 65535 := by omega
  have hh : 0 ≤ j % 2 ^ 16 ∧ j % 2 ^ 16 ≤ 65535 := by omega
  generalize i / 2 ^ 16 = p at *
  generalize j / 2 ^ 16 = q at *
  generalize i % 2 ^ 16 = w at *
  generalize j % 2 ^ 16 = h at *
  have hproduct : i * j = 2 ^ 32 * (p * q) + 2 ^ 16 * (p * h + q * w) + w * h := by
    rw [← hi, ← hj]
    ring
  have hmin : 0 ≤ w * h := mul_nonneg hw.1 hh.1
  have hmax : w * h ≤ 65535 * 65535 := mul_le_mul hw.2 hh.2 hh.1 (by decide)
  rw [hproduct]
  generalize w * h = product at *
  generalize p * h + q * w = middle
  generalize p * q = top
  omega

/-- A check that is passed means what it should when the product survives in 16 bits, and `a` is
    not an array without elements. -/
theorem videoLengthsRight_iff (friendNumber width height : Int32)
    (y u v a : Option (JavaArray Int8)) :
    VideoLengthsRight friendNumber width height y u v a ↔
      ¬ PlanesHave (width.toInt * height.toInt % 2 ^ 32) y u v a ∨
        ProductKept width height ∧
          (a ≠ none → JavaArray.length a = 0 →
            (width.toInt % 2 ^ 16) * (height.toInt % 2 ^ 16) = 0) := by
  have hwidth := toNat_toUInt16 width
  have hheight := toNat_toUInt16 height
  have hpixels : ∀ n : ℕ,
      n = width.toUInt32.toUInt16.toNat * height.toUInt32.toUInt16.toNat ↔
        (n : ℤ) = (width.toInt % 2 ^ 16) * (height.toInt % 2 ^ 16) := by
    intro n
    rw [← hwidth, ← hheight]
    norm_cast
  rw [productKept_iff]
  constructor
  · intro h
    by_cases hplanes : PlanesHave (width.toInt * height.toInt % 2 ^ 32) y u v a
    · right
      obtain ⟨hy, _, _, ha⟩ := h _ ((toxAvSendVideoFrame_eq_ok ..).mpr ⟨hplanes, rfl⟩)
      rw [hpixels, hplanes.1] at hy
      refine ⟨hy, ?_⟩
      intro hgiven hempty
      rw [← (hpixels _).mp (ha hgiven), hempty]
      rfl
    · exact .inl hplanes
  · intro h args hargs
    obtain ⟨hplanes, rfl⟩ := (toxAvSendVideoFrame_eq_ok ..).mp hargs
    rcases h with hnot | ⟨hkept, hempty⟩
    · exact absurd hplanes hnot
    · rw [hkept] at hplanes
      obtain ⟨hy, hu, hv, ha⟩ := hplanes
      refine ⟨(hpixels _).mpr hy, (hpixels _).mpr hu, (hpixels _).mpr hv, ?_⟩
      intro hgiven
      rw [hpixels]
      rcases ha with hzero | hsame
      · rw [hempty hgiven hzero, hzero]
        rfl
      · exact hsame

/-- When the checks of both functions imply the lengths that the adapter relies on. -/
theorem lengths_right_iff (friendNumber : Int32) :
    (∀ (pcm : Option (JavaArray Int16)) (sampleCount channels samplingRate : Int32),
      0 ≤ sampleCount → 0 ≤ channels → channels ≤ 255 →
        (AudioLengthRight friendNumber pcm sampleCount channels samplingRate ↔
          sampleCount.toInt * channels.toInt < 2 ^ 32 ∨
            (JavaArray.length pcm : ℤ) ≠ sampleCount.toInt * channels.toInt % 2 ^ 32 ∨
            samplingRate < 0)) ∧
    ∀ (width height : Int32) (y u v a : Option (JavaArray Int8)),
      VideoLengthsRight friendNumber width height y u v a ↔
        ¬ PlanesHave (width.toInt * height.toInt % 2 ^ 32) y u v a ∨
          ProductKept width height ∧
            (a ≠ none → JavaArray.length a = 0 →
              (width.toInt % 2 ^ 16) * (height.toInt % 2 ^ 16) = 0) := by
  constructor
  · intro pcm sampleCount channels samplingRate hcount hmin hmax
    exact audioLengthRight_iff hcount hmin hmax
  · exact videoLengthsRight_iff friendNumber

/-- Two samples of two channels, and two by two pixels without transparency. -/
theorem lengths_right_small :
    AudioLengthRight 0 (some ⟨[1, 2, 3, 4], by decide⟩) 2 2 8000 ∧
      VideoLengthsRight 0 2 2 (some ⟨[1, 2, 3, 4], by decide⟩) (some ⟨[5, 6, 7, 8], by decide⟩)
        (some ⟨[9, 10, 11, 12], by decide⟩) none := by
  constructor
  · refine ((lengths_right_iff 0).1 _ _ _ _ (by decide) (by decide) (by decide)).mpr (.inl ?_)
    decide
  · refine ((lengths_right_iff 0).2 _ _ _ _ _ _).mpr (.inr ⟨?_, ?_⟩)
    · decide
    · intro hgiven
      exact absurd rfl hgiven

/-- No samples at all pass for `2 ^ 25` samples of 128 channels, and single bytes pass for planes of
    a width and a height whose product is 1 in 32 bits. -/
theorem lengths_not_right :
    ¬ AudioLengthRight 0 none 33554432 128 8000 ∧
      ¬ VideoLengthsRight 0 3 (-1431655765) (some ⟨[0], by decide⟩) (some ⟨[0], by decide⟩)
        (some ⟨[0], by decide⟩) none := by
  constructor
  · intro h
    have hexact := h _ rfl
    exact absurd hexact (by decide)
  · intro h
    obtain ⟨hy, _⟩ := h _ rfl
    exact absurd hy (by decide)

end Tox4j.Jni
