import Mathlib.Tactic
import Tox4j.Adapter.Texts
import Tox4j.Misc.Sentinel

/-!
# When texts come back

A text of one null byte is stored like the empty text and is read back, and reported, as empty. No
other text is mistaken for another.
-/

namespace Tox4j.Adapter

open Tox4j.Misc

section

variable {σ : Type} {core : LegacyText σ} {st : σ} {text stored : List UInt8} {info : Buffer}

/-- What the legacy core gets when a text is set. -/
theorem setText_stored {maxLength : UInt64} (hinfo : info.Holds text)
    (hset : (setText maxLength core st info).1.result = true) :
    (core.set st (substitute [] [0] text)).1 ≠ -1 ∧
      (setText maxLength core st info).2 = (core.set st (substitute [] [0] text)).2 := by
  have hcontents : (if info.length = 0 then [0] else info.contents) = substitute [] [0] text := by
    have hzero : info.length = 0 ↔ text = [] := by
      rw [← UInt64.toNat_inj, hinfo.length, UInt64.toNat_zero, List.length_eq_zero_iff]
    unfold substitute
    by_cases htext : text = []
    · rw [if_pos (hzero.mpr htext), if_pos htext]
    · rw [if_neg (fun h => htext (hzero.mp h)), if_neg htext, hinfo.contents]
  unfold setText at hset ⊢
  rw [hcontents] at hset ⊢
  split at hset
  · cases hset
  split at hset
  · cases hset
  next hlong hnull =>
  rw [if_neg hlong, if_neg hnull]
  dsimp only at hset ⊢
  split at hset
  · cases hset
  next hresult =>
  rw [if_neg hresult]
  exact ⟨hresult, rfl⟩

theorem toNat_size (h : core.Has st stored) (hlt : stored.length < 2 ^ 16) :
    (UInt64.ofInt (core.size st).toInt).toNat = stored.length := by
  simp only [UInt64.ofInt, UInt64.toNat_ofNat', h.size]
  omega

/-- The size, with a single null byte taken for the empty text. -/
theorem getTextSize_eq (h : core.Has st stored) (hlt : stored.length < 2 ^ 16) :
    (getTextSize core st).toNat = (substitute [0] [] stored).length := by
  have hsize := toNat_size h hlt
  have hone : UInt64.ofInt (core.size st).toInt = 1 ↔ stored.length = 1 := by
    rw [← UInt64.toNat_inj, hsize, UInt64.toNat_one]
  unfold getTextSize substitute
  by_cases hlength : stored.length = 1
  · obtain ⟨byte, rfl⟩ := List.length_eq_one_iff.mp hlength
    have hget : core.get st 1 = [byte] := h.get
    rw [if_pos (hone.mpr hlength), hget, List.head?_cons]
    by_cases hbyte : byte = 0
    · rw [hbyte, if_pos rfl, if_pos rfl]
      rfl
    · have hne : [byte] ≠ [0] := fun heq => hbyte (List.cons.inj heq).1
      rw [if_neg (fun heq => hbyte (Option.some.inj heq)), if_neg hne, hsize]
  · have hne : stored ≠ [0] := by
      intro heq
      rw [heq] at hlength
      exact hlength rfl
    rw [if_neg (fun heq => hlength (hone.mp heq)), if_neg hne, hsize]

/-- A buffer of the right size has the text afterwards. -/
theorem getText_eq (h : core.Has st stored) (hlt : stored.length < 2 ^ 16)
    {buffer : List UInt8} (hbuffer : buffer.length = (getTextSize core st).toNat) :
    getText core st buffer = substitute [0] [] stored := by
  have hsize := getTextSize_eq h hlt
  unfold getText
  by_cases hzero : getTextSize core st = 0
  · rw [hzero, UInt64.toNat_zero] at hbuffer hsize
    have hempty : substitute [0] [] stored = [] := List.length_eq_zero_iff.mp hsize.symm
    rw [if_neg (not_not.mpr hzero), hempty, List.length_eq_zero_iff.mp hbuffer]
  · have hne : stored ≠ [0] := by
      intro heq
      rw [heq] at hsize
      exact hzero (UInt64.toNat_inj.mp hsize)
    have hstored : substitute [0] [] stored = stored := if_neg hne
    rw [hstored] at hsize ⊢
    have hget : core.get st (getTextSize core st) = stored := by
      rw [← UInt64.ofNat_toNat (x := getTextSize core st), hsize]
      exact h.get
    rw [if_pos hzero, hget, overlay, List.drop_eq_nil_of_le (by omega), List.append_nil]

/-- The array that the JNI library makes, with null for the empty one. -/
theorem notNull_getTextArray (h : core.Has st stored) (hlt : stored.length < 2 ^ 16) :
    notNull (getTextArray (getTextSize core st) (getText core st)) =
      substitute [0] [] stored := by
  have hsize := getTextSize_eq h hlt
  unfold getTextArray notNull
  by_cases hzero : getTextSize core st = 0
  · rw [hzero, UInt64.toNat_zero] at hsize
    rw [if_pos hzero, List.length_eq_zero_iff.mp hsize.symm]
    rfl
  · rw [if_neg hzero, Option.getD_some]
    exact getText_eq h hlt List.length_replicate

/-- The callback of a friend. -/
theorem textChange_holds (hlt : stored.length < 2 ^ 16) :
    (textChange (.bytes stored)).Holds (substitute [0] [] stored) := by
  have hlength : (Buffer.bytes stored).length.toNat = stored.length := by
    rw [Buffer.length, UInt64.toNat_ofNat', Nat.mod_eq_of_lt (by omega)]
  have hmark : ((Buffer.bytes stored).length = 1 ∧
      (Buffer.bytes stored).contents.head? = some 0) ↔ stored = [0] := by
    rw [← UInt64.toNat_inj, hlength, UInt64.toNat_one, List.length_eq_one_iff]
    constructor
    · intro hboth
      obtain ⟨⟨byte, rfl⟩, hhead⟩ := hboth
      exact congrArg (fun byte => [byte]) (Option.some.inj hhead)
    · rintro rfl
      exact ⟨⟨0, rfl⟩, rfl⟩
  unfold textChange substitute
  by_cases hstored : stored = [0]
  · rw [if_pos (hmark.mpr hstored), if_pos hstored]
    exact ⟨rfl, rfl⟩
  · rw [if_neg (fun h => hstored (hmark.mp h)), if_neg hstored]
    exact ⟨hlength, rfl⟩

end

section

variable {σ : Type} {core : LegacyTexts σ} {st st' : σ} {kind : TextKind}
  {text text' stored : List UInt8} {info info' : Buffer}

/-- The functions of the legacy core for a text. -/
def TextKind.legacy (core : LegacyTexts σ) : TextKind → LegacyText σ
  | .name => core.name
  | .statusMessage => core.statusMessage

theorem TextKind.set_eq (core : LegacyTexts σ) (st : σ) (info : Buffer) (kind : TextKind) :
    kind.set core st info = setText kind.maxLength (kind.legacy core) st info := by
  cases kind <;> rfl

theorem TextKind.maxLength_lt (kind : TextKind) : kind.maxLength.toNat < 2 ^ 16 := by
  cases kind <;> decide

theorem TextKind.size_eq (core : LegacyTexts σ) (st : σ) (kind : TextKind) :
    kind.size core st = getTextSize (kind.legacy core) st := by
  cases kind <;> rfl

theorem TextKind.get_eq (core : LegacyTexts σ) (st : σ) (buffer : List UInt8)
    (kind : TextKind) : kind.get core st buffer = getText (kind.legacy core) st buffer := by
  cases kind <;> rfl

theorem TextKind.getJava_eq (core : LegacyTexts σ) (st : σ) (kind : TextKind) :
    kind.getJava core st = notNull (getTextArray (getTextSize (kind.legacy core) st)
      (getText (kind.legacy core) st)) := by
  cases kind <;> rfl

theorem TextKind.reported_eq (core : LegacyTexts σ) (st : σ) (kind : TextKind) :
    kind.reported core st = textChange (.bytes ((kind.legacy core).sent st)) := by
  cases kind <;> rfl

/-- Everything that is seen of a text is what the stored one is read as. -/
theorem roundTrips_of_has (h : (kind.legacy core).Has st stored) (hlt : stored.length < 2 ^ 16) :
    kind.RoundTrips core st (substitute [0] [] stored) where
  size := by
    rw [kind.size_eq]
    exact getTextSize_eq h hlt
  get buffer hbuffer := by
    rw [kind.get_eq]
    exact getText_eq h hlt (hbuffer.trans (getTextSize_eq h hlt).symm)
  java := by
    rw [kind.getJava_eq]
    exact notNull_getTextArray h hlt
  reported := by
    rw [kind.reported_eq, h.sent]
    exact textChange_holds hlt

/-- Two states with one stored text look the same. -/
theorem confused_of_has (h : (kind.legacy core).Has st stored)
    (h' : (kind.legacy core).Has st' stored) (hlt : stored.length < 2 ^ 16) :
    kind.Confused core st st' := by
  have hseen := roundTrips_of_has h hlt
  have hseen' := roundTrips_of_has h' hlt
  refine ⟨?_, ?_, ?_, ?_⟩
  · exact UInt64.toNat_inj.mp (hseen.size.trans hseen'.size.symm)
  · intro buffer hbuffer
    have hlength := hbuffer.trans hseen.size
    exact (hseen.get buffer hlength).trans (hseen'.get buffer hlength).symm
  · exact hseen.java.trans hseen'.java.symm
  · rw [kind.reported_eq, kind.reported_eq, h.sent, h'.sent]

/-- What the legacy core has after a text has been set. -/
theorem has_of_set (hkeeps : (kind.legacy core).Keeps) (hinfo : info.Holds text)
    (hlength : text.length ≤ kind.maxLength.toNat)
    (hset : (kind.set core st info).1.result = true) :
    (substitute [] [0] text).length < 2 ^ 16 ∧
      (kind.legacy core).Has (kind.set core st info).2 (substitute [] [0] text) := by
  have hmark : ([0] : List UInt8) ≠ [] := List.cons_ne_nil 0 []
  have hlt : (substitute [] [0] text).length < 2 ^ 16 := by
    unfold substitute
    split
    · decide
    · exact hlength.trans_lt kind.maxLength_lt
  rw [kind.set_eq] at hset ⊢
  obtain ⟨hresult, hstate⟩ := setText_stored hinfo hset
  rw [hstate]
  exact ⟨hlt, hkeeps st _ (substitute_ne_absent hmark) hlt hresult⟩

theorem roundTrips_iff (hkeeps : (kind.legacy core).Keeps) (hinfo : info.Holds text)
    (hlength : text.length ≤ kind.maxLength.toNat)
    (hset : (kind.set core st info).1.result = true) :
    kind.RoundTrips core (kind.set core st info).2 text ↔ text ≠ [0] := by
  obtain ⟨hlt, hhas⟩ := has_of_set hkeeps hinfo hlength hset
  rw [← substitute_substitute_eq_iff (List.cons_ne_nil 0 [])]
  constructor
  · intro h
    exact (roundTrips_of_has hhas hlt).java.symm.trans h.java
  · intro heq
    have h := roundTrips_of_has hhas hlt
    rw [heq] at h
    exact h

theorem confused_iff (hkeeps : (kind.legacy core).Keeps) (hinfo : info.Holds text)
    (hlength : text.length ≤ kind.maxLength.toNat)
    (hset : (kind.set core st info).1.result = true) (hinfo' : info'.Holds text')
    (hlength' : text'.length ≤ kind.maxLength.toNat)
    (hset' : (kind.set core st' info').1.result = true) :
    kind.Confused core (kind.set core st info).2 (kind.set core st' info').2 ↔
      text = text' ∨ (text = [] ∧ text' = [0]) ∨ (text = [0] ∧ text' = []) := by
  obtain ⟨hlt, hhas⟩ := has_of_set hkeeps hinfo hlength hset
  obtain ⟨hlt', hhas'⟩ := has_of_set hkeeps hinfo' hlength' hset'
  constructor
  · intro h
    rw [← substitute_substitute_inj]
    calc substitute [0] [] (substitute [] [0] text)
      _ = kind.getJava core (kind.set core st info).2 := (roundTrips_of_has hhas hlt).java.symm
      _ = kind.getJava core (kind.set core st' info').2 := h.java
      _ = substitute [0] [] (substitute [] [0] text') := (roundTrips_of_has hhas' hlt').java
  · intro hor
    have hstored : substitute [] [0] text' = substitute [] [0] text := by
      rcases hor with heq | ⟨rfl, rfl⟩ | ⟨rfl, rfl⟩
      · rw [heq]
      · rfl
      · rfl
    rw [hstored] at hhas'
    exact confused_of_has hhas hhas' hlt

end

/-- A text that has been set comes back, here and at a friend, exactly when it is not a single null
    byte, and the only two texts that are confused are that one and the empty one. -/
theorem texts_round_trip_iff {σ : Type} (core : LegacyTexts σ) (hname : core.name.Keeps)
    (hstatus : core.statusMessage.Keeps) (kind : TextKind) :
    (∀ st text info, info.Holds text → text.length ≤ kind.maxLength.toNat →
      (kind.set core st info).1.result = true →
        (kind.RoundTrips core (kind.set core st info).2 text ↔ text ≠ [0])) ∧
    ∀ st text info st' text' info', info.Holds text → text.length ≤ kind.maxLength.toNat →
      (kind.set core st info).1.result = true → info'.Holds text' →
      text'.length ≤ kind.maxLength.toNat → (kind.set core st' info').1.result = true →
        (kind.Confused core (kind.set core st info).2 (kind.set core st' info').2 ↔
          text = text' ∨ (text = [] ∧ text' = [0]) ∨ (text = [0] ∧ text' = [])) := by
  have hkeeps : (kind.legacy core).Keeps := by
    cases kind with
    | name => exact hname
    | statusMessage => exact hstatus
  constructor
  · intro st text info hinfo hlength hset
    exact roundTrips_iff hkeeps hinfo hlength hset
  · intro st text info st' text' info' hinfo hlength hset hinfo' hlength' hset'
    exact confused_iff hkeeps hinfo hlength hset hinfo' hlength' hset'

theorem plain_keeps (kind : TextKind) : (kind.legacy .plain).Keeps := by
  intro st text _ hlt _
  have hsize : (Int32.ofNat text.length).toInt = text.length :=
    Int32.toInt_ofNat_of_lt (by omega)
  cases kind with
  | name => exact ⟨hsize, rfl, rfl⟩
  | statusMessage => exact ⟨hsize, rfl, rfl⟩

/-- Three bytes come back as the name, and the empty text as the status message. -/
theorem texts_round_trip_plain :
    TextKind.name.RoundTrips .plain (TextKind.name.set .plain ([], []) (.bytes [97, 98, 99])).2
        [97, 98, 99] ∧
      TextKind.statusMessage.RoundTrips .plain
        (TextKind.statusMessage.set .plain ([], []) (.null 0)).2 [] := by
  constructor
  · exact ((texts_round_trip_iff .plain (plain_keeps .name) (plain_keeps .statusMessage) .name).1
      ([], []) [97, 98, 99] (.bytes [97, 98, 99]) ⟨rfl, rfl⟩ (by decide) rfl).mpr (by decide)
  · exact ((texts_round_trip_iff .plain (plain_keeps .name) (plain_keeps .statusMessage)
      .statusMessage).1 ([], []) [] (.null 0) ⟨rfl, rfl⟩ (by decide) rfl).mpr (by decide)

theorem not_roundTrips_null_byte (kind : TextKind) :
    ¬ kind.RoundTrips .plain (kind.set .plain ([], []) (.bytes [0])).2 [0] := by
  have hlength : ([0] : List UInt8).length ≤ kind.maxLength.toNat := by cases kind <;> decide
  have hholds : (Buffer.bytes [0]).Holds [0] := ⟨rfl, rfl⟩
  have hset : (kind.set .plain ([], []) (.bytes [0])).1.result = true := by cases kind <;> rfl
  rw [roundTrips_iff (plain_keeps kind) hholds hlength hset]
  exact fun hne => hne rfl

/-- A single null byte does not come back as the name or the status message: it is confused with
    the empty text. -/
theorem null_byte_lost :
    ((TextKind.name.set .plain ([], []) (.bytes [0])).1.result = true ∧
      ¬ TextKind.name.RoundTrips .plain (TextKind.name.set .plain ([], []) (.bytes [0])).2 [0] ∧
      TextKind.name.Confused .plain (TextKind.name.set .plain ([], []) (.bytes [0])).2
        (TextKind.name.set .plain ([], []) (.bytes [])).2) ∧
    (TextKind.statusMessage.set .plain ([], []) (.bytes [0])).1.result = true ∧
      ¬ TextKind.statusMessage.RoundTrips .plain
        (TextKind.statusMessage.set .plain ([], []) (.bytes [0])).2 [0] := by
  refine ⟨⟨rfl, not_roundTrips_null_byte .name, ?_⟩, rfl, not_roundTrips_null_byte .statusMessage⟩
  have hholds : (Buffer.bytes [0]).Holds [0] := ⟨rfl, rfl⟩
  have hempty : (Buffer.bytes []).Holds [] := ⟨rfl, rfl⟩
  rw [confused_iff (plain_keeps .name) hholds (by decide) rfl hempty (by decide) rfl]
  exact .inr (.inr ⟨rfl, rfl⟩)

end Tox4j.Adapter
