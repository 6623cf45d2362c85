import Mathlib.Tactic
import Tox4j.Adapter.ErrorCodes
import Tox4j.Adapter.Proofs.FileApi

/-!
# Where the error is wrong

Most functions report their failures as they should. The switches over what the legacy core returns
for a new friend have no default, so results that are not in them fall through to success, and
`new_toxav_new` writes MALLOC when it has made its object.
-/

namespace Tox4j.Adapter

open Tox4j.Misc

/-- The error, the result that goes with it, and the state. -/
def withResult {Error β : Type} [DecidableEq Error] (ok : Error) (r : Error × β) :
    Outcome Error Bool × β :=
  (.report r.1 (r.1 == ok), r.2)

section

variable {Error α β : Type} {ok e : Error} {r : α} {succeeded : α → Prop}

theorem reports_report :
    Reports ok (.ok (.report e r)) succeeded ↔ (e = ok ↔ succeeded r) := by
  constructor
  · intro h
    obtain ⟨e', he, hiff⟩ := h _ rfl
    cases he
    exact hiff
  · intro h o ho
    cases ho
    exact ⟨e, rfl, h⟩

theorem reports_pure :
    Reports ok (pure (.report e r)) succeeded ↔ (e = ok ↔ succeeded r) := reports_report

theorem reports_error (text : String) :
    Reports ok (.error text : Checked (Outcome Error α)) succeeded := by
  intro o ho
  cases ho

theorem reports_bind {x : Checked β} {f : β → Checked (Outcome Error α)}
    (h : ∀ b, x = .ok b → Reports ok (f b) succeeded) : Reports ok (x >>= f) succeeded := by
  intro o ho
  obtain ⟨b, hx, hf⟩ := Checked.bind_eq_ok.mp ho
  exact h b hx o hf

theorem reports_map {x : Checked β} {f : β → Outcome Error α}
    (h : ∀ b, x = .ok b → Reports ok (.ok (f b)) succeeded) : Reports ok (f <$> x) succeeded := by
  intro o ho
  obtain ⟨b, hx, rfl⟩ := Checked.map_eq_ok.mp ho
  exact h b hx _ rfl

/-- A function whose result is true when its error is OK. -/
theorem reports_withState [DecidableEq Error] {x : Checked (Error × β)}
    {y : Checked (Outcome Error Bool × β)}
    (h : y = withResult ok <$> x) :
    Reports ok (.withState <$> y) (·.1 = true) := by
  refine reports_map ?_
  intro o ho
  rw [h, Checked.map_eq_ok] at ho
  obtain ⟨r, -, rfl⟩ := ho
  exact reports_report.mpr beq_iff_eq.symm

end

namespace Reporting

theorem newToxFileControl_eq (lg : Legacy) (tox : NewTox) (f n : UInt32) (control : FileControl) :
    newToxFileControl lg tox f n control =
      withResult .ok <$> Adapter.newToxFileControl lg tox f n control := by
  unfold newToxFileControl Adapter.newToxFileControl
  split
  · rfl
  · rw [map_bind]
    refine bind_congr fun connection => ?_
    split
    · rfl
    · cases tox.getTransfer f n with
      | none => rfl
      | some t =>
        cases control with
        | pause =>
          simp only [applyControl]
          split
          · rfl
          · simp only [map_bind, bind_assoc]
            rfl
        | resume =>
          simp only [applyControl]
          split
          · rfl
          · split
            · rfl
            · rfl
        | cancel => rfl

theorem newToxFileSendChunk_eq (lg : Legacy) (tox : NewTox) (f n : UInt32) (data : Buffer) :
    newToxFileSendChunk lg tox f n data =
      withResult .ok <$> Adapter.newToxFileSendChunk lg tox f n data := by
  unfold newToxFileSendChunk Adapter.newToxFileSendChunk
  split
  · rfl
  · split
    · rfl
    · split
      · rfl
      · split
        · rfl
        · rw [map_bind]
          refine bind_congr fun connection => ?_
          split
          · rfl
          · cases tox.getTransfer f n with
            | none => rfl
            | some t =>
              show (sendChunk lg tox f n t data >>= fun _ => _) =
                withResult ErrFileSendChunk.ok <$> (sendChunk lg tox f n t data >>= fun _ => _)
              rw [map_bind]
              rfl

theorem newToxavCall_eq (av : NewToxAv) (defaultSettings : AvCSettings) (f a v : UInt32)
    (result callIndex : Int32) :
    newToxavCall av defaultSettings f a v result callIndex =
      withResult .ok <$> Adapter.newToxavCall av defaultSettings f a v result callIndex := by
  unfold newToxavCall Adapter.newToxavCall
  simp only [map_bind]
  rfl

theorem newToxavAnswer_eq (av : NewToxAv) (defaultSettings : AvCSettings) (f a v : UInt32)
    (result : Int32) :
    newToxavAnswer av defaultSettings f a v result =
      withResult .ok <$> Adapter.newToxavAnswer av defaultSettings f a v result := by
  unfold newToxavAnswer Adapter.newToxavAnswer
  cases av.friendToCall[f]? with
  | none => rfl
  | some call =>
    simp only [map_bind]
    rfl

theorem newToxavSendAudioFrame_eq (lg : Toxav) (av : NewToxAv) (f : UInt32) (frame : AudioFrame) :
    newToxavSendAudioFrame lg av f frame =
      withResult .ok <$> Adapter.newToxavSendAudioFrame lg av f frame := by
  unfold newToxavSendAudioFrame Adapter.newToxavSendAudioFrame
  simp only [map_bind]
  rfl

end Reporting

theorem bootstrapLike_reports (func : List UInt8 → UInt16 → List UInt8 → Int32)
    (address : Option (List UInt8)) (port : UInt16) (publicKey : Option (List UInt8)) :
    Reports .ok (.ok (bootstrapLike func address port publicKey)) (· = true) := by
  unfold bootstrapLike
  split
  · split_ifs
    all_goals simp [reports_report]
  · simp [reports_report]

theorem setInfo_reports (maxLength : UInt64) (func : List UInt8 → Int32) (info : Buffer) :
    Reports .ok (.ok (setInfo maxLength func info)) (· = true) := by
  unfold setInfo
  dsimp only
  split_ifs
  all_goals simp [reports_report]

theorem newToxFriendDelete_reports {Tox : Type} (lg : Toxcore Tox) (tox : Tox) (f : UInt32) :
    Reports .ok ((fun r => .ofPair r.1) <$> newToxFriendDelete lg tox f) (· = true) := by
  refine reports_map ?_
  intro r hr
  simp only [newToxFriendDelete] at hr
  split_ifs at hr
  all_goals
    cases hr
    simp [Outcome.ofPair, reports_report]

theorem newToxFriendGetPublicKey_reports (toxGetClientId : Int32 → Int32) (f : UInt32)
    (publicKeyIsNull : Bool) :
    Reports .ok (newToxFriendGetPublicKey toxGetClientId f publicKeyIsNull) (· = true) := by
  unfold newToxFriendGetPublicKey
  dsimp only
  split_ifs
  all_goals simp [reports_report, reports_error]

theorem newToxSelfSetTyping_reports (toxSetUserIsTyping : Int32 → Bool → Int32) (f : UInt32)
    (isTyping : Bool) :
    Reports .ok (newToxSelfSetTyping toxSetUserIsTyping f isTyping) (· = true) := by
  unfold newToxSelfSetTyping
  dsimp only
  split_ifs
  all_goals simp [reports_report, reports_error]

theorem newToxFriendGetConnectionStatus_reports (lg : Legacy) (f : UInt32) :
    Reports .ok (Reporting.newToxFriendGetConnectionStatus lg f)
      fun _ => lg.friendExists f = true := by
  unfold Reporting.newToxFriendGetConnectionStatus
  cases hexists : lg.friendExists f with
  | false => simp [reports_report]
  | true =>
    refine reports_bind ?_
    intro _ _
    exact reports_pure.mpr (by simp)

theorem newToxSendSomething_reports (toxSend : Int32 → List UInt8 → UInt32) (lg : Legacy)
    (f : UInt32) (message : Buffer) :
    Reports .ok (newToxSendSomething toxSend lg f message) fun messageId =>
      messageId ≠ 0 ∧ messageId = toxSend f.toInt32 message.contents := by
  unfold newToxSendSomething
  split_ifs
  all_goals try simp [reports_report]
  refine reports_bind ?_
  intro connection _
  split_ifs with hnone hzero
  · exact reports_pure.mpr (by simp)
  · exact reports_pure.mpr (by simp)
  · exact reports_pure.mpr (by simpa using hzero)

theorem newToxSendCustomPacket_reports (send : Int32 → Buffer → UInt32 → Int32) (lg : Legacy)
    (f : UInt32) (data : Buffer) :
    Reports .ok (newToxSendCustomPacket send lg f data) (· = true) := by
  unfold newToxSendCustomPacket
  split
  · simp [reports_report]
  · refine reports_bind ?_
    intro connection _
    split_ifs
    all_goals exact reports_pure.mpr (by simp)

theorem newToxFileSend_reports (lg : Legacy) (tox : NewTox) (f : UInt32) (kind : FileKind)
    (size : UInt64) (name : Buffer) (cause : PauseReason) :
    Reports .ok ((fun r => .ofPair (r.2, r.1)) <$> newToxFileSend lg tox f kind size name cause)
      fun r => tox.getTransfer f r.1 = none ∧ (r.2.1.getTransfer f r.1).isSome = true := by
  refine reports_map ?_
  intro r hr
  obtain ⟨error, number, tox', actions⟩ := r
  refine reports_report.mpr ?_
  rcases newToxFileSend_cases hr with ⟨hne, rfl, rfl, -⟩ | h
  · refine iff_of_false hne ?_
    intro hnew
    rw [hnew.1] at hnew
    cases hnew.2
  · obtain ⟨n, rfl, -, -, -, -, hnone, rfl, -⟩ := h
    exact iff_of_true rfl ⟨hnone, by simp⟩

/-- The numbers that the switch over the results of the legacy core knows. -/
theorem friendAdded_reports {Tox : Type} (lg : Toxcore Tox)
    (errors : List (Int32 × ErrFriendAdd)) (result : Int32 × Tox)
    (herrors : ∀ e ∈ errors, e.1 < 0 ∧ e.2 ≠ .ok) :
    Reports .ok (.ok (.ofPair (friendAdded lg errors result).1))
        (Designates (some result.1)) ↔ 0 ≤ result.1 ∨ result.1 ∈ errors.map Prod.fst := by
  have hdesignates : ∀ n, Designates (some result.1) n ↔ 0 ≤ result.1 ∧ n = result.1.toUInt32 := by
    intro n
    simp [Designates]
  cases hlookup : errors.lookup result.1 with
  | none =>
    have hunknown : result.1 ∉ errors.map Prod.fst := by
      intro hmem
      obtain ⟨e, he, hfst⟩ := List.mem_map.mp hmem
      have hne := List.lookup_eq_none_iff.mp hlookup e he
      rw [hfst] at hne
      simp at hne
    simp only [friendAdded, hlookup, Outcome.ofPair]
    rw [reports_report, hdesignates, or_iff_left hunknown]
    simp
  | some e =>
    obtain ⟨l₁, l₂, hsplit, -⟩ := List.lookup_eq_some_iff.mp hlookup
    have hmem : (result.1, e) ∈ errors := by
      rw [hsplit]
      simp
    obtain ⟨hnegative, hne⟩ := herrors _ hmem
    simp only [friendAdded, hlookup, Outcome.ofPair]
    rw [reports_report, hdesignates]
    refine iff_of_true (iff_of_false hne ?_) (.inr (List.mem_map_of_mem hmem))
    intro hdesignated
    exact absurd hdesignated.1 (Int32.not_le.mpr hnegative)

theorem newToxFriendAdd_reports {Tox : Type} (lg : Toxcore Tox) (tox : Tox)
    (address message : Option (List UInt8)) :
    Reports .ok (.ok (.ofPair (newToxFriendAdd lg tox address message).1))
        (Designates (ApiCall.addFriendReturned lg tox address message)) ↔
      ∀ r, ApiCall.addFriendReturned lg tox address message = some r →
        0 ≤ r ∨ r ∈ [-1, -2, -3, -4, -6, -7, -8] := by
  have hnull : ∀ n, ¬ Designates none n := by
    intro n hdesignates
    obtain ⟨r, hr, -⟩ := hdesignates
    cases hr
  have hfails : Reports ErrFriendAdd.ok (.ok (.ofPair (0, .null))) (Designates none) :=
    reports_report.mpr (iff_of_false (by decide) (hnull 0))
  cases address with
  | none =>
    refine iff_of_true hfails ?_
    intro r hr
    cases hr
  | some address =>
    cases message with
    | none =>
      refine iff_of_true hfails ?_
      intro r hr
      cases hr
    | some message =>
      refine (friendAdded_reports lg friendAddErrors
        (lg.addFriend tox address (message.take (message.length % 2 ^ 16))) (by decide)).trans ?_
      constructor
      · intro h r hr
        cases hr
        exact h
      · intro h
        exact h _ rfl

theorem newToxFriendByPublicKey_reports (toxGetFriendNumber : List UInt8 → Int32)
    (publicKey : Option (List UInt8)) :
    Reports .ok (.ok (newToxFriendByPublicKey toxGetFriendNumber publicKey))
        (Designates (publicKey.map toxGetFriendNumber)) ↔
      ∀ key, publicKey = some key → -1 ≤ toxGetFriendNumber key := by
  cases publicKey with
  | none =>
    refine iff_of_true (reports_report.mpr (iff_of_false (by decide) ?_)) (by simp)
    intro hdesignates
    obtain ⟨r, hr, -⟩ := hdesignates
    cases hr
  | some key =>
    simp only [newToxFriendByPublicKey, Option.map_some, Option.some.injEq, forall_eq']
    split
    · next hmissing =>
      rw [reports_report, hmissing]
      refine iff_of_true (iff_of_false (by decide) ?_) (Int32.le_refl _)
      intro hdesignates
      obtain ⟨r, hr, hnonneg, -⟩ := hdesignates
      cases hr
      exact absurd hnonneg (by decide)
    · next hne =>
      rw [reports_report]
      have hiff : 0 ≤ toxGetFriendNumber key ↔ -1 ≤ toxGetFriendNumber key := by
        have hne' : (toxGetFriendNumber key).toInt ≠ -1 := by
          intro heq
          exact hne (Int32.toInt_inj.mp heq)
        rw [Int32.le_iff_toInt_le, Int32.le_iff_toInt_le]
        show (0 : Int) ≤ _ ↔ (-1 : Int) ≤ _
        omega
      rw [← hiff]
      constructor
      · intro h
        obtain ⟨r, hr, hnonneg, -⟩ := h.mp rfl
        cases hr
        exact hnonneg
      · intro h
        exact iff_of_true rfl ⟨_, rfl, h, rfl⟩

theorem newToxAvNew_reports {Tox ToxAv Events Mutex : Type} [DecidableEq Tox]
    (s : Instances.AvNative Tox ToxAv Events Mutex) (tox : Option Tox) (created : Option ToxAv) :
    Reports .ok (.ok (.ofPair (Instances.newToxAvNew s tox created).1)) (·.isSome = true) ↔
      ∀ t, tox = some t → s.hasAv t = false → created = none := by
  rw [Outcome.ofPair, reports_report]
  cases tox with
  | none => simp [Instances.newToxAvNew]
  | some t =>
    cases hav : s.hasAv t with
    | true => simp [Instances.newToxAvNew, hav]
    | false =>
      cases created with
      | none => simp [Instances.newToxAvNew, hav]
      | some av => simp [Instances.newToxAvNew, hav]

/-- Errors are reported as they should exactly when the legacy core does not return a negative
    number that the adapter takes for a friend, and no A/V object is created. -/
theorem errors_consistent_iff {Tox ToxAv Events Mutex : Type} [DecidableEq Tox]
    (call : ApiCall Tox ToxAv Events Mutex) : call.Consistent ↔ call.Expected := by
  cases call with
  | bootstrapLike func address port publicKey =>
    exact iff_of_true (bootstrapLike_reports func address port publicKey) trivial
  | selfSetName toxSetName name => exact iff_of_true (setInfo_reports 128 toxSetName name) trivial
  | selfSetStatusMessage toxSetStatusMessage status =>
    exact iff_of_true (setInfo_reports 1007 toxSetStatusMessage status) trivial
  | friendAdd lg tox address message => exact newToxFriendAdd_reports lg tox address message
  | friendAddNorequest lg tox publicKey =>
    exact friendAdded_reports lg norequestErrors (lg.addFriendNorequest tox publicKey) (by decide)
  | friendDelete lg tox f => exact iff_of_true (newToxFriendDelete_reports lg tox f) trivial
  | friendByPublicKey toxGetFriendNumber publicKey =>
    exact newToxFriendByPublicKey_reports toxGetFriendNumber publicKey
  | friendGetPublicKey toxGetClientId f publicKeyIsNull =>
    exact iff_of_true (newToxFriendGetPublicKey_reports toxGetClientId f publicKeyIsNull) trivial
  | friendGetConnectionStatus lg f =>
    exact iff_of_true (newToxFriendGetConnectionStatus_reports lg f) trivial
  | selfSetTyping toxSetUserIsTyping f isTyping =>
    exact iff_of_true (newToxSelfSetTyping_reports toxSetUserIsTyping f isTyping) trivial
  | sendSomething toxSend lg f message =>
    exact iff_of_true (newToxSendSomething_reports toxSend lg f message) trivial
  | fileControl =>
    exact iff_of_true (reports_withState (Reporting.newToxFileControl_eq ..)) trivial
  | fileSend lg tox f kind size name cause =>
    exact iff_of_true (newToxFileSend_reports lg tox f kind size name cause) trivial
  | fileSendChunk =>
    exact iff_of_true (reports_withState (Reporting.newToxFileSendChunk_eq ..)) trivial
  | sendCustomPacket send lg f data =>
    exact iff_of_true (newToxSendCustomPacket_reports send lg f data) trivial
  | avNew s tox created => exact newToxAvNew_reports s tox created
  | avCall => exact iff_of_true (reports_withState (Reporting.newToxavCall_eq ..)) trivial
  | avAnswer => exact iff_of_true (reports_withState (Reporting.newToxavAnswer_eq ..)) trivial
  | avSendAudioFrame =>
    exact iff_of_true (reports_withState (Reporting.newToxavSendAudioFrame_eq ..)) trivial

/-- A legacy core that does not know why it cannot add a friend. -/
def unknownCore : Toxcore FriendTable :=
  { FriendTable.core with addFriend := fun tox _ _ => (-5, tox) }

/-- A friend is reported that was not added, and an object as one that could not be made. -/
theorem errors_inconsistent :
    ¬ (ApiCall.friendAdd unknownCore {} (some []) (some [97]) :
      ApiCall FriendTable Unit Unit Unit).Consistent ∧
    ¬ (ApiCall.avNew { hasAv := fun _ => false } (some {}) (some ()) :
      ApiCall FriendTable Unit Unit Unit).Consistent := by
  constructor
  · intro h
    rcases (newToxFriendAdd_reports ..).mp h (-5) rfl with hnonneg | hknown
    · exact absurd hnonneg (by decide)
    · exact absurd hknown (by decide)
  · intro h
    have hnone := (newToxAvNew_reports ..).mp h {} rfl rfl
    cases hnone

end Tox4j.Adapter
