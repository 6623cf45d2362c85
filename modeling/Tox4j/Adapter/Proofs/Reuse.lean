import Tox4j.Adapter.Proofs.Effects
import Tox4j.Adapter.Reuse

/-!
# Entries of the transfer table that stay

An entry leaves the table in one place, when the friend sends FINISHED for it, and enters it only
with a new offer. So the entry of a completed incoming transfer stays, as the legacy core passes
no FINISHED on for a slot it has freed, and so do the entries of a friend who is deleted.
-/

namespace Tox4j.Adapter

open Tox4j.Misc

section

variable {lg : Legacy} {tox tox' : NewTox} {call : Call} {actions : List Action} {f n : UInt32}

/-- The FINISHED of the friend that ends a transfer. -/
def Call.Ends (f n : UInt32) : Call → Prop
  | .callback (.fileControl f' receiveSend filenumber .finished) =>
      f' = f ∧ FileTransfer.newFileNumber (receiveSend != 0) filenumber = n
  | _ => False

/-- What a call does to the table: it assigns to an entry that is there or is offered, takes out an
    entry that the friend ends, or asks for chunks. -/
inductive TableChange (tox : NewTox) (call : Call) : NewTox → Prop where
  | same : TableChange tox call tox
  | assign {f n : UInt32} {t : FileTransfer}
      (h : call.Offers f ∨ (tox.getTransfer f n).isSome = true) :
      TableChange tox call (tox.setTransfer f n t)
  | erase {f n : UInt32} (h : call.Ends f n) : TableChange tox call (tox.eraseTransfer f n)
  | request {tox' : NewTox}
      (h : ∀ f n, (tox'.getTransfer f n).isSome = (tox.getTransfer f n).isSome) :
      TableChange tox call tox'

/-- What a call does: events are about friends that have an entry or are offered one. -/
theorem Call.run_change (hrun : call.run lg tox = .ok (tox', actions)) :
    TableChange tox call tox' ∧ ∀ e, .event e ∈ actions → e.friend = some f →
      call.Offers f ∨ ∃ n, (tox.getTransfer f n).isSome = true := by
  have hentry : ∀ {n t}, tox.getTransfer f n = some t →
      call.Offers f ∨ ∃ n, (tox.getTransfer f n).isSome = true :=
    fun ht => .inr ⟨_, Option.isSome_of_eq_some ht⟩
  cases Call.run_effect hrun with
  | unchanged hclient hcontrols =>
    refine ⟨.same, ?_⟩
    intro e he
    obtain ⟨_, _, _, _, -, heq⟩ := hcontrols _ he
    cases heq
  | opened => exact ⟨.assign (.inl rfl), by simp⟩
  | offered =>
    refine ⟨.assign (.inl rfl), ?_⟩
    intro e he hf
    cases List.mem_singleton.mp he
    exact .inl (Option.some.inj hf)
  | sent haccepted =>
    refine ⟨.assign (.inr (Option.isSome_of_eq_some haccepted.transfer)), ?_⟩
    intro e he
    split at he <;> simp at he
  | received ht =>
    refine ⟨.assign (.inr (Option.isSome_of_eq_some ht)), ?_⟩
    intro e he hf
    rw [List.mem_cons, List.mem_ite_nil_right, List.mem_singleton] at he
    rcases he with he | ⟨-, he⟩
    · cases he
      cases hf
      exact hentry ht
    · cases he
  | accepted ht =>
    refine ⟨.assign (.inr (Option.isSome_of_eq_some ht)), ?_⟩
    intro e he hf
    cases List.mem_singleton.mp he
    cases hf
    exact hentry ht
  | finished ht =>
    refine ⟨.erase ⟨rfl, rfl⟩, ?_⟩
    intro e he hf
    cases List.mem_singleton.mp he
    cases hf
    exact hentry ht
  | asked =>
    constructor
    · refine .request ?_
      intro f n
      rw [getTransfer_afterToxDo, Option.isSome_map]
    · intro e he hf
      rcases mem_afterToxDo he with ⟨status, he⟩ | ⟨f', n', t, ht, -, he⟩
      · cases he
        cases hf
      · cases he
        cases hf
        exact hentry ht

/-- Nothing but the FINISHED of the friend takes an entry out of the table. -/
theorem Call.run_isSome (hrun : call.run lg tox = .ok (tox', actions)) (hends : ¬ call.Ends f n)
    (h : (tox.getTransfer f n).isSome = true) : (tox'.getTransfer f n).isSome = true := by
  cases (Call.run_change (f := f) hrun).1 with
  | same => exact h
  | assign _ =>
    rw [NewTox.getTransfer_setTransfer]
    split
    · rfl
    · exact h
  | @erase f' n' hends' =>
    have hkey : ¬ (f' = f ∧ n' = n) := fun heq => hends (heq.1 ▸ heq.2 ▸ hends')
    rw [NewTox.getTransfer_eraseTransfer, if_neg hkey]
    exact h
  | request hsame =>
    rw [hsame]
    exact h

/-- Without an offer, a friend who has no transfers has none afterwards, and no event is about the
    friend. -/
theorem Call.run_none (hrun : call.run lg tox = .ok (tox', actions)) (hoffers : ¬ call.Offers f)
    (h : ∀ n, tox.getTransfer f n = none) :
    (∀ n, tox'.getTransfer f n = none) ∧ ∀ e, .event e ∈ actions → e.friend ≠ some f := by
  have hother : ∀ n, ¬ (tox.getTransfer f n).isSome = true := by
    intro n
    rw [h n]
    exact Bool.false_ne_true
  obtain ⟨hchange, hevents⟩ := Call.run_change (f := f) hrun
  constructor
  · intro n
    cases hchange with
    | same => exact h n
    | @assign f' n' t hassign =>
      have hne : f' ≠ f := by
        intro heq
        subst heq
        exact hassign.elim hoffers (hother n')
      rw [NewTox.getTransfer_setTransfer, if_neg fun heq => hne heq.1]
      exact h n
    | erase _ =>
      rw [NewTox.getTransfer_eraseTransfer]
      split
      · rfl
      · exact h n
    | request hsame =>
      rw [← Option.not_isSome_iff_eq_none, hsame]
      exact hother n
  · intro e he hf
    rcases hevents e he hf with hoffer | ⟨n, hentry⟩
    · exact hoffers hoffer
    · exact hother n hentry

end

/-- A request for a number that is in the table fails the assertion of `add_transfer`. -/
theorem fileSendRequest_taken {tox : NewTox} {f : UInt32} {n : UInt8} (size : UInt64)
    (name : List UInt8) (cause : PauseReason)
    (h : (tox.getTransfer f (n.toUInt32 ||| 0x100)).isSome = true) :
    CB.fileSendRequest tox f n size name cause =
      .error "!get_transfer (friend_number, file_number)" := by
  obtain ⟨t, ht⟩ := Option.isSome_iff_exists.mp h
  simp only [CB.fileSendRequest, NewTox.addTransfer, ht]
  rfl

theorem slotReusable_iff {tox : NewTox} {f : UInt32} {n : UInt8} :
    SlotReusable tox f n ↔ tox.getTransfer f (n.toUInt32 ||| 0x100) = none := by
  constructor
  · intro h
    exact h.1
  · intro h
    refine ⟨h, ?_⟩
    intro size name cause
    exact ⟨_, _, { cause, fileSize := size }, fileSendRequest_eq_ok.mpr ⟨h, rfl, rfl⟩,
      NewTox.getTransfer_setTransfer_self .., rfl, rfl⟩

/-- The FINISHED of the friend is a control for the transfer. -/
theorem Call.ControlsReceived.of_ends {call : Call} {f : UInt32} {n : UInt8}
    (h : call.Ends f (n.toUInt32 ||| 0x100)) : call.ControlsReceived f n := by
  cases call with
  | callback cb =>
    cases cb with
    | fileControl f' rs n' control =>
      cases control with
      | finished =>
        obtain ⟨hf, hn⟩ := h
        by_cases hrs : rs = 0
        · subst hrs
          change FileTransfer.newFileNumber false n' = _ at hn
          rw [FileTransfer.newFileNumber_false] at hn
          exact ⟨hf, rfl, FileTransfer.or_256_injective hn⟩
        · have hflag : (rs != 0) = true := by simpa using hrs
          rw [hflag, FileTransfer.newFileNumber_true] at hn
          exact absurd hn (FileTransfer.toUInt32_ne_or_256 n' n)
      | accept | pause | kill | resumeBroken | unknown code => exact h.elim
    | fileSendRequest | fileData => exact h.elim
  | fileSend | fileSendChunk | fileControl | afterToxDo => exact h.elim

/-- A call that ends a transfer sends nothing. -/
theorem Call.Ends.not_sent {lg : Legacy} {tox tox' : NewTox} {call : Call} {actions : List Action}
    {f n : UInt32} (h : call.Ends f n) (hrun : call.run lg tox = .ok (tox', actions))
    {f' : UInt32} {sendReceive : Bool} {filenumber : UInt8} {control : LegacyControl} :
    .sendControl f' sendReceive filenumber control ∉ actions := by
  cases call with
  | callback cb =>
    cases cb with
    | fileControl f'' rs n'' c =>
      obtain ⟨t, -, ⟨-, -, rfl⟩ | ⟨-, -, rfl⟩⟩ := fileControl_cases hrun
      · simp
      · simp
    | fileSendRequest | fileData => exact h.elim
  | fileSend | fileSendChunk | fileControl | afterToxDo => exact h.elim

/-- Entries stay in the table through runs without the FINISHED of the friend. -/
theorem run_isSome {tox tox' : NewTox} {calls : List (Legacy × Call)} {f n : UInt32}
    (hrun : Run SessionStep tox calls tox') (hends : ∀ l ∈ calls, ¬ l.2.Ends f n)
    (h : (tox.getTransfer f n).isSome = true) : (tox'.getTransfer f n).isSome = true := by
  induction hrun with
  | nil => exact h
  | snoc _ hstep ih =>
    simp only [List.mem_append, List.mem_singleton] at hends
    obtain ⟨actions, hcall⟩ := hstep
    exact Call.run_isSome hcall (hends _ (.inr rfl)) (ih fun l hl => hends l (.inl hl))

/-- Once the adapter has sent FINISHED for an incoming transfer, the number of the transfer stays
    taken, and the next offer under it fails an assertion. -/
theorem completed_slot_taken {tox done tox' : NewTox} {lg : Legacy} {call : Call} {f : UInt32}
    {n : UInt8} {actions : List Action} {calls : List (Legacy × Call)}
    (htransfer : (tox.getTransfer f (n.toUInt32 ||| 0x100)).isSome = true)
    (hcall : call.run lg tox = .ok (done, actions))
    (hfinished : .sendControl f true n .finished ∈ actions)
    (hrun : Run SessionStep done calls tox')
    (hfreed : ∀ l ∈ calls, ¬ l.2.ControlsReceived f n) :
    ¬ SlotReusable tox' f n ∧ ∀ size name cause,
      CB.fileSendRequest tox' f n size name cause =
        .error "!get_transfer (friend_number, file_number)" := by
  have hdone : (done.getTransfer f (n.toUInt32 ||| 0x100)).isSome = true :=
    Call.run_isSome hcall (fun hends => hends.not_sent hcall hfinished) htransfer
  have hentry : (tox'.getTransfer f (n.toUInt32 ||| 0x100)).isSome = true :=
    run_isSome hrun (fun l hl hends => hfreed l hl (.of_ends hends)) hdone
  constructor
  · intro hreusable
    rw [slotReusable_iff.mp hreusable] at hentry
    cases hentry
  · intro size name cause
    exact fileSendRequest_taken size name cause hentry

section

/-- A friend has offered a file of one byte. -/
def offered : NewTox := NewTox.setTransfer {} 0 0x100 { cause := .initial, fileSize := 1 }

/-- The byte has arrived. -/
def received : NewTox :=
  offered.setTransfer 0 0x100 { cause := .initial, fileSize := 1, position := 1 }

theorem offered_eq : runCalls {} [(.oneFriend, .callback (.fileSendRequest 0 0 1 [97] .initial))] =
    .ok offered := by
  rfl

theorem received_eq : Call.run .oneFriend offered (.callback (.fileData 0 0 [7])) =
    .ok (received,
      [.event (.fileReceiveChunk 0 0x100 0 [7]), .sendControl 0 true 0 .finished]) := by
  rfl

/-- The number of the file stays taken over an iteration. -/
theorem completed_slot_taken_oneByte :
    ¬ SlotReusable (afterToxDo .oneFriend received).1 0 0 :=
  (completed_slot_taken (by rfl) received_eq (by simp)
    (Run.single (l := (.oneFriend, .afterToxDo)) ⟨_, rfl⟩) (by simp [Call.ControlsReceived])).1

/-- The adapter has sent FINISHED for the file, and cannot be offered a second one. -/
theorem completed_number_not_reusable : ∃ tox done actions,
    runCalls {} [(.oneFriend, .callback (.fileSendRequest 0 0 1 [97] .initial))] = .ok tox ∧
      CB.fileData tox .oneFriend 0 0 [7] = .ok (done, actions) ∧
      .sendControl 0 true 0 .finished ∈ actions ∧ ¬ SlotReusable done 0 0 := by
  refine ⟨offered, received, _, offered_eq, received_eq, by simp, ?_⟩
  rw [slotReusable_iff]
  intro h
  cases h

end

namespace NewTox

theorem getTransfer_forget (tox : NewTox) (f f' n : UInt32) :
    (tox.forget f).getTransfer f' n = if f' = f then none else tox.getTransfer f' n := by
  simp only [getTransfer, forget, Std.ExtTreeMap.getElem?_filter']
  by_cases h : f' = f
  · simp [h]
  · have hkeep : (f' != f) = true := by simpa using h
    rw [if_neg h]
    cases tox.transfers[(f', n)]? with
    | none => rfl
    | some t => simp only [Option.filter, hkeep, if_true]

theorem ext_getTransfer {tox tox' : NewTox} (hconnected : tox.connected = tox'.connected)
    (hhasAv : tox.hasAv = tox'.hasAv)
    (h : ∀ f n, tox.getTransfer f n = tox'.getTransfer f n) : tox = tox' := by
  cases tox
  cases tox'
  simp only [NewTox.mk.injEq]
  exact ⟨hconnected, hhasAv, Std.ExtTreeMap.ext_getElem? fun key => h key.1 key.2⟩

/-- There is nothing to forget of a friend without transfers. -/
theorem forget_eq_self {tox : NewTox} {f : UInt32} (h : ∀ n, tox.getTransfer f n = none) :
    tox.forget f = tox := by
  refine ext_getTransfer rfl rfl ?_
  intro f' n
  rw [getTransfer_forget]
  split
  · next hf =>
    rw [hf, h n]
  · rfl

theorem asNeverBefore {tox : NewTox} {f : UInt32} (h : ∀ n, tox.getTransfer f n = none) :
    AsNeverBefore tox f where
  send lg kind size name cause := by rw [forget_eq_self h]
  receive n size name cause := by rw [forget_eq_self h]
  reusable n := slotReusable_iff.mpr (h _)

end NewTox

section

variable {Tox : Type} {core : Toxcore Tox} {c c' : Client Tox} {f : UInt32}

theorem ClientCall.run_none {call : ClientCall} {actions : List Action}
    (hrun : call.run core c = .ok (c', actions)) (hoffers : ¬ call.Offers f)
    (h : ∀ n, c.tox.getTransfer f n = none) :
    (∀ n, c'.tox.getTransfer f n = none) ∧ ∀ e, .event e ∈ actions → e.friend ≠ some f := by
  cases call with
  | file lg call =>
    simp only [ClientCall.run, Checked.bind_eq_ok, Checked.pure_eq_ok, Prod.exists,
      Prod.mk.injEq] at hrun
    obtain ⟨tox, out, hcall, rfl, rfl⟩ := hrun
    exact Call.run_none hcall hoffers h
  | friends call =>
    simp only [ClientCall.run, Checked.bind_eq_ok, Checked.pure_eq_ok, Prod.mk.injEq] at hrun
    obtain ⟨legacy, -, rfl, rfl⟩ := hrun
    exact ⟨h, by simp⟩

/-- A friend without transfers has none until one is offered. -/
theorem client_run_none {calls : List ClientCall} (hrun : Run (ClientStep core) c calls c')
    (hoffers : ∀ call ∈ calls, ¬ call.Offers f) (h : ∀ n, c.tox.getTransfer f n = none) :
    ∀ n, c'.tox.getTransfer f n = none := by
  induction hrun with
  | nil => exact h
  | snoc _ hstep ih =>
    simp only [List.mem_append, List.mem_singleton] at hoffers
    obtain ⟨actions, hcall⟩ := hstep
    have hmid := ih fun call hmem => hoffers call (.inl hmem)
    exact (ClientCall.run_none hcall (hoffers _ (.inr rfl)) hmid).1

/-- Deleting a friend ends the transfers of the friend exactly when there were none. -/
theorem delete_ends_transfers_iff {e : ErrFriendDelete}
    (hdelete : c.friendDelete core f = .ok ((true, e), c')) :
    EndsTransfers core f c' ↔ ∀ n, c.tox.getTransfer f n = none := by
  have htox : c'.tox = c.tox := by
    simp only [Client.friendDelete, Checked.bind_eq_ok, Checked.pure_eq_ok, Prod.exists,
      Prod.mk.injEq] at hdelete
    obtain ⟨_, _, legacy, -, -, rfl⟩ := hdelete
    rfl
  rw [← htox]
  constructor
  · intro h
    exact (h [] c' .nil (by simp)).1
  · intro h calls s hrun hoffers
    have hnone := client_run_none hrun hoffers h
    refine ⟨hnone, ?_, NewTox.asNeverBefore hnone⟩
    intro call s' actions hoffer hcall
    exact (ClientCall.run_none hcall hoffer hnone).2

/-- The friend 0, without transfers and with a file that is sent to it. -/
def befriended (tox : NewTox) : Client FriendTable := { legacy := { friends := [0] }, tox }

theorem befriended_delete (tox : NewTox) :
    (befriended tox).friendDelete FriendTable.core 0 =
      .ok ((true, .ok), { legacy := {}, tox }) := by
  rfl

/-- A friend who never sent or received a file is deleted. -/
theorem delete_ends_transfers_none : EndsTransfers FriendTable.core 0 { legacy := {}, tox := {} } :=
  (delete_ends_transfers_iff (befriended_delete {})).mpr (NewTox.getTransfer_empty 0)

/-- A friend is deleted who was offered a file. -/
theorem delete_leaves_transfer : ∃ c',
    (befriended (NewTox.setTransfer {} 0 0 { cause := .initial, fileSize := 10 })).friendDelete
        FriendTable.core 0 = .ok ((true, .ok), c') ∧ ¬ EndsTransfers FriendTable.core 0 c' := by
  refine ⟨_, befriended_delete _, ?_⟩
  intro h
  have hnone := (h [] _ .nil (by simp)).1 0
  rw [NewTox.getTransfer_setTransfer_self] at hnone
  cases hnone

end

end Tox4j.Adapter
