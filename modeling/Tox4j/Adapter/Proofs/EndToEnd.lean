import Tox4j.Adapter.EndToEnd
import Tox4j.Adapter.Proofs.Channel

/-!
# The system of two adapters refines its transfers

Each turn of the system is, for each transfer, one of the steps of `Channel.Step`. The turns
of one side touch a transfer as its sender or as its receiver; the direction bit keeps the two
roles apart under the same number of the legacy core.
-/

namespace Tox4j.Adapter

open Tox4j.Misc

@[simp] theorem Side.other_other (s : Side) : s.other.other = s := by cases s <;> rfl

@[simp] theorem Side.other_ne (s : Side) : s.other ≠ s := by cases s <;> decide

@[simp] theorem Side.ne_other (s : Side) : s ≠ s.other := s.other_ne.symm

theorem Side.eq_or_other (s a : Side) : s = a ∨ s = a.other := by
  cases s <;> cases a <;> decide

theorem Channel.Step.of_eq {c c' : Channel} (h : c' = c) : Channel.Step c c' := h ▸ .stay c

/-- Every transfer is with the one friend and has a number of either direction. -/
def KeysOf (f : UInt32) (tox : NewTox) : Prop :=
  ∀ f' num t, tox.getTransfer f' num = some t →
    f' = f ∧ ∃ n : UInt8, num = n.toUInt32 ∨ num = n.toUInt32 ||| 0x100

/-- The numbers in use: requests are for outgoing and offers for incoming transfers, and an ACCEPT
is for an outgoing transfer of the side it goes to. -/
structure System.Shape (friend : Side → UInt32) (sys : System) : Prop where
  keys : ∀ s, KeysOf (friend s) (sys.tox s)
  requests : ∀ s, ∀ r ∈ sys.requests s,
    r.length.toNat ≤ 65535 ∧ ∃ n : UInt8, r.fileNumber = n.toUInt32
  offers : ∀ s, ∀ num ∈ sys.offers s, ∃ n : UInt8, num = n.toUInt32 ||| 0x100
  accepts : ∀ s sendReceive n,
    Packet.control sendReceive n .accept ∈ sys.inFlight s → sendReceive = true

/-- The invariant of the system: the numbers are in order, and so is every transfer. -/
structure System.Ok (friend : Side → UInt32) (sys : System) : Prop where
  shape : sys.Shape friend
  channel : ∀ s n, (sys.channel friend s n).Ok

/-! ## What a turn does to the transfers of its side -/

section

variable {friend : Side → UInt32} {sys : System} {a : Side} {tox : NewTox}
  {actions : List Action} {n : UInt8}

/-- A side is the sender of the files it sends. -/
theorem channel_after_sender : (sys.after a tox actions).channel friend a n =
    { sys.channel friend a n with
      outgoing := tox.getTransfer (friend a) n.toUInt32
      packets := (sys.channel friend a n).packets ++
        (actions.filterMap Action.packet).filterMap (Packet.onChannel n)
      requests := (sys.channel friend a n).requests ++
        ((actions.filterMap Action.event?).filterMap Event.request).filterMap
          (Request.onChannel n) } := by
  simp [System.channel, System.after, System.chunksOf]

/-- A side is the receiver of the files the other side sends. -/
theorem channel_after_receiver : (sys.after a tox actions).channel friend a.other n =
    { sys.channel friend a.other n with
      incoming := tox.getTransfer (friend a) (n.toUInt32 ||| 0x100)
      chunks := (sys.channel friend a.other n).chunks ++
        ((actions.filterMap Action.event?).filterMap Event.chunk).filterMap (chunkOn n) } := by
  simp [System.channel, System.after, System.chunksOf]

/-- A turn that changes no transfer and sends only controls is no step of any transfer. -/
theorem channel_after_same {s : Side} (htox : tox = sys.tox a)
    (hpackets : (actions.filterMap Action.packet).filterMap (Packet.onChannel n) = [])
    (hrequests : ((actions.filterMap Action.event?).filterMap Event.request).filterMap
          (Request.onChannel n) = [])
    (hchunks : ((actions.filterMap Action.event?).filterMap Event.chunk).filterMap
      (chunkOn n) = []) :
    (sys.after a tox actions).channel friend s n = sys.channel friend s n := by
  subst htox
  rcases s.eq_or_other a with rfl | rfl
  · rw [channel_after_sender, hpackets, hrequests, List.append_nil, List.append_nil]
    rfl
  · rw [channel_after_receiver, hchunks, List.append_nil]
    ext1 <;> simp [System.channel]

theorem channel_store {s : Side} {m : UInt8} {content : List UInt8} :
    (sys.store a m content).channel friend s n =
      if s = a ∧ n = m then { sys.channel friend s n with file := some content }
      else sys.channel friend s n := by
  by_cases hs : s = a
  · subst hs
    by_cases hn : n = m
    · subst hn
      simp [System.channel, System.store, System.chunksOf]
    · simp [System.channel, System.store, System.chunksOf, hn]
  · simp [System.channel, System.store, System.chunksOf, hs]

theorem channel_answered_other {r : Request} :
    (sys.answered a r).channel friend a.other n = sys.channel friend a.other n := by
  simp [System.channel, System.answered, System.chunksOf]

theorem channel_delivered_sender :
    (sys.delivered a).channel friend a n = sys.channel friend a n := by
  simp [System.channel, System.delivered, System.chunksOf]

theorem channel_delivered_receiver {p : Packet} {ps : List Packet} (h : sys.inFlight a = p :: ps) :
    (sys.delivered a).channel friend a.other n =
      { sys.channel friend a.other n with packets := ps.filterMap (Packet.onChannel n) } := by
  simp [System.channel, System.delivered, System.chunksOf, h]

theorem channel_packets_receiver {p : Packet} {ps : List Packet} (h : sys.inFlight a = p :: ps) :
    (sys.channel friend a.other n).packets =
      (p.onChannel n).toList ++ ps.filterMap (Packet.onChannel n) := by
  simp only [System.channel, Side.other_other, h, List.filterMap_cons]
  cases p.onChannel n <;> rfl

end

/-! ## Each turn, for each transfer -/

section

variable {friend : Side → UInt32} {sys sys' : System} {a : Side} {lg : Legacy}

theorem send_refines {kind : FileKind} {content : List UInt8} {filename : Buffer}
    {cause : PauseReason}
    (hallowed : Turn.Allowed friend sys (a, lg, .send kind content filename cause))
    (hstep : sys.step friend (a, lg, .send kind content filename cause) = .ok sys')
    (s : Side) (n : UInt8) :
    Channel.Step (sys.channel friend s n) (sys'.channel friend s n) := by
  simp only [System.step, Checked.bind_eq_ok, Checked.pure_eq_ok, Prod.exists] at hstep
  obtain ⟨err, num, tox, actions, hsend, rfl⟩ := hstep
  rcases newToxFileSend_cases hsend with
    ⟨herr, -, rfl, rfl⟩ | ⟨m, rfl, rfl, hnum, hne, -, hfree, rfl, rfl⟩
  · rw [if_neg herr]
    exact .of_eq (channel_after_same rfl rfl rfl rfl)
  obtain ⟨-, hsize, hfresh⟩ := hallowed
  replace hfresh := hfresh.resolve_left hne
  rw [hnum, UInt8.toUInt8_toUInt32] at hfresh
  rw [if_pos rfl, UInt8.toUInt8_toUInt32, channel_store]
  rcases s.eq_or_other a with rfl | rfl
  · rw [channel_after_sender]
    by_cases hn : n = m
    · subst hn
      have hsent := Channel.Step.send (c := sys.channel friend s n)
        (t := { cause, fileSize := UInt64.ofNat content.length }) hfresh hsize rfl rfl rfl
      simpa [List.filterMap_cons, Action.packet, Packet.onChannel, Action.event?] using hsent
    · have hkey : m.toUInt32 ≠ n.toUInt32 :=
        fun heq => hn (FileTransfer.toUInt32_injective heq).symm
      refine .of_eq ?_
      rw [if_neg fun h => hn h.2, NewTox.getTransfer_setTransfer_ne _ _ hkey]
      simp [Action.packet, Packet.onChannel, Action.event?, Ne.symm hn, System.channel]
  · refine .of_eq ?_
    rw [if_neg fun h => Side.other_ne _ h.1, channel_after_receiver,
      NewTox.getTransfer_setTransfer_ne _ _ (FileTransfer.toUInt32_ne_or_256 m n)]
    simp [Action.event?, System.channel]

theorem resume_refines {num : UInt32}
    (hstep : sys.step friend (a, lg, .resume num) = .ok sys') (s : Side) (n : UInt8) :
    Channel.Step (sys.channel friend s n) (sys'.channel friend s n) := by
  simp only [System.step, Checked.bind_eq_ok, Checked.pure_eq_ok, Prod.exists] at hstep
  obtain ⟨err, tox, actions, hcontrol, rfl⟩ := hstep
  obtain ⟨rfl, rfl | ⟨control, -, rfl⟩⟩ := newToxFileControl_cases hcontrol
  · exact .of_eq (channel_after_same rfl rfl rfl rfl)
  · exact .of_eq (channel_after_same rfl rfl rfl rfl)

/-- An iteration sends nothing. -/
theorem afterToxDo_packets (lg : Legacy) (tox : NewTox) :
    (afterToxDo lg tox).2.filterMap Action.packet = [] := by
  refine List.filterMap_eq_nil_iff.mpr fun x hx => ?_
  rcases mem_afterToxDo hx with ⟨status, rfl⟩ | ⟨f, n, t, -, -, rfl⟩ <;> rfl

/-- An iteration reports no chunks. -/
theorem afterToxDo_chunks (lg : Legacy) (tox : NewTox) :
    ((afterToxDo lg tox).2.filterMap Action.event?).filterMap Event.chunk = [] := by
  rw [List.filterMap_filterMap]
  refine List.filterMap_eq_nil_iff.mpr fun x hx => ?_
  rcases mem_afterToxDo hx with ⟨status, rfl⟩ | ⟨f, n, t, -, -, rfl⟩ <;> rfl

/-- The requests an iteration raises for one outgoing transfer. -/
theorem afterToxDo_requests {tox : NewTox} {f : UInt32} (n : UInt8)
    (hkeys : ∀ f' n' t, tox.getTransfer f' n' = some t → f' = f) :
    (((afterToxDo lg tox).2.filterMap Action.event?).filterMap Event.request).filterMap
        (Request.onChannel n) =
      (tox.getTransfer f n.toUInt32).toList.flatMap fun t =>
        if t.Due ∧ requestSize lg f t ≠ 0 then [(t.position, requestSize lg f t)] else [] := by
  rw [List.filterMap_filterMap, List.filterMap_filterMap,
    filterMap_afterToxDo (f := f) (n := n.toUInt32) (fun _ => rfl)]
  · congr 1
    funext t
    by_cases hdue : t.Due
    · rw [requestChunk_due lg _ hdue]
      by_cases hzero : requestSize lg f t = 0
      · simp [hzero, Action.event?, Event.request]
      · simp [hzero, hdue, Action.event?, Event.request, Request.onChannel]
    · simp [requestChunk_not_due lg _ hdue, hdue]
  · intro f' n' t ht hne
    obtain rfl := hkeys f' n' t ht
    have hn : n' ≠ n.toUInt32 := fun heq => hne (by rw [heq])
    by_cases hzero : requestSize lg f' t = 0
    · simp [hzero, Action.event?, Event.request]
    · simp [hzero, Action.event?, Event.request, Request.onChannel, hn]

/-- A paused transfer is not asked for. -/
theorem requestChunk_paused (key : UInt32 × UInt32) {t : FileTransfer} (h : t.state = .paused) :
    requestChunk lg key t = (t, []) := by
  refine requestChunk_not_due lg key fun hdue => ?_
  rw [hdue.2.1] at h
  cases h

theorem requestSize_ne_zero {f : UInt32} {t : FileTransfer} (hsize : 0 < (lg.fileDataSize f).toInt)
    (hdue : t.Due) : requestSize lg f t ≠ 0 := by
  intro hzero
  have hmin := toNat_requestSize lg f t
  have hdata := dataSize_of_pos hsize
  have hrest : (t.fileSize - t.position).toNat ≠ 0 := by
    intro h
    have h' : t.fileSize - t.position = 0 := UInt64.toNat_inj.mp h
    have hcancel := UInt64.sub_add_cancel t.fileSize t.position
    rw [h', UInt64.zero_add] at hcancel
    exact hdue.1 hcancel
  rw [hzero] at hmin
  have hz : (0 : UInt64).toNat = 0 := rfl
  omega

theorem requestSize_le_rest (lg : Legacy) (f : UInt32) (t : FileTransfer) :
    requestSize lg f t ≤ t.fileSize - t.position := by
  rw [UInt64.le_iff_toNat_le, toNat_requestSize]
  exact Nat.min_le_right _ _

theorem iterate_refines (h : sys.Ok friend) (hallowed : Turn.Allowed friend sys (a, lg, .iterate))
    (hstep : sys.step friend (a, lg, .iterate) = .ok sys') (s : Side) (n : UInt8) :
    Channel.Step (sys.channel friend s n) (sys'.channel friend s n) := by
  simp only [System.step, Except.ok.injEq] at hstep
  subst hstep
  rcases s.eq_or_other a with rfl | rfl
  · rw [channel_after_sender, afterToxDo_packets, getTransfer_afterToxDo,
      afterToxDo_requests n fun f' n' t ht => (h.shape.keys s f' n' t ht).1, List.filterMap_nil,
      List.append_nil]
    cases ht : (sys.tox s).getTransfer (friend s) n.toUInt32 with
    | none =>
      refine .of_eq ?_
      simp [System.channel, ht]
    | some t =>
      by_cases hdue : t.Due
      · have hsize : requestSize lg (friend s) t ≠ 0 :=
          requestSize_ne_zero (by have := hallowed.1; omega) hdue
        have hrequest := Channel.Step.request (c := sys.channel friend s n) ht hdue.2.2
          (requestSize_le_rest lg (friend s) t)
        simpa [requestChunk_due lg _ hdue, hdue, hsize] using hrequest
      · refine .of_eq ?_
        simp [requestChunk_not_due lg _ hdue, hdue, System.channel, ht]
  · rw [channel_after_receiver, afterToxDo_chunks, getTransfer_afterToxDo, List.filterMap_nil,
      List.append_nil]
    refine .of_eq ?_
    -- incoming transfers are never running
    cases ht : (sys.tox a).getTransfer (friend a) (n.toUInt32 ||| 0x100) with
    | none => ext1 <;> simp [System.channel, ht]
    | some t =>
      have hpaused := ((h.channel a.other n).incoming t (by simpa [System.channel] using ht)).2
      ext1 <;> simp [System.channel, ht, requestChunk_paused _ hpaused]

/-- The requests of one transfer, before and after an answer. -/
theorem channel_answered_sender (friend : Side → UInt32) {r : Request}
    (hmem : r ∈ sys.requests a) (n : UInt8) :
    ∃ before after, (sys.channel friend a n).requests = before ++ (r.onChannel n).toList ++ after ∧
      (sys.answered a r).channel friend a n =
        { sys.channel friend a n with requests := before ++ after } := by
  obtain ⟨before, after, -, hsplit, herase⟩ := List.exists_erase_eq hmem
  refine ⟨before.filterMap (Request.onChannel n), after.filterMap (Request.onChannel n), ?_, ?_⟩
  · rw [System.channel, hsplit, List.filterMap_append, List.filterMap_cons]
    cases r.onChannel n <;> simp
  · simp [System.channel, System.answered, System.chunksOf, herase]

/-- A chunk of at most 65535 bytes is sent whole. -/
theorem contents_take (data : List UInt8) (h : data.length ≤ 65535) :
    (Buffer.bytes data).contents.take (Buffer.bytes data).length.toUInt16.toNat = data := by
  refine List.take_of_length_le ?_
  simp only [Buffer.length, Buffer.contents, UInt64.toNat_toUInt16, UInt64.toNat_ofNat']
  omega

/-- An answer that is refused takes the request away. -/
theorem answered_refines {r : Request} (hmem : r ∈ sys.requests a) (s : Side) (n : UInt8) :
    Channel.Step (sys.channel friend s n) ((sys.answered a r).channel friend s n) := by
  rcases s.eq_or_other a with rfl | rfl
  · obtain ⟨before, after, hreq, hanswered⟩ := channel_answered_sender friend hmem n
    rw [hanswered]
    cases hr : r.onChannel n with
    | none =>
      refine .of_eq ?_
      rw [hr] at hreq
      ext1 <;> simp [hreq]
    | some request =>
      have hsplit : (sys.channel friend s n).requests = before ++ request :: after := by
        rw [hreq, hr]
        simp
      exact .refuse hsplit
  · exact .of_eq channel_answered_other

/-- An answer leaves the transfers with other numbers alone. -/
theorem channel_answered_ne {r : Request} {m n : UInt8} (hmem : r ∈ sys.requests a)
    (hm : r.fileNumber = m.toUInt32) (hn : n ≠ m) :
    (sys.answered a r).channel friend a n = sys.channel friend a n := by
  obtain ⟨before, after, hreq, hanswered⟩ := channel_answered_sender friend hmem n
  have hkey : m.toUInt32 ≠ n.toUInt32 :=
    fun heq => hn (FileTransfer.toUInt32_injective heq).symm
  have hr : r.onChannel n = none := by rw [Request.onChannel, if_neg (hm ▸ hkey)]
  rw [hr] at hreq
  rw [hanswered]
  ext1 <;> simp [hreq]

section

variable {t : FileTransfer} {m n : UInt8} {f' : UInt32} {sr : Bool} {data : List UInt8}
  {complete : Prop} [Decidable complete]

/-- So does the chunk that is sent for it. -/
theorem channel_sent_ne (hn : n ≠ m) :
    (sys.after a ((sys.tox a).setTransfer (friend a) m.toUInt32 t)
        (.sendData f' m data :: if complete then [.sendControl f' sr m .finished] else [])).channel
      friend a n = sys.channel friend a n := by
  have hkey : m.toUInt32 ≠ n.toUInt32 :=
    fun heq => hn (FileTransfer.toUInt32_injective heq).symm
  rw [channel_after_sender, NewTox.getTransfer_setTransfer_ne _ _ hkey]
  ext1
  · rfl
  · rfl
  · rfl
  · split <;> simp [List.filterMap_cons, Action.packet, Packet.onChannel, Ne.symm hn]
  · split <;> simp [List.filterMap_cons, Action.event?]
  · rfl

/-- A chunk that is sent leaves the transfers from the other side alone. -/
theorem channel_sent_other :
    (sys.after a ((sys.tox a).setTransfer (friend a) m.toUInt32 t)
        (.sendData f' m data :: if complete then [.sendControl f' sr m .finished] else [])).channel
      friend a.other n = sys.channel friend a.other n := by
  rw [channel_after_receiver,
    NewTox.getTransfer_setTransfer_ne _ _ (FileTransfer.toUInt32_ne_or_256 m n)]
  ext1
  · rfl
  · rfl
  · simp [System.channel]
  · rfl
  · rfl
  · split <;> simp [List.filterMap_cons, Action.event?]

end

theorem answer_refines (h : sys.Ok friend) {r : Request} {data : List UInt8}
    (hallowed : Turn.Allowed friend sys (a, lg, .answer r data))
    (hstep : sys.step friend (a, lg, .answer r data) = .ok sys') (s : Side) (n : UInt8) :
    Channel.Step (sys.channel friend s n) (sys'.channel friend s n) := by
  obtain ⟨hmem, hne, hlength, hprefix⟩ := hallowed
  obtain ⟨hmax, m, hm⟩ := h.shape.requests a r hmem
  simp only [System.step, Checked.bind_eq_ok, Checked.pure_eq_ok, Prod.exists] at hstep
  obtain ⟨err, tox, actions, hchunk, rfl⟩ := hstep
  rw [hm] at hchunk
  rcases newToxFileSendChunk_cases hchunk with ⟨-, rfl, rfl⟩ | ⟨t, -, haccepted, hsend⟩
  · have hsame : ((sys.answered a r).after a (sys.tox a) []).channel friend s n =
        (sys.answered a r).channel friend s n := channel_after_same rfl rfl rfl rfl
    rw [hsame]
    exact answered_refines hmem s n
  obtain ⟨rfl, rfl⟩ := sendChunk_cases hsend
  have htake := contents_take data (by omega)
  rw [htake, FileTransfer.oldFileNumber_toUInt32]
  rcases s.eq_or_other a with rfl | rfl
  · by_cases hn : n = m
    · subst hn
      rw [channel_after_sender]
      obtain ⟨before, after, hreq, hanswered⟩ := channel_answered_sender friend hmem n
      obtain ⟨content, hfile⟩ := (h.channel s n).file_of_outgoing (t := t) haccepted.transfer
      have hdata : data <+: content.drop r.position.toNat := by
        rw [hm, UInt8.toUInt8_toUInt32] at hprefix
        rw [show sys.files s n = some content from hfile] at hprefix
        exact hprefix
      have hreq' : (sys.channel friend s n).requests =
          before ++ (r.position, r.length) :: after := by
        rw [hreq, Request.onChannel, if_pos hm]
        simp
      have hanswer := Channel.Step.answer hfile haccepted.transfer hreq' hlength hdata
      rw [hanswered, NewTox.getTransfer_setTransfer_self]
      split <;> simpa [List.filterMap_cons, Action.packet, Packet.onChannel, Action.event?,
        Buffer.length] using hanswer
    · exact .of_eq ((channel_sent_ne hn).trans (channel_answered_ne hmem hm hn))
  · exact .of_eq (channel_sent_other.trans channel_answered_other)

/-- A delivery that leaves the outgoing transfer alone and sends only controls. -/
theorem delivered_sender_same {tox : NewTox} {actions : List Action} {n : UInt8}
    (houtgoing : tox.getTransfer (friend a) n.toUInt32 =
      (sys.tox a).getTransfer (friend a) n.toUInt32)
    (hpackets : (actions.filterMap Action.packet).filterMap (Packet.onChannel n) = [])
    (hrequests : ((actions.filterMap Action.event?).filterMap Event.request).filterMap
      (Request.onChannel n) = []) :
    ((sys.delivered a).after a tox actions).channel friend a n = sys.channel friend a n := by
  rw [channel_after_sender, channel_delivered_sender, hpackets, hrequests, houtgoing,
    List.append_nil, List.append_nil]
  rfl

/-- A delivery of something that does not concern an incoming transfer. -/
theorem delivered_receiver_same {tox : NewTox} {actions : List Action} {n : UInt8} {p : Packet}
    {ps : List Packet} (hp : sys.inFlight a = p :: ps) (hon : p.onChannel n = none)
    (hincoming : tox.getTransfer (friend a) (n.toUInt32 ||| 0x100) =
      (sys.tox a).getTransfer (friend a) (n.toUInt32 ||| 0x100))
    (hchunks : ((actions.filterMap Action.event?).filterMap Event.chunk).filterMap
      (chunkOn n) = []) :
    ((sys.delivered a).after a tox actions).channel friend a.other n =
      sys.channel friend a.other n := by
  rw [channel_after_receiver, channel_delivered_receiver hp, hchunks, hincoming]
  ext1 <;> simp [System.channel, hp, hon]

/-- The steps for an offer that arrives. -/
theorem deliver_sendRequest_refines {m : UInt8} {size : UInt64} {name : List UInt8}
    {ps : List Packet} {cause : PauseReason} {tox : NewTox} {actions : List Action}
    (hp : sys.inFlight a = .sendRequest m size name :: ps)
    (hcb : CB.fileSendRequest (sys.tox a) (friend a) m size name cause = .ok (tox, actions))
    (s : Side) (n : UInt8) :
    Channel.Step (sys.channel friend s n)
      (((sys.delivered a).after a tox actions).channel friend s n) := by
  obtain ⟨hnone, rfl, rfl⟩ := fileSendRequest_eq_ok.mp hcb
  rcases s.eq_or_other a with rfl | rfl
  · refine .of_eq (delivered_sender_same ?_ rfl rfl)
    exact NewTox.getTransfer_setTransfer_ne _ _ (FileTransfer.toUInt32_ne_or_256 n m).symm
  by_cases hn : n = m
  · subst hn
    have hpackets : (sys.channel friend a.other n).packets =
        .offer size :: ps.filterMap (Packet.onChannel n) := by
      rw [channel_packets_receiver hp]
      simp [Packet.onChannel]
    have hincoming : (sys.channel friend a.other n).incoming = none := by
      simpa [System.channel] using hnone
    have hoffer := Channel.Step.offer cause hpackets hincoming
    rw [channel_after_receiver, channel_delivered_receiver hp,
      NewTox.getTransfer_setTransfer_self]
    simpa [List.filterMap_cons, Action.event?, Event.chunk] using hoffer
  · refine .of_eq (delivered_receiver_same hp ?_ ?_ rfl)
    · exact if_neg (Ne.symm hn)
    · exact NewTox.getTransfer_setTransfer_ne _ _
        fun heq => hn (FileTransfer.or_256_injective heq).symm

/-- The steps for data that arrives. -/
theorem deliver_data_refines {m : UInt8} {data : List UInt8} {ps : List Packet} {tox : NewTox}
    {actions : List Action} (hp : sys.inFlight a = .data m data :: ps)
    (hcb : CB.fileData (sys.tox a) lg (friend a) m data = .ok (tox, actions))
    (s : Side) (n : UInt8) :
    Channel.Step (sys.channel friend s n)
      (((sys.delivered a).after a tox actions).channel friend s n) := by
  obtain ⟨t, ht, rfl, rfl⟩ := fileData_cases hcb
  rcases s.eq_or_other a with rfl | rfl
  · refine .of_eq (delivered_sender_same ?_ ?_ ?_)
    · exact NewTox.getTransfer_setTransfer_ne _ _ (FileTransfer.toUInt32_ne_or_256 n m).symm
    · split <;> rfl
    · split <;> rfl
  by_cases hn : n = m
  · subst hn
    have hpackets : (sys.channel friend a.other n).packets =
        .data data :: ps.filterMap (Packet.onChannel n) := by
      rw [channel_packets_receiver hp]
      simp [Packet.onChannel]
    have hincoming : (sys.channel friend a.other n).incoming = some t := by
      simpa [System.channel] using ht
    have hreceive := Channel.Step.receive hpackets hincoming
    rw [channel_after_receiver, channel_delivered_receiver hp,
      NewTox.getTransfer_setTransfer_self]
    split <;> simpa [List.filterMap_cons, Action.event?, Event.chunk, chunkOn] using hreceive
  · refine .of_eq (delivered_receiver_same hp ?_ ?_ ?_)
    · exact if_neg (Ne.symm hn)
    · exact NewTox.getTransfer_setTransfer_ne _ _
        fun heq => hn (FileTransfer.or_256_injective heq).symm
    · have hkey : m.toUInt32 ||| 0x100 ≠ n.toUInt32 ||| 0x100 :=
        fun heq => hn (FileTransfer.or_256_injective heq).symm
      split <;> simp [List.filterMap_cons, Action.event?, Event.chunk, chunkOn, hkey]

/-- A request for 0 bytes needs no answer. -/
theorem request_zero (f num : UInt32) (position : UInt64) :
    Event.request (.fileRequestChunk f num position 0) = none := by
  simp [Event.request]

/-- The steps for a control that arrives. -/
theorem deliver_control_refines (h : sys.Ok friend) {sr : Bool} {m : UInt8} {code : LegacyControl}
    {ps : List Packet} {tox : NewTox} {actions : List Action}
    (hp : sys.inFlight a = .control sr m code :: ps)
    (hcb : CB.fileControl (sys.tox a) (friend a) sr.toUInt8 m code = .ok (tox, actions))
    (s : Side) (n : UInt8) :
    Channel.Step (sys.channel friend s n)
      (((sys.delivered a).after a tox actions).channel friend s n) := by
  have hsr : (sr.toUInt8 != 0) = sr := by cases sr <;> rfl
  obtain ⟨t, ht, hcontrol⟩ := fileControl_cases hcb
  rw [hsr] at ht hcontrol
  rcases hcontrol with ⟨rfl, rfl, rfl⟩ | ⟨rfl, rfl, rfl⟩
  · -- ACCEPT reaches the sender only
    obtain rfl := h.shape.accepts a sr m (by simp [hp])
    rw [FileTransfer.newFileNumber_true] at *
    rcases s.eq_or_other a with rfl | rfl
    · by_cases hn : n = m
      · subst hn
        have haccept := Channel.Step.accept (c := sys.channel friend s n) ht
        rw [channel_after_sender, channel_delivered_sender, NewTox.getTransfer_setTransfer_self]
        simpa [List.filterMap_cons, Action.packet, Action.event?, Event.request] using haccept
      · refine .of_eq (delivered_sender_same ?_ rfl rfl)
        exact NewTox.getTransfer_setTransfer_ne _ _
          fun heq => hn (FileTransfer.toUInt32_injective heq).symm
    · refine .of_eq (delivered_receiver_same hp rfl ?_ rfl)
      exact NewTox.getTransfer_setTransfer_ne _ _ (FileTransfer.toUInt32_ne_or_256 m n)
  · cases sr with
    | true =>
      rw [FileTransfer.newFileNumber_true] at *
      rcases s.eq_or_other a with rfl | rfl
      · by_cases hn : n = m
        · subst hn
          rw [channel_after_sender, channel_delivered_sender, NewTox.getTransfer_eraseTransfer,
            if_pos ⟨rfl, rfl⟩]
          simpa [List.filterMap_cons, Action.packet, Action.event?, request_zero] using
            Channel.Step.finishOutgoing (sys.channel friend s n)
        · refine .of_eq (delivered_sender_same ?_ rfl ?_)
          · rw [NewTox.getTransfer_eraseTransfer, if_neg]
            exact fun heq => hn (FileTransfer.toUInt32_injective heq.2).symm
          · simp [Action.event?, request_zero]
      · refine .of_eq (delivered_receiver_same hp rfl ?_ rfl)
        rw [NewTox.getTransfer_eraseTransfer, if_neg]
        exact fun heq => FileTransfer.toUInt32_ne_or_256 m n heq.2
    | false =>
      rw [FileTransfer.newFileNumber_false] at *
      rcases s.eq_or_other a with rfl | rfl
      · refine .of_eq (delivered_sender_same ?_ rfl ?_)
        · rw [NewTox.getTransfer_eraseTransfer, if_neg]
          exact fun heq => FileTransfer.toUInt32_ne_or_256 n m heq.2.symm
        · simp [Action.event?, request_zero]
      · by_cases hn : n = m
        · subst hn
          have hfinish := Channel.Step.finishIncoming (sys.channel friend a.other n)
          have hpackets : (sys.channel friend a.other n).packets =
              ps.filterMap (Packet.onChannel n) := channel_packets_receiver hp
          rw [channel_after_receiver, channel_delivered_receiver hp,
            NewTox.getTransfer_eraseTransfer, if_pos ⟨rfl, rfl⟩, ← hpackets]
          simpa [List.filterMap_cons, Action.event?, Event.chunk] using hfinish
        · refine .of_eq (delivered_receiver_same hp rfl ?_ rfl)
          rw [NewTox.getTransfer_eraseTransfer, if_neg]
          exact fun heq => hn (FileTransfer.or_256_injective heq.2).symm

/-- A delivery runs the callback for the oldest packet. -/
theorem deliver_eq_ok {cause : PauseReason}
    (hstep : sys.step friend (a, lg, .deliver cause) = .ok sys') :
    ∃ p ps tox actions, sys.inFlight a = p :: ps ∧
      (p.callback (friend a) cause).run (sys.tox a) lg = .ok (tox, actions) ∧
        (sys.delivered a).after a tox actions = sys' := by
  simp only [System.step] at hstep
  split at hstep
  · cases hstep
  · next p ps hp =>
    simp only [Checked.bind_eq_ok, Checked.pure_eq_ok, Prod.exists] at hstep
    obtain ⟨tox, actions, hcb, rfl⟩ := hstep
    exact ⟨p, ps, tox, actions, hp, hcb, rfl⟩

theorem deliver_refines (h : sys.Ok friend) {cause : PauseReason}
    (hstep : sys.step friend (a, lg, .deliver cause) = .ok sys') (s : Side) (n : UInt8) :
    Channel.Step (sys.channel friend s n) (sys'.channel friend s n) := by
  obtain ⟨p, ps, tox, actions, hp, hcb, rfl⟩ := deliver_eq_ok hstep
  cases p with
  | sendRequest m size name => exact deliver_sendRequest_refines hp hcb s n
  | control sr m code => exact deliver_control_refines h hp hcb s n
  | data m data => exact deliver_data_refines hp hcb s n

/-- Every turn of the system is a step of every transfer. -/
theorem step_refines (h : sys.Ok friend) {turn : Turn} (hallowed : turn.Allowed friend sys)
    (hstep : sys.step friend turn = .ok sys') (s : Side) (n : UInt8) :
    Channel.Step (sys.channel friend s n) (sys'.channel friend s n) := by
  obtain ⟨a, lg, move⟩ := turn
  cases move with
  | send kind content filename cause => exact send_refines hallowed hstep s n
  | iterate => exact iterate_refines h hallowed hstep s n
  | answer r data => exact answer_refines h hallowed hstep s n
  | resume num => exact resume_refines hstep s n
  | deliver cause => exact deliver_refines h hstep s n

end

/-! ## The numbers in use -/

theorem KeysOf.setTransfer {f : UInt32} {tox : NewTox} (h : KeysOf f tox) {num : UInt32}
    (hnum : ∃ n : UInt8, num = n.toUInt32 ∨ num = n.toUInt32 ||| 0x100) (t : FileTransfer) :
    KeysOf f (tox.setTransfer f num t) := by
  intro f' num' t' ht'
  rw [NewTox.getTransfer_setTransfer] at ht'
  split at ht'
  · rename_i hkey
    exact ⟨hkey.1.symm, hkey.2 ▸ hnum⟩
  · exact h f' num' t' ht'

theorem KeysOf.eraseTransfer {f : UInt32} {tox : NewTox} (h : KeysOf f tox) (num : UInt32) :
    KeysOf f (tox.eraseTransfer f num) := by
  intro f' num' t' ht'
  rw [NewTox.getTransfer_eraseTransfer] at ht'
  split at ht'
  · cases ht'
  · exact h f' num' t' ht'

theorem KeysOf.afterToxDo {f : UInt32} {tox : NewTox} (h : KeysOf f tox) (lg : Legacy) :
    KeysOf f (afterToxDo lg tox).1 := by
  intro f' num' t' ht'
  rw [getTransfer_afterToxDo, Option.map_eq_some_iff] at ht'
  obtain ⟨t, ht, -⟩ := ht'
  exact h f' num' t ht

section

variable {friend : Side → UInt32} {sys sys' : System} {a : Side} {lg : Legacy}

theorem shape_empty : System.Shape friend {} where
  keys _ f num t ht := by simp at ht
  requests _ r hr := by cases hr
  offers _ num hnum := by cases hnum
  accepts _ sr n hmem := by cases hmem

/-- The numbers stay in order when those of the new transfers, requests, offers and ACCEPTs of
    a turn are. -/
theorem Shape.after (h : sys.Shape friend) {tox : NewTox} {actions : List Action}
    (hkeys : KeysOf (friend a) tox)
    (hrequests : ∀ r ∈ (actions.filterMap Action.event?).filterMap Event.request,
      r.length.toNat ≤ 65535 ∧ ∃ n : UInt8, r.fileNumber = n.toUInt32)
    (hoffers : ∀ num ∈ (actions.filterMap Action.event?).filterMap Event.offer,
      ∃ n : UInt8, num = n.toUInt32 ||| 0x100)
    (haccepts : ∀ sr n, Packet.control sr n .accept ∈ actions.filterMap Action.packet →
      sr = true) :
    (sys.after a tox actions).Shape friend := by
  constructor
  · intro s
    rcases s.eq_or_other a with rfl | rfl
    · simpa [System.after] using hkeys
    · simpa [System.after] using h.keys a.other
  · intro s r hr
    rcases s.eq_or_other a with rfl | rfl
    · simp only [System.after, Function.update_self, List.mem_append] at hr
      exact hr.elim (h.requests s r) (hrequests r)
    · exact h.requests a.other r (by simpa [System.after] using hr)
  · intro s num hnum
    rcases s.eq_or_other a with rfl | rfl
    · simp only [System.after, Function.update_self, List.mem_append] at hnum
      exact hnum.elim (h.offers s num) (hoffers num)
    · exact h.offers a.other num (by simpa [System.after] using hnum)
  · intro s sr n hmem
    rcases s.eq_or_other a with rfl | rfl
    · exact h.accepts s sr n (by simpa [System.after] using hmem)
    · simp only [System.after, Function.update_self, List.mem_append] at hmem
      exact hmem.elim (h.accepts a.other sr n) (haccepts sr n)

/-- Nothing is added to what waits for a client or is under way. -/
theorem Shape.sub (h : sys.Shape friend) (htox : sys'.tox = sys.tox)
    (hrequests : ∀ s, sys'.requests s ⊆ sys.requests s)
    (hoffers : ∀ s, sys'.offers s ⊆ sys.offers s)
    (hinFlight : ∀ s, sys'.inFlight s ⊆ sys.inFlight s) : sys'.Shape friend where
  keys := htox ▸ h.keys
  requests s r hr := h.requests s r (hrequests s hr)
  offers s num hnum := h.offers s num (hoffers s hnum)
  accepts s sr n hmem := h.accepts s sr n (hinFlight s hmem)

theorem Shape.store (h : sys.Shape friend) (n : UInt8) (content : List UInt8) :
    (sys.store a n content).Shape friend :=
  Shape.sub h rfl (fun _ => List.Subset.refl _) (fun _ => List.Subset.refl _)
    fun _ => List.Subset.refl _

theorem Shape.answered (h : sys.Shape friend) (r : Request) :
    (sys.answered a r).Shape friend := by
  refine Shape.sub h rfl (fun s => ?_) (fun _ => List.Subset.refl _) fun _ => List.Subset.refl _
  rcases s.eq_or_other a with rfl | rfl
  · simpa [System.answered] using List.erase_subset
  · simp [System.answered]

theorem Shape.resumed (h : sys.Shape friend) (num : UInt32) :
    (sys.resumed a num).Shape friend := by
  refine Shape.sub h rfl (fun _ => List.Subset.refl _) (fun s => ?_) fun _ => List.Subset.refl _
  rcases s.eq_or_other a with rfl | rfl
  · simpa [System.resumed] using List.erase_subset
  · simp [System.resumed]

theorem Shape.delivered (h : sys.Shape friend) : (sys.delivered a).Shape friend := by
  refine Shape.sub h rfl (fun _ => List.Subset.refl _) (fun _ => List.Subset.refl _) fun s => ?_
  rcases s.eq_or_other a with rfl | rfl
  · simpa [System.delivered] using List.tail_subset _
  · simp [System.delivered]

theorem send_shape (h : sys.Shape friend) {kind : FileKind} {content : List UInt8}
    {filename : Buffer} {cause : PauseReason}
    (hstep : sys.step friend (a, lg, .send kind content filename cause) = .ok sys') :
    sys'.Shape friend := by
  simp only [System.step, Checked.bind_eq_ok, Checked.pure_eq_ok, Prod.exists] at hstep
  obtain ⟨err, num, tox, actions, hsend, rfl⟩ := hstep
  rcases newToxFileSend_cases hsend with
    ⟨herr, -, rfl, rfl⟩ | ⟨m, rfl, rfl, -, -, -, -, rfl, rfl⟩
  · rw [if_neg herr]
    exact Shape.after h (h.keys a) (by simp) (by simp) (by simp)
  · rw [if_pos rfl]
    refine Shape.store (Shape.after h ?_ ?_ ?_ ?_) _ _
    · exact KeysOf.setTransfer (h.keys a) ⟨m, .inl rfl⟩ _
    · simp [List.filterMap_cons, Action.event?]
    · simp [List.filterMap_cons, Action.event?]
    · simp [Action.packet]

theorem requestSize_le_dataSize (lg : Legacy) (f : UInt32) (t : FileTransfer) :
    (requestSize lg f t).toNat ≤ (lg.dataSize f).toNat := by
  rw [toNat_requestSize]
  exact Nat.min_le_left _ _

theorem iterate_shape (h : sys.Ok friend) (hallowed : Turn.Allowed friend sys (a, lg, .iterate))
    (hstep : sys.step friend (a, lg, .iterate) = .ok sys') : sys'.Shape friend := by
  simp only [System.step, Except.ok.injEq] at hstep
  subst hstep
  refine Shape.after h.shape ?_ ?_ ?_ ?_
  · exact KeysOf.afterToxDo (h.shape.keys a) lg
  · intro r hr
    simp only [List.mem_filterMap] at hr
    obtain ⟨e, ⟨x, hx, hxe⟩, her⟩ := hr
    rcases mem_afterToxDo hx with ⟨status, rfl⟩ | ⟨f, num, t, ht, hdue, rfl⟩
    · cases hxe
      cases her
    cases hxe
    simp only [Event.request, Option.ite_none_left_eq_some, Option.some.injEq] at her
    obtain ⟨-, rfl⟩ := her
    obtain ⟨rfl, n, hnum⟩ := h.shape.keys a f num t ht
    refine ⟨?_, n, hnum.resolve_right ?_⟩
    · have hle := requestSize_le_dataSize lg (friend a) t
      obtain ⟨hlo, hhi⟩ := hallowed
      have hpos : 0 < (lg.fileDataSize (friend a)).toInt := by omega
      have hdata := dataSize_of_pos hpos
      simp only
      omega
    · -- incoming transfers are not due
      rintro rfl
      have hpaused := ((h.channel a.other n).incoming t (by simpa [System.channel] using ht)).2
      rw [hdue.2.1] at hpaused
      cases hpaused
  · intro num hnum
    simp only [List.mem_filterMap] at hnum
    obtain ⟨e, ⟨x, hx, hxe⟩, her⟩ := hnum
    rcases mem_afterToxDo hx with ⟨status, rfl⟩ | ⟨f, num, t, ht, hdue, rfl⟩
    · cases hxe
      cases her
    · cases hxe
      cases her
  · rw [afterToxDo_packets]
    simp

theorem answer_shape (h : sys.Shape friend) {r : Request} {data : List UInt8}
    (hallowed : Turn.Allowed friend sys (a, lg, .answer r data))
    (hstep : sys.step friend (a, lg, .answer r data) = .ok sys') : sys'.Shape friend := by
  obtain ⟨-, m, hm⟩ := h.requests a r hallowed.1
  simp only [System.step, Checked.bind_eq_ok, Checked.pure_eq_ok, Prod.exists] at hstep
  obtain ⟨err, tox, actions, hchunk, rfl⟩ := hstep
  rw [hm] at hchunk
  rcases newToxFileSendChunk_cases hchunk with ⟨-, rfl, rfl⟩ | ⟨t, -, -, hsend⟩
  · exact Shape.after (Shape.answered h r) (h.keys a) (by simp) (by simp) (by simp)
  obtain ⟨rfl, rfl⟩ := sendChunk_cases hsend
  refine Shape.after (Shape.answered h r) ?_ ?_ ?_ ?_
  · exact KeysOf.setTransfer (h.keys a) ⟨m, .inl rfl⟩ _
  · split <;> simp [List.filterMap_cons, Action.event?]
  · split <;> simp [List.filterMap_cons, Action.event?]
  · split <;> simp [Action.packet]

theorem resume_shape (h : sys.Shape friend) {num : UInt32}
    (hallowed : Turn.Allowed friend sys (a, lg, .resume num))
    (hstep : sys.step friend (a, lg, .resume num) = .ok sys') : sys'.Shape friend := by
  obtain ⟨m, rfl⟩ := h.offers a num hallowed
  simp only [System.step, Checked.bind_eq_ok, Checked.pure_eq_ok, Prod.exists] at hstep
  obtain ⟨err, tox, actions, hcontrol, rfl⟩ := hstep
  obtain ⟨rfl, hactions⟩ := newToxFileControl_cases hcontrol
  refine Shape.after (Shape.resumed h _) (h.keys a) ?_ ?_ ?_
  · rcases hactions with rfl | ⟨control, -, rfl⟩ <;> simp [List.filterMap_cons, Action.event?]
  · rcases hactions with rfl | ⟨control, -, rfl⟩ <;> simp [List.filterMap_cons, Action.event?]
  · rcases hactions with rfl | ⟨control, -, rfl⟩
    · simp
    · -- a control about an incoming transfer
      simp +contextual [Action.packet, FileTransfer.sendReceive_or_256]

theorem deliver_shape (h : sys.Shape friend) {cause : PauseReason}
    (hstep : sys.step friend (a, lg, .deliver cause) = .ok sys') : sys'.Shape friend := by
  obtain ⟨p, ps, tox, actions, hp, hcb, rfl⟩ := deliver_eq_ok hstep
  cases p with
  | sendRequest m size name =>
    obtain ⟨-, rfl, rfl⟩ := fileSendRequest_eq_ok.mp hcb
    refine Shape.after (Shape.delivered h) (KeysOf.setTransfer (h.keys a) ⟨m, .inr rfl⟩ _) ?_ ?_ ?_
    · simp [List.filterMap_cons, Action.event?, Event.request]
    · intro num hnum
      exact ⟨m, by simpa [Action.event?, Event.offer] using hnum⟩
    · simp [Action.packet]
  | control sr m code =>
    obtain ⟨t, -, hcontrol⟩ := fileControl_cases hcb
    have hnum : ∃ n : UInt8, FileTransfer.newFileNumber (sr.toUInt8 != 0) m = n.toUInt32 ∨
        FileTransfer.newFileNumber (sr.toUInt8 != 0) m = n.toUInt32 ||| 0x100 := by
      cases sr
      · exact ⟨m, .inr (FileTransfer.newFileNumber_false m)⟩
      · exact ⟨m, .inl (FileTransfer.newFileNumber_true m)⟩
    rcases hcontrol with ⟨-, rfl, rfl⟩ | ⟨-, rfl, rfl⟩
    · refine Shape.after (Shape.delivered h) (KeysOf.setTransfer (h.keys a) hnum _) ?_ ?_ ?_
      · simp [List.filterMap_cons, Action.event?, Event.request]
      · simp [List.filterMap_cons, Action.event?, Event.offer]
      · simp [Action.packet]
    · refine Shape.after (Shape.delivered h) (KeysOf.eraseTransfer (h.keys a) _) ?_ ?_ ?_
      · simp [Action.event?, request_zero]
      · simp [List.filterMap_cons, Action.event?, Event.offer]
      · simp [Action.packet]
  | data m data =>
    obtain ⟨t, -, rfl, rfl⟩ := fileData_cases hcb
    refine Shape.after (Shape.delivered h) (KeysOf.setTransfer (h.keys a) ⟨m, .inr rfl⟩ _) ?_ ?_ ?_
    · split <;> simp [List.filterMap_cons, Action.event?, Event.request]
    · split <;> simp [List.filterMap_cons, Action.event?, Event.offer]
    · split <;> simp [Action.packet]

/-- The invariant is kept by every allowed turn. -/
theorem ok_step (h : sys.Ok friend) {turn : Turn} (hallowed : turn.Allowed friend sys)
    (hstep : sys.step friend turn = .ok sys') : sys'.Ok friend := by
  refine ⟨?_, fun s n => (h.channel s n).step (step_refines h hallowed hstep s n)⟩
  obtain ⟨a, lg, move⟩ := turn
  cases move with
  | send kind content filename cause => exact send_shape h.shape hstep
  | iterate => exact iterate_shape h hallowed hstep
  | answer r data => exact answer_shape h.shape hallowed hstep
  | resume num => exact resume_shape h.shape hallowed hstep
  | deliver cause => exact deliver_shape h.shape hstep

/-- The invariant holds in every reachable state. -/
theorem ok_of_reachable {turns : List Turn} (h : System.Reachable friend turns sys) :
    sys.Ok friend := by
  refine Run.invariant ?_ (fun _ _ _ hok hstep => ok_step hok hstep.1 hstep.2) h
  refine ⟨shape_empty, fun s n => ?_⟩
  have hempty : System.channel friend {} s n = {} := by
    simp [System.channel, System.chunksOf]
  rw [hempty]
  exact Channel.ok_empty

/-- What has been received of a file is a prefix of it. -/
theorem received_prefix {turns : List Turn} (h : System.Reachable friend turns sys) {s : Side}
    {n : UInt8} {content : List UInt8} (hfile : sys.files s n = some content) :
    (sys.chunksOf s n).flatMap Prod.snd <+: content := by
  have hprefix := ((ok_of_reachable h).channel s n).sent_initial content hfile
  exact (List.prefix_append _ _).trans hprefix

end

/-- In every reachable state and for every transfer, the chunks reported to the receiver so far
    are at consecutive positions, and together they are the first bytes of the file. -/
theorem chunks_consecutive (friend : Side → UInt32) {turns : List Turn} {sys : System}
    (h : System.Reachable friend turns sys) (s : Side) (n : UInt8) :
    Channel.Consecutive 0 (sys.chunksOf s n) ∧
      ∀ content, sys.files s n = some content →
        (sys.chunksOf s n).flatMap Prod.snd <+: content := by
  constructor
  · exact ((ok_of_reachable h).channel s n).consecutive
  · intro content hfile
    exact received_prefix h hfile

/-- A file of three bytes: the first request is answered with two bytes, the second one with
    the third. -/
def threeBytes : List Turn :=
  [(.alice, .oneFriend, .send .data [1, 2, 3] (.bytes [97]) .initial),
    (.bob, .oneFriend, .deliver .initial),
    (.bob, .oneFriend, .resume 0x100),
    (.alice, .oneFriend, .deliver .initial),
    (.alice, .oneFriend, .iterate),
    (.alice, .oneFriend, .answer { fileNumber := 0, position := 0, length := 3 } [1, 2]),
    (.alice, .oneFriend, .iterate),
    (.bob, .oneFriend, .deliver .initial),
    (.alice, .oneFriend, .answer { fileNumber := 0, position := 2, length := 1 } [3]),
    (.bob, .oneFriend, .deliver .initial)]

/-- The run of the three bytes reports them in two chunks. -/
theorem chunks_consecutive_threeBytes : ∃ sys, System.Reachable (fun _ => 0) threeBytes sys ∧
    sys.chunksOf .alice 0 = [(0, [1, 2]), (2, [3])] ∧
      Channel.Consecutive 0 (sys.chunksOf .alice 0) ∧
        ∀ content, sys.files .alice 0 = some content →
          (sys.chunksOf .alice 0).flatMap Prod.snd <+: content := by
  have h : (do
      let sys ← System.runTurns (fun _ => 0) {} threeBytes
      return sys.chunksOf .alice 0) = (.ok [(0, [1, 2]), (2, [3])] : Checked _) := by
    decide +kernel
  simp only [Checked.bind_eq_ok, Checked.pure_eq_ok] at h
  obtain ⟨sys, hrun, hchunks⟩ := h
  have hreach := reachable_of_runTurns _ hrun
  exact ⟨sys, hreach, hchunks, chunks_consecutive _ hreach .alice 0⟩

end Tox4j.Adapter
