import Tox4j.Adapter.Channel

/-!
# Every transfer delivers its file in order

`Ok` is kept by everything that can happen to a transfer.
-/

namespace Tox4j.Adapter

namespace Channel

theorem consecutive_append {position : ℕ} {chunks : List (UInt64 × List UInt8)} {start : UInt64}
    {data : List UInt8} : Consecutive position (chunks ++ [(start, data)]) ↔
      Consecutive position chunks ∧
        start.toNat = position + (chunks.flatMap Prod.snd).length := by
  induction chunks generalizing position with
  | nil => simp [Consecutive]
  | cons chunk chunks ih =>
    simp only [List.cons_append, Consecutive, ih, List.flatMap_cons, List.length_append]
    rw [and_assoc, Nat.add_assoc]

/-- Bytes of the file at the end of what was sent extend what was sent. -/
theorem prefix_extend {sent data content : List UInt8} (hsent : sent <+: content)
    (hdata : data <+: content.drop sent.length) : sent ++ data <+: content := by
  obtain ⟨rest, rfl⟩ := hsent
  rw [List.drop_left] at hdata
  exact (List.prefix_append_right_inj sent).mpr hdata

theorem toNat_advance {t : FileTransfer} {n : ℕ} (h : t.position.toNat + n < 2 ^ 64) :
    (t.advance (UInt64.ofNat n)).position.toNat = t.position.toNat + n := by
  simp only [FileTransfer.advance, UInt64.toNat_add, UInt64.toNat_ofNat']
  omega

theorem RequestsOf.nil {t : FileTransfer} : RequestsOf t [] where
  length_le := Nat.zero_le _
  pending h := absurd rfl h
  within := by simp

theorem RequestsOf.remove {t : FileTransfer} {request : UInt64 × UInt64}
    {before after : List (UInt64 × UInt64)} (h : RequestsOf t (before ++ request :: after)) :
    before = [] ∧ after = [] := by
  have hlen := h.length_le
  simp only [List.length_append, List.length_cons] at hlen
  exact ⟨List.length_eq_zero_iff.mp (by omega), List.length_eq_zero_iff.mp (by omega)⟩

theorem RequestsOf.eq_nil {t : FileTransfer} {requests : List (UInt64 × UInt64)}
    (h : RequestsOf t requests) (hpending : t.eventPending = false) : requests = [] := by
  by_contra hne
  rw [h.pending hne] at hpending
  cases hpending

theorem ok_empty : Ok {} where
  fresh _ := rfl
  size _ h := by cases h
  sent_initial _ h := by cases h
  outgoing _ _ h := by cases h
  offer _ h := by cases h
  offers := Nat.zero_le _
  incoming _ h := by cases h
  consecutive := trivial

section

variable {c : Channel}

/-- A transfer in progress has a file. -/
theorem Ok.file_of_ne (h : c.Ok) (hne : c ≠ {}) : ∃ content, c.file = some content :=
  Option.ne_none_iff_exists'.mp fun hnone => hne (h.fresh hnone)

theorem Ok.file_of_outgoing (h : c.Ok) {t : FileTransfer} (ht : c.outgoing = some t) :
    ∃ content, c.file = some content := by
  refine h.file_of_ne ?_
  rintro rfl
  cases ht

theorem Ok.send (h : c.Ok) {content : List UInt8} {t : FileTransfer} (hfile : c.file = none)
    (hsize : content.length < 2 ^ 64) (hpos : t.position = 0)
    (hfileSize : t.fileSize = UInt64.ofNat content.length) :
    Ok { c with
      file := some content, outgoing := some t,
      packets := c.packets ++ [.offer t.fileSize] } := by
  rw [h.fresh hfile]
  constructor
  · rintro ⟨⟩
  · rintro _ ⟨⟩
    exact hsize
  · rintro _ ⟨⟩
    exact List.nil_prefix
  · rintro _ _ ⟨⟩ ⟨⟩
    refine ⟨?_, by rw [hpos]; rfl, .nil⟩
    rw [hfileSize, UInt64.toNat_ofNat']
    exact Nat.mod_eq_of_lt hsize
  · intro size _
    exact ⟨rfl, rfl⟩
  · exact Nat.le_refl 1
  · rintro _ ⟨⟩
  · trivial

theorem Ok.request (h : c.Ok) {t : FileTransfer} {length : UInt64} (ht : c.outgoing = some t)
    (hpending : t.eventPending = false) (hlength : length ≤ t.fileSize - t.position) :
    Ok { c with
      outgoing := some { t with sizeRequested := length, eventPending := true },
      requests := c.requests ++ [(t.position, length)] } := by
  obtain ⟨content, hfile⟩ := h.file_of_outgoing ht
  refine { h with fresh := ?_, outgoing := ?_ }
  · intro hnone
    rw [show c.file = none from hnone] at hfile
    cases hfile
  · rintro content' t' hfile' ⟨⟩
    obtain ⟨hsize, hpos, hrequests⟩ := h.outgoing content' t hfile' ht
    refine ⟨hsize, hpos, ?_⟩
    rw [hrequests.eq_nil hpending]
    constructor
    · exact Nat.le_refl 1
    · exact fun _ => rfl
    · intro position length' hmem
      obtain ⟨rfl, rfl⟩ : position = t.position ∧ length' = length := by simpa using hmem
      exact ⟨rfl, hlength⟩

theorem Ok.answer (h : c.Ok) {content data : List UInt8} {t : FileTransfer}
    {position length : UInt64} {before after : List (UInt64 × UInt64)}
    (hfile : c.file = some content) (ht : c.outgoing = some t)
    (hreq : c.requests = before ++ (position, length) :: after)
    (hdata : data <+: content.drop position.toNat) :
    Ok { c with
      outgoing := some { t.advance (UInt64.ofNat data.length) with eventPending := false },
      packets := c.packets ++ [.data data], requests := before ++ after } := by
  obtain ⟨hsize, hpos, hrequests⟩ := h.outgoing content t hfile ht
  rw [hreq] at hrequests
  obtain ⟨rfl, -⟩ := hrequests.within position length (by simp)
  obtain ⟨rfl, rfl⟩ := hrequests.remove
  rw [hpos] at hdata
  have hprefix := prefix_extend (h.sent_initial content hfile) hdata
  have hlen := hprefix.length_le
  have hbound := h.size content hfile
  rw [List.length_append] at hlen
  -- the packet extends what was sent by the data
  have hsent : c.received ++ (c.packets ++ [ChannelPacket.data data]).flatMap ChannelPacket.bytes =
      c.sent ++ data := by
    simp [sent, ChannelPacket.bytes]
  constructor
  · intro hnone
    rw [show c.file = none from hnone] at hfile
    cases hfile
  · exact h.size
  · intro content' hfile'
    rw [show c.file = some content' from hfile'] at hfile
    cases hfile
    change c.received ++
      (c.packets ++ [ChannelPacket.data data]).flatMap ChannelPacket.bytes <+: content
    rwa [hsent]
  · rintro content' t' hfile' ⟨⟩
    rw [show c.file = some content' from hfile'] at hfile
    cases hfile
    refine ⟨hsize, ?_, .nil⟩
    have hadvance := toNat_advance (t := t) (n := data.length) (by omega)
    simp only at hadvance ⊢
    rw [hadvance, hpos]
    simp [sent, received, ChannelPacket.bytes]
    omega
  · intro size hmem
    refine h.offer size ?_
    simpa using hmem
  · simpa [ChannelPacket.isOffer] using h.offers
  · exact h.incoming
  · exact h.consecutive

theorem Ok.refuse (h : c.Ok) {request : UInt64 × UInt64} {before after : List (UInt64 × UInt64)}
    (hreq : c.requests = before ++ request :: after) :
    Ok { c with requests := before ++ after } := by
  refine { h with fresh := ?_, outgoing := ?_ }
  · intro hnone
    rw [h.fresh hnone] at hreq
    simp at hreq
  · intro content t hfile ht
    obtain ⟨hsize, hpos, hrequests⟩ := h.outgoing content t hfile ht
    rw [hreq] at hrequests
    obtain ⟨rfl, rfl⟩ := hrequests.remove
    exact ⟨hsize, hpos, .nil⟩

theorem Ok.accept (h : c.Ok) {t : FileTransfer} (ht : c.outgoing = some t) :
    Ok { c with outgoing := some { t with state := .running } } := by
  refine { h with fresh := ?_, outgoing := ?_ }
  · intro hnone
    rw [h.fresh hnone] at ht
    cases ht
  · rintro content t' hfile ⟨⟩
    obtain ⟨hsize, hpos, hrequests⟩ := h.outgoing content t hfile ht
    exact ⟨hsize, hpos, ⟨hrequests.length_le, hrequests.pending, hrequests.within⟩⟩

theorem Ok.finishOutgoing (h : c.Ok) : Ok { c with outgoing := none } :=
  { h with
    fresh := fun hnone => by simp [h.fresh hnone]
    outgoing := fun _ _ _ ht => by cases ht }

theorem Ok.finishIncoming (h : c.Ok) : Ok { c with incoming := none } :=
  { h with
    fresh := fun hnone => by simp [h.fresh hnone]
    offer := fun size hmem => ⟨rfl, (h.offer size hmem).2⟩
    incoming := fun _ ht => by cases ht }

theorem Ok.offerArrives (h : c.Ok) {size : UInt64} {packets : List ChannelPacket}
    {cause : PauseReason} (hpackets : c.packets = .offer size :: packets) :
    Ok { c with packets, incoming := some { cause, fileSize := size } } := by
  have hchunks := (h.offer size (by simp [hpackets])).2
  have hoffers := h.offers
  rw [hpackets, List.filter_cons_of_pos rfl, List.length_cons] at hoffers
  -- there is no other offer
  have hnone : ∀ size', .offer size' ∉ packets := by
    intro size' hmem
    have hpos : 0 < (packets.filter ChannelPacket.isOffer).length :=
      List.length_pos_of_mem (List.mem_filter.mpr ⟨hmem, rfl⟩)
    omega
  have hsent : Channel.sent { c with packets, incoming := some { cause, fileSize := size } } =
      c.sent := by
    simp [sent, received, hpackets, ChannelPacket.bytes]
  constructor
  · intro hfile
    rw [h.fresh hfile] at hpackets
    cases hpackets
  · exact h.size
  · rw [hsent]
    exact h.sent_initial
  · rw [hsent]
    exact h.outgoing
  · intro size' hmem
    exact absurd hmem (hnone size')
  · exact Nat.le_of_succ_le hoffers
  · rintro t ⟨⟩
    simp [received, hchunks]
  · exact h.consecutive

theorem Ok.receive (h : c.Ok) {t : FileTransfer} {data : List UInt8}
    {packets : List ChannelPacket} (hpackets : c.packets = .data data :: packets)
    (ht : c.incoming = some t) :
    Ok { c with
      packets, incoming := some (t.advance (UInt64.ofNat data.length)),
      chunks := c.chunks ++ [(t.position, data)] } := by
  obtain ⟨content, hfile⟩ := h.file_of_ne (c := c) (by rintro rfl; cases ht)
  obtain ⟨hpos, hpaused⟩ := h.incoming t ht
  -- the data moves from what is under way to what was received
  have hsent : Channel.sent { c with
      packets, incoming := some (t.advance (UInt64.ofNat data.length)),
      chunks := c.chunks ++ [(t.position, data)] } = c.sent := by
    simp [sent, received, hpackets, ChannelPacket.bytes]
  have hlen := (h.sent_initial content hfile).length_le
  have hbound := h.size content hfile
  have hsplit : c.sent.length = c.received.length +
      (data.length + (packets.flatMap ChannelPacket.bytes).length) := by
    simp [sent, hpackets, ChannelPacket.bytes]
  constructor
  · intro hnone
    rw [show c.file = none from hnone] at hfile
    cases hfile
  · exact h.size
  · rw [hsent]
    exact h.sent_initial
  · rw [hsent]
    exact h.outgoing
  · intro size hmem
    have hnone := (h.offer size (by rw [hpackets]; exact List.mem_cons_of_mem _ hmem)).1
    rw [ht] at hnone
    cases hnone
  · have hoffers := h.offers
    rw [hpackets] at hoffers
    simpa [ChannelPacket.isOffer] using hoffers
  · rintro t' ⟨⟩
    refine ⟨?_, hpaused⟩
    rw [toNat_advance (by omega), hpos]
    simp [received]
  · refine consecutive_append.mpr ⟨h.consecutive, ?_⟩
    rw [hpos, Nat.zero_add]
    rfl

end

/-- Everything that can happen to a transfer keeps it in order. -/
theorem Ok.step {c c' : Channel} (h : c.Ok) (hstep : Step c c') : c'.Ok := by
  cases hstep with
  | stay => exact h
  | send hfile hsize hpos hfileSize _ => exact h.send hfile hsize hpos hfileSize
  | request ht hpending hlength => exact h.request ht hpending hlength
  | answer hfile ht hreq _ hdata => exact h.answer hfile ht hreq hdata
  | refuse hreq => exact h.refuse hreq
  | accept ht => exact h.accept ht
  | finishOutgoing => exact h.finishOutgoing
  | finishIncoming => exact h.finishIncoming
  | offer cause hpackets _ => exact h.offerArrives hpackets
  | receive hpackets ht => exact h.receive hpackets ht

end Channel

end Tox4j.Adapter
