import Tox4j.Adapter.Proofs.Exchange

/-!
# The turns of a core and clients that cooperate

Each turn of the system takes one transfer a step forward and leaves the others alone; an iteration
may ask for a chunk of each, and a file that is offered is a new transfer.
-/

namespace Tox4j.Adapter

open Tox4j.Misc

/-! ## What is about which transfer -/

/-- The file number under which side `a` knows the file that side `s` sends under a number of the
    core. -/
def fileNumberAt (a s : Side) (n : UInt8) : UInt32 :=
  if s = a then n.toUInt32 else n.toUInt32 ||| 0x100

@[simp] theorem fileNumberAt_self (a : Side) (n : UInt8) : fileNumberAt a a n = n.toUInt32 :=
  if_pos rfl

@[simp] theorem fileNumberAt_other (a : Side) (n : UInt8) :
    fileNumberAt a a.other n = n.toUInt32 ||| 0x100 := if_neg a.other_ne

theorem fileNumberAt_injective {a s s' : Side} {n n' : UInt8}
    (h : fileNumberAt a s n = fileNumberAt a s' n') : s = s' ∧ n = n' := by
  rcases s.eq_or_other a with hs | hs <;> rcases s'.eq_or_other a with hs' | hs' <;>
    rw [hs, hs'] at h ⊢
  · rw [fileNumberAt_self, fileNumberAt_self] at h
    exact ⟨rfl, FileTransfer.toUInt32_injective h⟩
  · rw [fileNumberAt_self, fileNumberAt_other] at h
    exact absurd h (FileTransfer.toUInt32_ne_or_256 n n')
  · rw [fileNumberAt_self, fileNumberAt_other] at h
    exact absurd h.symm (FileTransfer.toUInt32_ne_or_256 n' n)
  · rw [fileNumberAt_other, fileNumberAt_other] at h
    exact ⟨rfl, FileTransfer.or_256_injective h⟩

def Event.fileNumber? : Event → Option UInt32
  | .connectionStatus _ => none
  | .fileControl _ num _ | .fileRequestChunk _ num _ _ | .fileReceive _ num _ _ _
  | .fileReceiveChunk _ num _ _ => some num

/-- The file number that an action is about. -/
def Action.fileNumber? : Action → Option UInt32
  | .event e => e.fileNumber?
  | .newSender _ n _ _ | .sendData _ n _ => some n.toUInt32
  | .sendControl _ sendReceive n _ => some (FileTransfer.newFileNumber (!sendReceive) n)

/-- The file number under which a packet is known where it arrives. -/
def Packet.fileNumber : Packet → UInt32
  | .sendRequest n _ _ | .data n _ => n.toUInt32 ||| 0x100
  | .control sendReceive n _ => FileTransfer.newFileNumber sendReceive n

theorem Event.fileNumber?_of_request {e : Event} {r : Request} {n : UInt8} {x : UInt64 × UInt64}
    (h : e.request = some r) (hon : r.onChannel n = some x) : e.fileNumber? = some n.toUInt32 := by
  cases e with
  | fileRequestChunk f num position length =>
    simp only [Event.request, Option.ite_none_left_eq_some, Option.some.injEq] at h
    obtain ⟨-, rfl⟩ := h
    simp only [Request.onChannel, Option.ite_none_right_eq_some] at hon
    rw [Event.fileNumber?, hon.1]
  | _ => cases h

theorem Action.fileNumber?_of_forward {x : Action} {p : Packet} {n : UInt8} {y : Forward}
    (h : x.packet = some p) (hon : p.forward n = some y) : x.fileNumber? = some n.toUInt32 := by
  cases x with
  | event => cases h
  | newSender f m size name =>
    cases h
    simp only [Packet.forward, Option.ite_none_right_eq_some] at hon
    rw [Action.fileNumber?, hon.1]
  | sendControl f sendReceive m code =>
    cases h
    simp only [Packet.forward, Option.ite_none_right_eq_some] at hon
    obtain ⟨⟨rfl, rfl⟩, -⟩ := hon
    rw [Action.fileNumber?, Bool.not_false, FileTransfer.newFileNumber_true]
  | sendData f m data =>
    cases h
    simp only [Packet.forward, Option.ite_none_right_eq_some] at hon
    rw [Action.fileNumber?, hon.1]

theorem Action.fileNumber?_of_backward {x : Action} {p : Packet} {n : UInt8} {y : LegacyControl}
    (h : x.packet = some p) (hon : p.backward n = some y) :
    x.fileNumber? = some (n.toUInt32 ||| 0x100) := by
  cases x with
  | event => cases h
  | sendControl f sendReceive m code =>
    cases h
    simp only [Packet.backward, Option.ite_none_right_eq_some] at hon
    obtain ⟨⟨rfl, rfl⟩, -⟩ := hon
    rw [Action.fileNumber?, Bool.not_true, FileTransfer.newFileNumber_false]
  | newSender | sendData =>
    cases h
    cases hon

/-! ## The transfers of a side -/

section

variable {friend : Side → UInt32} {sys : System} {a s : Side} {tox : NewTox}
  {actions : List Action} {n : UInt8}

/-- What a call leaves behind of a file that its side sends. -/
theorem exchange_after_sender : (sys.after a tox actions).exchange friend a n =
    { sys.exchange friend a n with
      outgoing := tox.getTransfer (friend a) n.toUInt32
      forward := (sys.exchange friend a n).forward ++
        (actions.filterMap Action.packet).filterMap (Packet.forward n)
      requests := (sys.exchange friend a n).requests ++
        ((actions.filterMap Action.event?).filterMap Event.request).filterMap
          (Request.onChannel n) } := by
  simp [System.exchange, System.after, System.chunksOf]

/-- What a call leaves behind of a file that its side receives. -/
theorem exchange_after_receiver : (sys.after a tox actions).exchange friend a.other n =
    { sys.exchange friend a.other n with
      incoming := tox.getTransfer (friend a) (n.toUInt32 ||| 0x100)
      backward := (sys.exchange friend a.other n).backward ++
        (actions.filterMap Action.packet).filterMap (Packet.backward n)
      offers := (sys.exchange friend a.other n).offers +
        ((actions.filterMap Action.event?).filterMap Event.offer).count (n.toUInt32 ||| 0x100)
      received := (sys.exchange friend a.other n).received +
        ((((actions.filterMap Action.event?).filterMap Event.chunk).filterMap
          (chunkOn n)).flatMap Prod.snd).length } := by
  simp [System.exchange, System.after, System.chunksOf]

/-- A call leaves the transfers alone that it is not about. -/
theorem exchange_after_of_ne
    (htox : tox.getTransfer (friend a) (fileNumberAt a s n) =
      (sys.tox a).getTransfer (friend a) (fileNumberAt a s n))
    (hactions : ∀ x ∈ actions, x.fileNumber? ≠ some (fileNumberAt a s n)) :
    (sys.after a tox actions).exchange friend s n = sys.exchange friend s n := by
  have hevents : ∀ e ∈ actions.filterMap Action.event?,
      e.fileNumber? ≠ some (fileNumberAt a s n) := by
    intro e he
    obtain ⟨x, hx, hxe⟩ := List.mem_filterMap.mp he
    cases x with
    | event e' =>
      cases hxe
      exact hactions _ hx
    | _ => cases hxe
  rcases s.eq_or_other a with rfl | rfl
  · rw [fileNumberAt_self] at htox hactions hevents
    have hforward : (actions.filterMap Action.packet).filterMap (Packet.forward n) = [] := by
      refine List.filterMap_eq_nil_iff.mpr fun p hp => ?_
      obtain ⟨x, hx, hxp⟩ := List.mem_filterMap.mp hp
      by_contra hne
      obtain ⟨y, hy⟩ := Option.ne_none_iff_exists'.mp hne
      exact hactions x hx (Action.fileNumber?_of_forward hxp hy)
    have hrequests : ((actions.filterMap Action.event?).filterMap Event.request).filterMap
        (Request.onChannel n) = [] := by
      refine List.filterMap_eq_nil_iff.mpr fun r hr => ?_
      obtain ⟨e, he, her⟩ := List.mem_filterMap.mp hr
      by_contra hne
      obtain ⟨y, hy⟩ := Option.ne_none_iff_exists'.mp hne
      exact hevents e he (Event.fileNumber?_of_request her hy)
    rw [exchange_after_sender, hforward, hrequests, htox, List.append_nil, List.append_nil]
    rfl
  · rw [fileNumberAt_other] at htox hactions hevents
    have hbackward : (actions.filterMap Action.packet).filterMap (Packet.backward n) = [] := by
      refine List.filterMap_eq_nil_iff.mpr fun p hp => ?_
      obtain ⟨x, hx, hxp⟩ := List.mem_filterMap.mp hp
      by_contra hne
      obtain ⟨y, hy⟩ := Option.ne_none_iff_exists'.mp hne
      exact hactions x hx (Action.fileNumber?_of_backward hxp hy)
    have hoffers : ((actions.filterMap Action.event?).filterMap Event.offer).count
        (n.toUInt32 ||| 0x100) = 0 := by
      refine List.count_eq_zero.mpr fun hmem => ?_
      obtain ⟨e, he, heo⟩ := List.mem_filterMap.mp hmem
      refine hevents e he ?_
      cases e with
      | fileReceive => exact heo
      | _ => cases heo
    have hchunks : ((actions.filterMap Action.event?).filterMap Event.chunk).filterMap
        (chunkOn n) = [] := by
      refine List.filterMap_eq_nil_iff.mpr fun c hc => ?_
      obtain ⟨e, he, hec⟩ := List.mem_filterMap.mp hc
      refine if_neg fun heq => hevents e he ?_
      cases e with
      | fileReceiveChunk =>
        cases hec
        exact congrArg some heq
      | _ => cases hec
    rw [exchange_after_receiver, hbackward, hoffers, hchunks, htox, List.append_nil]
    ext1 <;> simp [System.exchange]

/-! Delivering the oldest packet. -/

theorem exchange_delivered_sender {p : Packet} {ps : List Packet} (h : sys.inFlight a = p :: ps) :
    (sys.delivered a).exchange friend a n =
      { sys.exchange friend a n with backward := ps.filterMap (Packet.backward n) } := by
  simp [System.exchange, System.delivered, System.chunksOf, h]

theorem exchange_delivered_receiver {p : Packet} {ps : List Packet} (h : sys.inFlight a = p :: ps) :
    (sys.delivered a).exchange friend a.other n =
      { sys.exchange friend a.other n with forward := ps.filterMap (Packet.forward n) } := by
  simp [System.exchange, System.delivered, System.chunksOf, h]

theorem exchange_backward {p : Packet} {ps : List Packet} (h : sys.inFlight a = p :: ps) :
    (sys.exchange friend a n).backward =
      (p.backward n).toList ++ ps.filterMap (Packet.backward n) := by
  simp only [System.exchange, h, List.filterMap_cons]
  cases p.backward n <;> rfl

theorem exchange_forward {p : Packet} {ps : List Packet} (h : sys.inFlight a = p :: ps) :
    (sys.exchange friend a.other n).forward =
      (p.forward n).toList ++ ps.filterMap (Packet.forward n) := by
  simp only [System.exchange, Side.other_other, h, List.filterMap_cons]
  cases p.forward n <;> rfl

theorem Packet.fileNumber_of_forward {p : Packet} {y : Forward} (h : p.forward n = some y) :
    p.fileNumber = n.toUInt32 ||| 0x100 := by
  cases p with
  | sendRequest m size name =>
    simp only [Packet.forward, Option.ite_none_right_eq_some] at h
    rw [Packet.fileNumber, h.1]
  | control sendReceive m code =>
    simp only [Packet.forward, Option.ite_none_right_eq_some] at h
    obtain ⟨⟨rfl, rfl⟩, -⟩ := h
    exact FileTransfer.newFileNumber_false m
  | data m data =>
    simp only [Packet.forward, Option.ite_none_right_eq_some] at h
    rw [Packet.fileNumber, h.1]

theorem Packet.fileNumber_of_backward {p : Packet} {y : LegacyControl} (h : p.backward n = some y) :
    p.fileNumber = n.toUInt32 := by
  cases p with
  | control sendReceive m code =>
    simp only [Packet.backward, Option.ite_none_right_eq_some] at h
    obtain ⟨⟨rfl, rfl⟩, -⟩ := h
    exact FileTransfer.newFileNumber_true m
  | _ => cases h

/-- So does a delivery. -/
theorem exchange_delivered_of_ne {p : Packet} {ps : List Packet} (h : sys.inFlight a = p :: ps)
    (hne : p.fileNumber ≠ fileNumberAt a s n) :
    (sys.delivered a).exchange friend s n = sys.exchange friend s n := by
  rcases s.eq_or_other a with rfl | rfl
  · have hnone : p.backward n = none := by
      by_contra hsome
      obtain ⟨y, hy⟩ := Option.ne_none_iff_exists'.mp hsome
      exact hne (by rw [fileNumberAt_self, Packet.fileNumber_of_backward hy])
    have hbackward : (sys.exchange friend s n).backward =
        (p.backward n).toList ++ ps.filterMap (Packet.backward n) := exchange_backward h
    rw [hnone, Option.toList_none, List.nil_append] at hbackward
    rw [exchange_delivered_sender h, ← hbackward]
  · have hnone : p.forward n = none := by
      by_contra hsome
      obtain ⟨y, hy⟩ := Option.ne_none_iff_exists'.mp hsome
      exact hne (by rw [fileNumberAt_other, Packet.fileNumber_of_forward hy])
    have hforward : (sys.exchange friend a.other n).forward =
        (p.forward n).toList ++ ps.filterMap (Packet.forward n) := exchange_forward h
    rw [hnone, Option.toList_none, List.nil_append] at hforward
    rw [exchange_delivered_receiver h, ← hforward]

end

/-! ## Turns that bring a transfer forward -/

/-- The transfer of one file takes a step, and the others stay as they are. -/
def System.Proceeds (friend : Side → UInt32) (causes : PauseReason → Prop) (sys sys' : System) :
    Prop :=
  ∃ s n, Exchange.Step causes (sys.exchange friend s n) (sys'.exchange friend s n) ∧
    ∀ s' n', (s', n') ≠ (s, n) → sys'.exchange friend s' n' = sys.exchange friend s' n'

/-- What holds of a system whose core and clients cooperate. -/
structure System.Healthy (friend : Side → UInt32) (size : Side → Int32)
    (causes : PauseReason → Prop) (sys : System) : Prop where
  ok : sys.Ok friend
  phase : ∀ s n, Exchange.Phase causes (sys.exchange friend s n)
  /-- No request is for more than the core takes. -/
  within : ∀ s n, (sys.exchange friend s n).Within (size s).toInt.toNat

section

variable {friend : Side → UInt32} {size : Side → Int32} {causes : PauseReason → Prop}
  {sys sys' mid : System} {a s : Side} {n : UInt8} {lg : Legacy} {tox : NewTox}
  {actions : List Action}

/-- A call that is about one transfer. -/
theorem proceeds_after
    (hmid : ∀ s' n', (s', n') ≠ (s, n) → mid.exchange friend s' n' = sys.exchange friend s' n')
    (htox : ∀ num, num ≠ fileNumberAt a s n →
      tox.getTransfer (friend a) num = (mid.tox a).getTransfer (friend a) num)
    (hactions : ∀ x ∈ actions, x.fileNumber? = some (fileNumberAt a s n))
    (hstep : Exchange.Step causes (sys.exchange friend s n)
      ((mid.after a tox actions).exchange friend s n)) :
    sys.Proceeds friend causes (mid.after a tox actions) := by
  refine ⟨s, n, hstep, fun s' n' hne => ?_⟩
  have hnum : fileNumberAt a s' n' ≠ fileNumberAt a s n := by
    intro heq
    obtain ⟨rfl, rfl⟩ := fileNumberAt_injective heq
    exact hne rfl
  rw [exchange_after_of_ne (htox _ hnum) fun x hx heq => ?_, hmid s' n' hne]
  rw [hactions x hx, Option.some.injEq] at heq
  exact hnum heq.symm

theorem getTransfer_setTransfer_of_ne {f num num' : UInt32} {t : FileTransfer} (h : num' ≠ num) :
    (tox.setTransfer f num t).getTransfer f num' = tox.getTransfer f num' :=
  NewTox.getTransfer_setTransfer_ne _ _ h.symm

theorem getTransfer_eraseTransfer_of_ne {f num num' : UInt32} (h : num' ≠ num) :
    (tox.eraseTransfer f num).getTransfer f num' = tox.getTransfer f num' := by
  rw [NewTox.getTransfer_eraseTransfer, if_neg fun heq => h heq.2.symm]

@[simp] theorem getTransfer_eraseTransfer_self {f num : UInt32} :
    (tox.eraseTransfer f num).getTransfer f num = none := by
  rw [NewTox.getTransfer_eraseTransfer, if_pos ⟨rfl, rfl⟩]

theorem sendControl_of_cooperates {f : UInt32} {size : Int32} (h : lg.Cooperates f size)
    (sr : Bool) (n : UInt8) (code : LegacyControl) :
    lg.sendControl f sr n code = (0, [.sendControl f sr n code]) := by
  simp [Legacy.sendControl, h.control]

theorem connection_of_cooperates {f : UInt32} {size : Int32} (h : lg.Cooperates f size) :
    newToxFriendGetConnectionStatus lg f = .ok .udp4 := by
  simp [newToxFriendGetConnectionStatus, h.exists_friend, h.online, Checked.assert]

theorem fileData_of_cooperates {f : UInt32} {size : Int32} {m : UInt8} {u : FileTransfer}
    (h : lg.Cooperates f size) (hu : tox.getTransfer f (m.toUInt32 ||| 0x100) = some u)
    (data : List UInt8) : CB.fileData tox lg f m data =
      .ok (tox.setTransfer f (m.toUInt32 ||| 0x100) (u.advance (UInt64.ofNat data.length)),
        .event (.fileReceiveChunk f (m.toUInt32 ||| 0x100) u.position data) ::
          if u.position + UInt64.ofNat data.length = u.fileSize then
            [.sendControl f true m .finished] else []) := by
  unfold CB.fileData
  simp only [hu]
  split
  · rw [sendControl_of_cooperates h]
    rfl
  · rfl

/-- An offer arrives. -/
theorem deliver_sendRequest_proceeds {cause : PauseReason} {m : UInt8} {fileSize : UInt64}
    {name : List UInt8} {ps : List Packet} (h : sys.Healthy friend size causes)
    (hp : sys.inFlight a = .sendRequest m fileSize name :: ps) (hcause : causes cause) :
    ∃ sys', sys.step friend (a, lg, .deliver cause) = .ok sys' ∧
      sys.Proceeds friend causes sys' := by
  have hforward : (sys.exchange friend a.other m).forward =
      .offer fileSize :: ps.filterMap (Packet.forward m) := by
    rw [exchange_forward hp]
    simp [Packet.forward]
  have hnone := (h.phase a.other m).of_offer hforward
  have hfree : (sys.tox a).getTransfer (friend a) (m.toUInt32 ||| 0x100) = none := by
    simpa [System.exchange] using hnone
  have hcb : CB.fileSendRequest (sys.tox a) (friend a) m fileSize name cause = .ok (_, _) :=
    fileSendRequest_eq_ok.mpr ⟨hfree, rfl, rfl⟩
  refine ⟨_, by simp only [System.step, hp, Packet.callback, LegacyCallback.run, hcb,
    Checked.ok_bind]; rfl, ?_⟩
  refine proceeds_after (s := a.other) (n := m) (fun s' n' hne => ?_) (fun num hnum => ?_) ?_ ?_
  · refine exchange_delivered_of_ne hp fun heq => hne ?_
    rw [Packet.fileNumber, ← fileNumberAt_other a m] at heq
    obtain ⟨rfl, rfl⟩ := fileNumberAt_injective heq
    rfl
  · rw [fileNumberAt_other] at hnum
    exact getTransfer_setTransfer_of_ne hnum
  · simp [Action.fileNumber?, Event.fileNumber?]
  · have hstep : Exchange.Step causes _ _ := .offered hforward hnone hcause
    rw [exchange_after_receiver, exchange_delivered_receiver hp,
      NewTox.getTransfer_setTransfer_self]
    simpa [List.filterMap_cons, Action.packet, Action.event?, Event.offer, Event.chunk] using hstep

/-- Data arrives. -/
theorem deliver_data_proceeds {cause : PauseReason} {m : UInt8} {data : List UInt8}
    {ps : List Packet} (h : sys.Healthy friend size causes)
    (hcore : lg.Cooperates (friend a) (size a)) (hp : sys.inFlight a = .data m data :: ps) :
    ∃ sys', sys.step friend (a, lg, .deliver cause) = .ok sys' ∧
      sys.Proceeds friend causes sys' := by
  have hforward : (sys.exchange friend a.other m).forward =
      .data data :: ps.filterMap (Packet.forward m) := by
    rw [exchange_forward hp]
    simp [Packet.forward]
  obtain ⟨u, hincoming⟩ := (h.phase a.other m).of_data hforward
  have hu : (sys.tox a).getTransfer (friend a) (m.toUInt32 ||| 0x100) = some u := by
    simpa [System.exchange] using hincoming
  have hcb := fileData_of_cooperates hcore hu data
  refine ⟨_, by simp only [System.step, hp, Packet.callback, LegacyCallback.run, hcb,
    Checked.ok_bind]; rfl, ?_⟩
  refine proceeds_after (s := a.other) (n := m) (fun s' n' hne => ?_) (fun num hnum => ?_) ?_ ?_
  · refine exchange_delivered_of_ne hp fun heq => hne ?_
    rw [Packet.fileNumber, ← fileNumberAt_other a m] at heq
    obtain ⟨rfl, rfl⟩ := fileNumberAt_injective heq
    rfl
  · rw [fileNumberAt_other] at hnum
    exact getTransfer_setTransfer_of_ne hnum
  · split <;> simp [Action.fileNumber?, Event.fileNumber?, FileTransfer.newFileNumber_false]
  · have hstep : Exchange.Step causes _ _ := .data hforward hincoming
    rw [exchange_after_receiver, exchange_delivered_receiver hp,
      NewTox.getTransfer_setTransfer_self]
    split <;> rename_i hfinished <;>
      simpa [List.filterMap_cons, Action.packet, Action.event?, Event.offer, Event.chunk,
        Packet.backward, chunkOn, hfinished] using hstep

/-- A control arrives, at the sender or at the receiver. -/
theorem deliver_control_proceeds {cause : PauseReason} {sr : Bool} {m : UInt8}
    {code : LegacyControl} {ps : List Packet} (h : sys.Healthy friend size causes)
    (hp : sys.inFlight a = .control sr m code :: ps) :
    ∃ sys', sys.step friend (a, lg, .deliver cause) = .ok sys' ∧
      sys.Proceeds friend causes sys' := by
  have hothers : ∀ {s : Side}, FileTransfer.newFileNumber sr m = fileNumberAt a s m →
      ∀ s' n', (s', n') ≠ (s, m) →
        (sys.delivered a).exchange friend s' n' = sys.exchange friend s' n' := by
    intro s hnum s' n' hne
    refine exchange_delivered_of_ne hp fun heq => hne ?_
    rw [Packet.fileNumber, hnum] at heq
    obtain ⟨rfl, rfl⟩ := fileNumberAt_injective heq
    rfl
  cases sr with
  | true =>
    have hbackward : (sys.exchange friend a m).backward =
        code :: ps.filterMap (Packet.backward m) := by
      rw [exchange_backward hp]
      simp [Packet.backward]
    obtain ⟨hcode, t, houtgoing⟩ := (h.phase a m).of_backward hbackward
    have ht : (sys.tox a).getTransfer (friend a)
        (FileTransfer.newFileNumber (true.toUInt8 != 0) m) = some t := by
      rw [← houtgoing]
      exact congrArg _ (FileTransfer.newFileNumber_true m)
    rcases hcode with rfl | rfl
    · refine ⟨_, by simp only [System.step, hp, Packet.callback, LegacyCallback.run,
        fileControl_accept ht, Checked.ok_bind]; rfl, ?_⟩
      rw [show (true.toUInt8 != 0) = true from rfl, FileTransfer.newFileNumber_true]
      refine proceeds_after (hothers (s := a) ?_) (fun num hnum => ?_) ?_ ?_
      · rw [fileNumberAt_self, FileTransfer.newFileNumber_true]
      · rw [fileNumberAt_self] at hnum
        exact getTransfer_setTransfer_of_ne hnum
      · simp [Action.fileNumber?, Event.fileNumber?]
      · have hstep : Exchange.Step causes _ _ := .accepted hbackward houtgoing
        rw [exchange_after_sender, exchange_delivered_sender hp,
          NewTox.getTransfer_setTransfer_self]
        simpa [List.filterMap_cons, Action.packet, Action.event?, Event.request] using hstep
    · refine ⟨_, by simp only [System.step, hp, Packet.callback, LegacyCallback.run,
        fileControl_finished ht, Checked.ok_bind]; rfl, ?_⟩
      rw [show (true.toUInt8 != 0) = true from rfl, FileTransfer.newFileNumber_true]
      refine proceeds_after (hothers (s := a) ?_) (fun num hnum => ?_) ?_ ?_
      · rw [fileNumberAt_self, FileTransfer.newFileNumber_true]
      · rw [fileNumberAt_self] at hnum
        exact getTransfer_eraseTransfer_of_ne hnum
      · simp [Action.fileNumber?, Event.fileNumber?]
      · have hstep : Exchange.Step causes _ _ := .receiverFinished hbackward
        rw [exchange_after_sender, exchange_delivered_sender hp, getTransfer_eraseTransfer_self]
        simpa [List.filterMap_cons, Action.packet, Action.event?, request_zero] using hstep
  | false =>
    have hforward : (sys.exchange friend a.other m).forward =
        .control code :: ps.filterMap (Packet.forward m) := by
      rw [exchange_forward hp]
      simp [Packet.forward]
    obtain ⟨rfl, u, hincoming⟩ := (h.phase a.other m).of_control hforward
    have hu : (sys.tox a).getTransfer (friend a)
        (FileTransfer.newFileNumber (false.toUInt8 != 0) m) = some u := by
      rw [show (false.toUInt8 != 0) = false from rfl, FileTransfer.newFileNumber_false]
      simpa [System.exchange] using hincoming
    refine ⟨_, by simp only [System.step, hp, Packet.callback, LegacyCallback.run,
      fileControl_finished hu, Checked.ok_bind]; rfl, ?_⟩
    rw [show (false.toUInt8 != 0) = false from rfl, FileTransfer.newFileNumber_false]
    refine proceeds_after (hothers (s := a.other) ?_) (fun num hnum => ?_) ?_ ?_
    · rw [fileNumberAt_other, FileTransfer.newFileNumber_false]
    · rw [fileNumberAt_other] at hnum
      exact getTransfer_eraseTransfer_of_ne hnum
    · simp [Action.fileNumber?, Event.fileNumber?]
    · have hstep : Exchange.Step causes _ _ := .senderFinished hforward
      rw [exchange_after_receiver, exchange_delivered_receiver hp, getTransfer_eraseTransfer_self]
      simpa [List.filterMap_cons, Action.packet, Action.event?, Event.offer, Event.chunk] using
        hstep

/-! The client's answers. -/

theorem exchange_resumed_of_ne {m : UInt8} {s' : Side} {n' : UInt8}
    (hne : (s', n') ≠ (a.other, m)) :
    (sys.resumed a (m.toUInt32 ||| 0x100)).exchange friend s' n' = sys.exchange friend s' n' := by
  rcases s'.eq_or_other a with rfl | rfl
  · ext1 <;> simp [System.exchange, System.resumed, System.chunksOf]
  · have hnum : n'.toUInt32 ||| 0x100 ≠ m.toUInt32 ||| 0x100 := by
      intro heq
      rw [FileTransfer.or_256_injective heq] at hne
      exact hne rfl
    ext1 <;> simp [System.exchange, System.resumed, System.chunksOf, List.count_erase_of_ne hnum]

theorem exchange_resumed {m : UInt8} :
    (sys.resumed a (m.toUInt32 ||| 0x100)).exchange friend a.other m =
      { sys.exchange friend a.other m with
        offers := (sys.exchange friend a.other m).offers - 1 } := by
  simp [System.exchange, System.resumed, System.chunksOf]

theorem resume_of_cooperates {f num : UInt32} {size : Int32} {u : FileTransfer}
    (h : lg.Cooperates f size) (hu : tox.getTransfer f num = some u) (hpaused : u.state = .paused)
    (hcause : u.cause ≠ .friend) : newToxFileControl lg tox f num .resume =
      .ok (.ok, tox, [.sendControl f (FileTransfer.sendReceive num)
        (FileTransfer.oldFileNumber num) .accept]) := by
  simp [newToxFileControl, h.exists_friend, connection_of_cooperates h, hu, applyControl, hpaused,
    hcause, sendControl_of_cooperates h]

theorem denied_of_cooperates {f num : UInt32} {size : Int32} {u : FileTransfer}
    (h : lg.Cooperates f size) (hu : tox.getTransfer f num = some u) (hpaused : u.state = .paused)
    (hcause : u.cause = .friend) :
    newToxFileControl lg tox f num .resume = .ok (.denied, tox, []) := by
  simp [newToxFileControl, h.exists_friend, connection_of_cooperates h, hu, applyControl, hpaused,
    hcause]

/-- A client answers an offer. -/
theorem resume_proceeds {num : UInt32} (h : sys.Healthy friend size causes)
    (hcore : lg.Cooperates (friend a) (size a)) (hmem : num ∈ sys.offers a) :
    ∃ sys', sys.step friend (a, lg, .resume num) = .ok sys' ∧ sys.Proceeds friend causes sys' := by
  obtain ⟨m, rfl⟩ := h.ok.shape.offers a num hmem
  have hpos : 0 < (sys.exchange friend a.other m).offers := by
    simpa [System.exchange] using hmem
  obtain ⟨hone, u, hincoming, hpaused⟩ := (h.phase a.other m).of_offers hpos
  have hu : (sys.tox a).getTransfer (friend a) (m.toUInt32 ||| 0x100) = some u := by
    simpa [System.exchange] using hincoming
  have hothers : ∀ s' n', (s', n') ≠ (a.other, m) →
      (sys.resumed a (m.toUInt32 ||| 0x100)).exchange friend s' n' = sys.exchange friend s' n' :=
    fun s' n' hne => exchange_resumed_of_ne hne
  by_cases hcause : u.cause = .friend
  · have hcontrol := denied_of_cooperates hcore hu hpaused hcause
    refine ⟨_, by simp only [System.step, hcontrol, Checked.ok_bind]; rfl, ?_⟩
    refine proceeds_after (s := a.other) (n := m) hothers (fun num hnum => rfl) (by simp) ?_
    have hstep : Exchange.Step causes _ _ := .denied (n := 0) hone hincoming hcause
    rw [exchange_after_receiver, exchange_resumed, hu, hone]
    simpa [hincoming.symm] using hstep
  · have hcontrol := resume_of_cooperates hcore hu hpaused hcause
    rw [FileTransfer.sendReceive_or_256, FileTransfer.oldFileNumber_or_256] at hcontrol
    refine ⟨_, by simp only [System.step, hcontrol, Checked.ok_bind]; rfl, ?_⟩
    refine proceeds_after (s := a.other) (n := m) hothers (fun num hnum => rfl) ?_ ?_
    · simp [Action.fileNumber?, FileTransfer.newFileNumber_false]
    · have hstep : Exchange.Step causes _ _ := .resume (n := 0) hone hincoming hcause
      rw [exchange_after_receiver, exchange_resumed, hu, hone]
      simpa [List.filterMap_cons, Action.packet, Action.event?, Packet.backward,
        hincoming.symm] using hstep

theorem exchange_answered_of_ne {r : Request} {m : UInt8} {s' : Side} {n' : UInt8}
    (hm : r.fileNumber = m.toUInt32) (hmem : r ∈ sys.requests a) (hne : (s', n') ≠ (a, m)) :
    (sys.answered a r).exchange friend s' n' = sys.exchange friend s' n' := by
  have hrequests : ((sys.answered a r).requests s').filterMap (Request.onChannel n') =
      (sys.requests s').filterMap (Request.onChannel n') := by
    rcases s'.eq_or_other a with rfl | rfl
    · have hnum : m.toUInt32 ≠ n'.toUInt32 := by
        intro heq
        rw [FileTransfer.toUInt32_injective heq] at hne
        exact hne rfl
      have hon : r.onChannel n' = none := if_neg (hm ▸ hnum)
      obtain ⟨before, after, -, hsplit, herase⟩ := List.exists_erase_eq hmem
      simp only [System.answered, Function.update_self, herase]
      rw [hsplit]
      simp [hon]
    · simp [System.answered]
  ext1 <;> first | exact hrequests | rfl

/-- The only request for a file has been answered. -/
theorem exchange_answered {r : Request} {m : UInt8} (hm : r.fileNumber = m.toUInt32)
    (hmem : r ∈ sys.requests a)
    (hone : (sys.exchange friend a m).requests = [(r.position, r.length)]) :
    (sys.answered a r).exchange friend a m = { sys.exchange friend a m with requests := [] } := by
  have hon : r.onChannel m = some (r.position, r.length) := if_pos hm
  obtain ⟨before, after, -, hsplit, herase⟩ := List.exists_erase_eq hmem
  have hrequests : ((sys.answered a r).requests a).filterMap (Request.onChannel m) = [] := by
    simp only [System.exchange, hsplit, List.filterMap_append, List.filterMap_cons, hon,
      List.append_eq_singleton_iff, List.cons.injEq, reduceCtorEq, and_false, or_false,
      true_and] at hone
    simp [System.answered, herase, hone.1, hone.2]
  ext1 <;> first | exact hrequests | rfl

theorem sendChunk_of_cooperates {f num : UInt32} {size : Int32} {t : FileTransfer}
    {data : List UInt8} (h : lg.Cooperates f size) (hshort : data.length ≤ 65535) :
    sendChunk lg tox f num t (.bytes data) =
      .ok (tox.setTransfer f num
          { t.advance (UInt64.ofNat data.length) with eventPending := false },
        .sendData f (FileTransfer.oldFileNumber num) data ::
          if t.position + UInt64.ofNat data.length = t.fileSize then
            [.sendControl f (FileTransfer.sendReceive num) (FileTransfer.oldFileNumber num)
              .finished] else []) := by
  have hsent : (lg.fileSendData f (FileTransfer.oldFileNumber num) data != -1) = true := by
    simpa using h.data (FileTransfer.oldFileNumber num) data
  have hlength : UInt64.ofNat data.length = (Buffer.bytes data).length := rfl
  rw [hlength]
  simp only [sendChunk, contents_take data hshort, hsent, Checked.assert, if_true, Checked.ok_bind]
  split
  · rw [sendControl_of_cooperates h]
    rfl
  · rfl

/-- A client answers a request. -/
theorem answer_proceeds {r : Request} {data : List UInt8} (h : sys.Healthy friend size causes)
    (hcore : lg.Cooperates (friend a) (size a)) (hmem : r ∈ sys.requests a)
    (hne : 1 ≤ data.length) (hle : data.length ≤ r.length.toNat) :
    ∃ sys', sys.step friend (a, lg, .answer r data) = .ok sys' ∧
      sys.Proceeds friend causes sys' := by
  obtain ⟨hshort, m, hm⟩ := h.ok.shape.requests a r hmem
  have hon : (r.position, r.length) ∈ (sys.exchange friend a m).requests :=
    List.mem_filterMap.mpr ⟨r, hmem, if_pos hm⟩
  obtain ⟨hone, -, ⟨t, houtgoing⟩, -⟩ := (h.phase a m).of_request hon
  have ht : (sys.tox a).getTransfer (friend a) m.toUInt32 = some t := houtgoing
  have hsize := h.within a m _ hon
  simp only at hsize
  have hdata : (lg.dataSize (friend a)).toNat = (size a).toInt.toNat := by
    rw [dataSize_of_pos (by rw [hcore.size]; omega), hcore.size]
  have hlength : (Buffer.bytes data).length.toNat = data.length := by
    simp only [Buffer.length, UInt64.toNat_ofNat']
    omega
  have hzero : (Buffer.bytes data).length ≠ 0 := by
    intro heq
    rw [heq] at hlength
    have hz : (0 : UInt64).toNat = 0 := rfl
    omega
  have htooLarge : ¬ lg.dataSize (friend a) < (Buffer.bytes data).length := by
    rw [UInt64.lt_iff_toNat_lt, hlength, hdata]
    omega
  have hchunk : newToxFileSendChunk lg (sys.tox a) (friend a) m.toUInt32 (.bytes data) =
      .ok (.ok, (sys.tox a).setTransfer (friend a) m.toUInt32
          { t.advance (UInt64.ofNat data.length) with eventPending := false },
        .sendData (friend a) m data ::
          if t.position + UInt64.ofNat data.length = t.fileSize then
            [.sendControl (friend a) false m .finished] else []) := by
    have hsend : sendChunk lg (sys.tox a) (friend a) m.toUInt32 t (.bytes data) = _ :=
      sendChunk_of_cooperates hcore (by omega)
    rw [FileTransfer.sendReceive_toUInt32, FileTransfer.oldFileNumber_toUInt32] at hsend
    simp [newToxFileSendChunk, hzero, htooLarge, Buffer.isNull, hcore.exists_friend,
      connection_of_cooperates hcore, ht, hsend]
  refine ⟨_, by simp only [System.step, hm, hchunk, Checked.ok_bind]; rfl, ?_⟩
  refine proceeds_after (s := a) (n := m)
    (fun s' n' hne => exchange_answered_of_ne hm hmem hne) (fun num hnum => ?_) ?_ ?_
  · rw [fileNumberAt_self] at hnum
    exact getTransfer_setTransfer_of_ne hnum
  · split <;> simp [Action.fileNumber?, FileTransfer.newFileNumber_true]
  · have hstep : Exchange.Step causes _ _ := .answer houtgoing hone hne hle
    rw [exchange_after_sender, exchange_answered hm hmem hone, NewTox.getTransfer_setTransfer_self]
    split <;> rename_i hfinished <;>
      simpa [List.filterMap_cons, Action.packet, Action.event?, Packet.forward, hfinished] using
        hstep

/-! ## The other turns -/

theorem exchange_store {m : UInt8} {content : List UInt8} :
    (sys.store a m content).exchange friend s n =
      if s = a ∧ n = m then { sys.exchange friend s n with size := some content.length }
      else sys.exchange friend s n := by
  by_cases hs : s = a
  · subst hs
    by_cases hn : n = m
    · subst hn
      simp [System.exchange, System.store, System.chunksOf]
    · simp [System.exchange, System.store, System.chunksOf, hn]
  · simp [System.exchange, System.store, System.chunksOf, hs]

/-- The core's number for a new file is free in the table. -/
theorem fileSend_of_cooperates {f : UInt32} {size : Int32} (h : lg.Cooperates f size)
    (hfree : lg.newFileSender f ≠ -1 → tox.getTransfer f (lg.newFileSender f).toUInt32 = none)
    (kind : FileKind) (fileSize : UInt64) (filename : Buffer) (cause : PauseReason) :
    (newToxFileSend lg tox f kind fileSize filename cause).Succeeds := by
  unfold newToxFileSend
  iterate 4
    split
    · exact .ok _
  rw [connection_of_cooperates h]
  simp only [Checked.ok_bind, reduceCtorEq, if_false]
  split
  · exact .ok _
  · rename_i hsender
    obtain ⟨hlo, hhi⟩ := h.sender.resolve_left hsender
    have hadd : tox.addTransfer f (lg.newFileSender f).toUInt32 fileSize cause = .ok _ :=
      NewTox.addTransfer_eq_ok.mpr ⟨hfree hsender, rfl⟩
    simp only [hlo, hhi, hfree hsender, hadd, Checked.assert, decide_true, Option.isNone_none,
      if_true, Checked.ok_bind]
    exact .ok _

/-- A file that is offered is a new transfer. -/
theorem send_sends {kind : FileKind} {content : List UInt8} {filename : Buffer}
    {cause : PauseReason} (h : sys.Healthy friend size causes)
    (hcore : lg.Cooperates (friend a) (size a))
    (hallowed : Turn.Allowed friend sys (a, lg, .send kind content filename cause)) :
    ∃ sys', sys.step friend (a, lg, .send kind content filename cause) = .ok sys' ∧
      ((∀ s n, sys'.exchange friend s n = sys.exchange friend s n) ∨
        ∃ m, Exchange.Send content.length (sys.exchange friend a m) (sys'.exchange friend a m) ∧
          ∀ s n, (s, n) ≠ (a, m) → sys'.exchange friend s n = sys.exchange friend s n) := by
  obtain ⟨hne, hlt, hfresh⟩ := hallowed
  have hunused : ∀ m, sys.files a m = none → sys.exchange friend a m = {} := fun m hm =>
    (h.phase a m).of_size_none (by simp [System.exchange, hm])
  have hfree : lg.newFileSender (friend a) ≠ -1 →
      (sys.tox a).getTransfer (friend a) (lg.newFileSender (friend a)).toUInt32 = none := by
    intro hsender
    obtain ⟨hlo, hhi⟩ := hcore.sender.resolve_left hsender
    have hempty := hunused _ (hfresh.resolve_left hsender)
    rw [← FileTransfer.toUInt32_toUInt8_of_sender hlo hhi]
    exact congrArg Exchange.outgoing hempty
  obtain ⟨⟨err, num, tox, actions⟩, hsend⟩ := fileSend_of_cooperates hcore hfree kind
    (UInt64.ofNat content.length) filename cause
  refine ⟨_, by simp only [System.step, hsend, Checked.ok_bind]; rfl, ?_⟩
  rcases newToxFileSend_cases hsend with
    ⟨herr, -, rfl, rfl⟩ | ⟨m, rfl, rfl, hnum, hsender, -, hnone, rfl, rfl⟩
  · left
    intro s n
    rw [if_neg herr]
    exact exchange_after_of_ne rfl (by simp)
  · right
    rw [if_pos rfl, UInt8.toUInt8_toUInt32]
    have hm : sys.files a m = none := by
      have hfresh' := hfresh.resolve_left hsender
      rwa [hnum, UInt8.toUInt8_toUInt32] at hfresh'
    have hlength : (UInt64.ofNat content.length).toNat = content.length := by
      rw [UInt64.toNat_ofNat', Nat.mod_eq_of_lt hlt]
    refine ⟨m, ?_, fun s n hother => ?_⟩
    · have hstep : Exchange.Send content.length (sys.exchange friend a m) _ :=
        .send (t := { cause, fileSize := UInt64.ofNat content.length }) (by rw [hunused m hm])
          (List.length_pos_iff.mpr hne) rfl hlength rfl rfl
      rw [exchange_store, if_pos ⟨rfl, rfl⟩, exchange_after_sender,
        NewTox.getTransfer_setTransfer_self]
      simpa [List.filterMap_cons, Action.packet, Action.event?, Packet.forward] using hstep
    · have hkey : fileNumberAt a s n ≠ m.toUInt32 := by
        intro heq
        rw [← fileNumberAt_self a m] at heq
        obtain ⟨rfl, rfl⟩ := fileNumberAt_injective heq
        exact hother rfl
      rw [exchange_store, if_neg fun heq => hother (by rw [heq.1, heq.2])]
      refine exchange_after_of_ne (getTransfer_setTransfer_of_ne hkey) ?_
      simpa [Action.fileNumber?] using Ne.symm hkey

theorem afterToxDo_offers (lg : Legacy) (tox : NewTox) :
    ((afterToxDo lg tox).2.filterMap Action.event?).filterMap Event.offer = [] := by
  rw [List.filterMap_filterMap]
  refine List.filterMap_eq_nil_iff.mpr fun x hx => ?_
  rcases mem_afterToxDo hx with ⟨status, rfl⟩ | ⟨f, n, t, -, -, rfl⟩ <;> rfl

/-- An iteration asks for a chunk of a file at most. -/
theorem iterate_requests (h : sys.Healthy friend size causes)
    (hcore : lg.Cooperates (friend a) (size a))
    (hallowed : Turn.Allowed friend sys (a, lg, .iterate)) (s : Side) (n : UInt8) :
    ((sys.after a (afterToxDo lg (sys.tox a)).1 (afterToxDo lg (sys.tox a)).2).exchange friend s n =
      sys.exchange friend s n) ∨
    Exchange.Request (size s).toInt.toNat (sys.exchange friend s n)
      ((sys.after a (afterToxDo lg (sys.tox a)).1 (afterToxDo lg (sys.tox a)).2).exchange friend
        s n) := by
  rcases s.eq_or_other a with rfl | rfl
  · rw [exchange_after_sender, afterToxDo_packets, getTransfer_afterToxDo,
      afterToxDo_requests n fun f' n' t ht => (h.ok.shape.keys s f' n' t ht).1, List.filterMap_nil,
      List.append_nil]
    cases ht : (sys.tox s).getTransfer (friend s) n.toUInt32 with
    | none =>
      left
      simp [System.exchange, ht]
    | some t =>
      by_cases hdue : t.Due
      · right
        have hsize : requestSize lg (friend s) t ≠ 0 :=
          requestSize_ne_zero (by have := hallowed.1; omega) hdue
        have hpos : 0 < (requestSize lg (friend s) t).toNat :=
          Nat.pos_of_ne_zero fun hzero => hsize (UInt64.toNat_inj.mp hzero)
        have hlimit : (requestSize lg (friend s) t).toNat ≤ (size s).toInt.toNat := by
          refine (requestSize_le_dataSize lg (friend s) t).trans_eq ?_
          rw [dataSize_of_pos (by have := hallowed.1; omega), hcore.size]
        have hrequest := Exchange.Request.request (c := sys.exchange friend s n) ht hdue hpos hlimit
          (requestSize_le_rest lg (friend s) t)
        simpa [requestChunk_due lg _ hdue, hdue, hsize] using hrequest
      · left
        simp [requestChunk_not_due lg _ hdue, hdue, System.exchange, ht]
  · left
    rw [exchange_after_receiver, afterToxDo_packets, afterToxDo_chunks, afterToxDo_offers,
      getTransfer_afterToxDo]
    cases ht : (sys.tox a).getTransfer (friend a) (n.toUInt32 ||| 0x100) with
    | none => ext1 <;> simp [System.exchange, ht]
    | some u =>
      have hpaused := (h.phase a.other n).incoming_paused (by simpa [System.exchange] using ht)
      ext1 <;> simp [System.exchange, ht, requestChunk_paused _ hpaused]

end

end Tox4j.Adapter
