import Tox4j.Adapter.Exchange
import Tox4j.Adapter.Proofs.EndToEnd

/-!
# A file transfer comes to its end

Every step leads from one phase to another and uses up some of the potential, and a transfer on
which nothing is left to do has been received completely.
-/

namespace Tox4j.Adapter

open Tox4j.Misc

namespace Exchange

/-! ## Positions -/

section

variable {size position : ℕ} {t : FileTransfer} {n : ℕ}

theorem Reached.advance (h : Reached size position t) (hle : position + n ≤ size) :
    Reached size (position + n) (t.advance (UInt64.ofNat n)) := by
  have hlt := t.fileSize.toNat_lt
  refine ⟨h.fileSize, ?_⟩
  rw [Channel.toNat_advance, h.position]
  rw [h.position]
  have hsize := h.fileSize
  omega

theorem Reached.eq_iff (h : Reached size position t) :
    t.position = t.fileSize ↔ position = size := by
  rw [← UInt64.toNat_inj, h.position, h.fileSize]

theorem Reached.rest (h : Reached size position t) (hle : position ≤ size) :
    (t.fileSize - t.position).toNat = size - position := by
  have hle' : t.position ≤ t.fileSize := by
    rw [UInt64.le_iff_toNat_le, h.position, h.fileSize]
    exact hle
  rw [UInt64.toNat_sub_of_le _ _ hle', h.fileSize, h.position]

/-- What is left to do for a side of the transfer, by its position. -/
theorem Reached.outgoingCost (h : Reached size position t) (hle : position ≤ size) :
    outgoingCost t = 2 * (size - position) + if position = size then 0 else 1 := by
  simp only [Exchange.outgoingCost, h.rest hle, h.eq_iff]

theorem Reached.incomingCost (h : Reached size position t) :
    incomingCost t = if position = size then 0 else 1 := by
  simp only [Exchange.incomingCost, h.eq_iff]

end

theorem sum_cost_data (data : List (List UInt8)) :
    ((data.map Forward.data).map Forward.cost).sum = data.length := by
  induction data with
  | nil => rfl
  | cons d data ih =>
    rw [List.map_cons, List.map_cons, List.sum_cons, ih, List.length_cons, Nat.add_comm]
    rfl

/-! ## Each step -/

section

variable {causes : PauseReason → Prop} {c c' : Exchange}

/-- The next phase, with less left to do. -/
def Advances (causes : PauseReason → Prop) (c c' : Exchange) : Prop :=
  Phase causes c' ∧ c'.potential < c.potential

/-- The offer goes before the data. -/
theorem data_ne_offer {data : List (List UInt8)} {size : UInt64} {fs forward : List Forward}
    (hlast : ∀ x ∈ fs, x = .control .finished) :
    data.map Forward.data ++ fs ≠ .offer size :: forward := by
  cases data with
  | nil =>
    rintro heq
    rw [List.map_nil, List.nil_append] at heq
    have hmem := hlast (.offer size) (heq ▸ List.mem_cons_self)
    cases hmem
  | cons d data => simp

theorem data_ne_offer_alone {data : List (List UInt8)} {size : UInt64} {forward : List Forward} :
    data.map Forward.data ≠ .offer size :: forward := by
  cases data <;> simp

/-- The offer reaches the receiver. -/
theorem Phase.offered_step {size : UInt64} {forward : List Forward} {cause : PauseReason}
    (h : Phase causes c) (hforward : c.forward = .offer size :: forward) (hcause : causes cause) :
    Advances causes c { c with
      forward, incoming := some { cause, fileSize := size }, offers := c.offers + 1 } := by
  cases h with
  | @offered n t hpos ht hpaused hpending =>
    simp only [List.cons.injEq, Forward.offer.injEq] at hforward
    obtain ⟨rfl, rfl⟩ := hforward
    have hu : Reached n 0 { cause, fileSize := t.fileSize } := ⟨ht.fileSize, rfl⟩
    refine ⟨.announced hpos ht hpaused hpending hu rfl hcause, ?_⟩
    simp only [potential, Option.map_some, Option.getD_some, Option.map_none, Option.getD_none,
      ht.outgoingCost (Nat.zero_le _), hu.incomingCost, if_neg hpos.ne, List.map_nil,
      List.sum_nil, List.map_cons, List.sum_cons, Forward.cost, List.length_nil]
    omega
  | sending =>
    exact absurd hforward data_ne_offer_alone
  | sent => exact absurd hforward (data_ne_offer (by simp))
  | _ => simp at hforward

/-- The receiver accepts the offer. -/
theorem Phase.resume_step {n : ℕ} (h : Phase causes c) (hoffers : c.offers = n + 1) :
    Advances causes c { c with offers := n, backward := c.backward ++ [.accept] } := by
  cases h with
  | announced hpos ht hpaused hpending hu hwaiting hcause =>
    obtain rfl : n = 0 := (Nat.succ.inj hoffers).symm
    refine ⟨.accepted hpos ht hpaused hpending hu hwaiting, ?_⟩
    simp [potential]
  | _ => cases hoffers

/-- The receiver may not accept the offer. -/
theorem Phase.denied_step {n : ℕ} {u : FileTransfer} (h : Phase causes c)
    (hoffers : c.offers = n + 1) (hincoming : c.incoming = some u) (hfriend : u.cause = .friend) :
    Advances causes c { c with offers := n } := by
  cases h with
  | announced hpos ht hpaused hpending hu hwaiting hcause =>
    obtain rfl : n = 0 := (Nat.succ.inj hoffers).symm
    obtain rfl := Option.some.inj hincoming
    refine ⟨.denied hpos ht hpaused hpending hu hwaiting (hfriend ▸ hcause), ?_⟩
    simp [potential]
  | _ => cases hoffers

/-- The sender learns that the offer was accepted. -/
theorem Phase.accepted_step {t : FileTransfer} {backward : List LegacyControl} (h : Phase causes c)
    (hbackward : c.backward = .accept :: backward) (houtgoing : c.outgoing = some t) :
    Advances causes c { c with backward, outgoing := some { t with state := .running } } := by
  cases h with
  | @accepted n t' u hpos ht hpaused hpending hu hwaiting =>
    obtain rfl := Option.some.inj houtgoing
    obtain ⟨-, rfl⟩ := List.cons.inj hbackward
    have ht' : Reached n 0 { t' with state := .running } := ⟨ht.fileSize, ht.position⟩
    refine ⟨@Phase.sending causes _ _ _ _ _ [] _ hpos ht' rfl (.idle hpending) hu hwaiting rfl
      (by simp), ?_⟩
    simp [potential, outgoingCost]
  | _ => simp at hbackward

/-- The sender's client answers a request. -/
theorem Phase.answer_step {t : FileTransfer} {position length : UInt64} {data : List UInt8}
    (h : Phase causes c) (houtgoing : c.outgoing = some t)
    (hrequests : c.requests = [(position, length)]) (hne : 1 ≤ data.length)
    (hle : data.length ≤ length.toNat) :
    Advances causes c { c with
      outgoing := some { t.advance (UInt64.ofNat data.length) with eventPending := false }
      requests := []
      forward := c.forward ++ .data data ::
        if t.position + UInt64.ofNat data.length = t.fileSize then [.control .finished]
        else [] } := by
  cases h with
  | @sending size sent t' received u under requests hlt ht hrunning hwaiting hu hpaused hsum hall =>
    obtain rfl := Option.some.inj houtgoing
    simp only at hrequests
    cases hwaiting with
    | idle => cases hrequests
    | @asked length' hpending hpos hwithin =>
      simp only [List.cons.injEq, Prod.mk.injEq, and_true] at hrequests
      obtain ⟨rfl, rfl⟩ := hrequests
      have hlength : data.length ≤ size - sent := by
        rw [UInt64.le_iff_toNat_le, ht.rest hlt.le] at hwithin
        omega
      have hadvanced := ht.advance (n := data.length) (by omega)
      have ht' : Reached size (sent + data.length)
          { t'.advance (UInt64.ofNat data.length) with eventPending := false } :=
        ⟨hadvanced.fileSize, hadvanced.position⟩
      have hsum' : received + (under ++ [data]).flatten.length = sent + data.length := by
        rw [List.flatten_append, List.length_append, ← Nat.add_assoc, hsum]
        simp
      have hall' : ∀ d ∈ under ++ [data], 1 ≤ d.length := by
        intro d hd
        rcases List.mem_append.mp hd with hd | hd
        · exact hall d hd
        · rw [List.mem_singleton.mp hd]
          exact hne
      have hfinished : t'.position + UInt64.ofNat data.length = t'.fileSize ↔
          sent + data.length = size := hadvanced.eq_iff
      by_cases hlast : sent + data.length = size
      · rw [if_pos (hfinished.mpr hlast)]
        subst hlast
        refine ⟨?_, ?_⟩
        · have hphase := @Phase.sent causes _ _ _ _ (under ++ [data]) (by omega) ht' hu hpaused
            hsum' hall'
          simpa using hphase
        · simp only [potential, Option.map_some, Option.getD_some, ht.outgoingCost hlt.le,
            ht'.outgoingCost le_rfl, if_pos, List.map_append, List.sum_append, sum_cost_data,
            List.map_cons, List.sum_cons, Forward.cost, List.map_nil, List.sum_nil,
            if_neg hlt.ne]
          omega
      · rw [if_neg fun heq => hlast (hfinished.mp heq)]
        refine ⟨?_, ?_⟩
        · have hphase := @Phase.sending causes _ _ _ _ _ (under ++ [data]) _ (by omega) ht'
            hrunning (.idle rfl) hu hpaused hsum' hall'
          simpa using hphase
        · simp only [potential, Option.map_some, Option.getD_some, ht.outgoingCost hlt.le,
            ht'.outgoingCost (by omega : sent + data.length ≤ size), List.map_append,
            List.sum_append, sum_cost_data, List.map_cons, List.sum_cons, Forward.cost,
            List.map_nil, List.sum_nil, if_neg hlast, if_neg hlt.ne]
          omega
  | _ => cases hrequests

/-- Data reaches the receiver. -/
theorem Phase.data_step {u : FileTransfer} {data : List UInt8} {forward : List Forward}
    (h : Phase causes c) (hforward : c.forward = .data data :: forward)
    (hincoming : c.incoming = some u) :
    Advances causes c { c with
      forward
      incoming := some (u.advance (UInt64.ofNat data.length))
      backward := c.backward ++
        if u.position + UInt64.ofNat data.length = u.fileSize then [.finished] else []
      received := c.received + data.length } := by
  cases h with
  | @sending size sent t received u' under requests hlt ht hrunning hwaiting hu hpaused hsum hall =>
    obtain rfl := Option.some.inj hincoming
    cases under with
    | nil => cases hforward
    | cons d under =>
      simp only [List.map_cons, List.cons.injEq, Forward.data.injEq] at hforward
      obtain ⟨rfl, rfl⟩ := hforward
      simp only [List.flatten_cons, List.length_append] at hsum
      have hu' := hu.advance (n := d.length) (by omega)
      have hfinished : u'.position + UInt64.ofNat d.length = u'.fileSize ↔
          received + d.length = size := hu'.eq_iff
      have hlast : ¬ received + d.length = size := by omega
      rw [if_neg fun heq => hlast (hfinished.mp heq)]
      refine ⟨?_, ?_⟩
      · have hphase := @Phase.sending causes _ _ _ _ _ under _ hlt ht hrunning hwaiting hu' hpaused
          (by omega) fun x hx => hall x (List.mem_cons_of_mem d hx)
        simpa using hphase
      · simp only [potential, Option.map_some, Option.getD_some, hu.incomingCost, hu'.incomingCost,
          List.map_cons, List.sum_cons, sum_cost_data, Forward.cost, if_neg hlast,
          if_neg (by omega : ¬ received = size), List.append_nil]
        omega
  | @sent size t received u' under hlt ht hu hpaused hsum hall =>
    obtain rfl := Option.some.inj hincoming
    cases under with
    | nil => simp at hforward
    | cons d under =>
      simp only [List.map_cons, List.cons_append, List.cons.injEq, Forward.data.injEq] at hforward
      obtain ⟨rfl, rfl⟩ := hforward
      simp only [List.flatten_cons, List.length_append] at hsum
      have hu' := hu.advance (n := d.length) (by omega)
      have hfinished : u'.position + UInt64.ofNat d.length = u'.fileSize ↔
          received + d.length = size := hu'.eq_iff
      have hall' : ∀ x ∈ under, 1 ≤ x.length := fun x hx => hall x (List.mem_cons_of_mem d hx)
      by_cases hlast : received + d.length = size
      · -- the last chunk: no other is under way
        rw [if_pos (hfinished.mpr hlast)]
        subst hlast
        obtain rfl : under = [] := by
          cases under with
          | nil => rfl
          | cons x under =>
            have hx := hall' x List.mem_cons_self
            simp only [List.flatten_cons, List.length_append] at hsum
            omega
        refine ⟨?_, ?_⟩
        · have hphase : Phase causes _ := .received ht hu' hpaused
          simpa using hphase
        · simp only [potential, Option.map_some, Option.getD_some, hu.incomingCost,
            hu'.incomingCost, List.map_cons, List.sum_cons, List.map_nil, List.sum_nil,
            List.cons_append, List.nil_append, Forward.cost, if_pos, if_neg hlt.ne,
            List.length_cons, List.length_nil]
          omega
      · rw [if_neg fun heq => hlast (hfinished.mp heq)]
        refine ⟨?_, ?_⟩
        · have hphase := @Phase.sent causes _ _ _ _ under (by omega) ht hu' hpaused (by omega) hall'
          simpa using hphase
        · simp only [potential, Option.map_some, Option.getD_some, hu.incomingCost,
            hu'.incomingCost, List.map_append, List.sum_append, List.map_cons, List.sum_cons,
            sum_cost_data, Forward.cost, if_neg hlast, if_neg hlt.ne, List.append_nil]
          omega
  | _ => simp at hforward

/-- The receiver learns that the sender is done. -/
theorem Phase.senderFinished_step {forward : List Forward} (h : Phase causes c)
    (hforward : c.forward = .control .finished :: forward) :
    Advances causes c { c with forward, incoming := none } := by
  cases h with
  | @sending size sent t received u under requests =>
    cases under with
    | nil => cases hforward
    | cons d under => simp at hforward
  | @sent size t received u under hlt ht hu hpaused hsum hall =>
    cases under with
    | nil =>
      simp only [List.flatten_nil, List.length_nil] at hsum
      omega
    | cons d under => simp at hforward
  | received ht hu hpaused =>
    obtain ⟨-, rfl⟩ := List.cons.inj hforward
    refine ⟨.receiverDone ht, ?_⟩
    simp [potential, hu.incomingCost, Forward.cost]
  | senderDone hu hpaused =>
    obtain ⟨-, rfl⟩ := List.cons.inj hforward
    refine ⟨.done _, ?_⟩
    simp [potential, hu.incomingCost, Forward.cost]
  | _ => simp at hforward

/-- The sender learns that the receiver is done. -/
theorem Phase.receiverFinished_step {backward : List LegacyControl} (h : Phase causes c)
    (hbackward : c.backward = .finished :: backward) :
    Advances causes c { c with backward, outgoing := none } := by
  cases h with
  | received ht hu hpaused =>
    obtain ⟨-, rfl⟩ := List.cons.inj hbackward
    refine ⟨.senderDone hu hpaused, ?_⟩
    simp [potential, ht.outgoingCost le_rfl]
  | receiverDone ht =>
    obtain ⟨-, rfl⟩ := List.cons.inj hbackward
    refine ⟨.done _, ?_⟩
    simp [potential, ht.outgoingCost le_rfl]
  | _ => simp at hbackward

/-- A step is possible in some phases only; it leads to the next phase and uses up something. -/
theorem Phase.step (h : Phase causes c) (hs : Step causes c c') : Advances causes c c' := by
  cases hs with
  | offered hforward hincoming hcause => exact h.offered_step hforward hcause
  | resume hoffers => exact h.resume_step hoffers
  | denied hoffers hincoming hfriend => exact h.denied_step hoffers hincoming hfriend
  | accepted hbackward houtgoing => exact h.accepted_step hbackward houtgoing
  | answer houtgoing hrequests hne hle => exact h.answer_step houtgoing hrequests hne hle
  | data hforward hincoming => exact h.data_step hforward hincoming
  | senderFinished hforward => exact h.senderFinished_step hforward
  | receiverFinished hbackward => exact h.receiverFinished_step hbackward

/-- A request uses up nothing. -/
theorem Phase.request {limit : ℕ} (h : Phase causes c) (hr : Request limit c c') :
    Phase causes c' ∧ c'.potential = c.potential := by
  cases hr with
  | @request t length houtgoing hdue hpos hlimit hwithin =>
    have hcost : outgoingCost { t with sizeRequested := length, eventPending := true } =
        outgoingCost t := rfl
    refine ⟨?_, by simp [potential, houtgoing, hcost]⟩
    cases h with
    | @sending size sent t' received u under requests hlt ht hrunning hwaiting hu hpaused hsum
        hall =>
      obtain rfl := Option.some.inj houtgoing
      cases hwaiting with
      | idle hpending =>
        have ht' : Reached size sent { t' with sizeRequested := length, eventPending := true } :=
          ⟨ht.fileSize, ht.position⟩
        exact .sending hlt ht' hrunning (.asked rfl hpos hwithin) hu hpaused hsum hall
      | asked hpending =>
        rw [hdue.2.2] at hpending
        cases hpending
    | unused | senderDone | done => cases houtgoing
    | offered hsize ht hpaused | announced hsize ht hpaused | denied hsize ht hpaused
    | accepted hsize ht hpaused =>
      obtain rfl := Option.some.inj houtgoing
      rw [hdue.2.1] at hpaused
      cases hpaused
    | sent hlt ht =>
      obtain rfl := Option.some.inj houtgoing
      exact absurd (ht.eq_iff.mpr rfl) hdue.1
    | received ht | receiverDone ht =>
      obtain rfl := Option.some.inj houtgoing
      exact absurd (ht.eq_iff.mpr rfl) hdue.1

/-- No request is for more bytes than a limit. -/
def Within (limit : ℕ) (c : Exchange) : Prop :=
  ∀ request ∈ c.requests, request.2.toNat ≤ limit

theorem Within.step {limit : ℕ} (h : c.Within limit) (hs : Step causes c c') : c'.Within limit := by
  cases hs with
  | answer => exact fun request hmem => by cases hmem
  | _ => exact h

theorem Within.request {limit : ℕ} (h : c.Within limit) (hr : Request limit c c') :
    c'.Within limit := by
  cases hr with
  | request houtgoing hdue hpos hlimit hwithin =>
    intro request hmem
    rcases List.mem_append.mp hmem with hmem | hmem
    · exact h request hmem
    · rw [List.mem_singleton.mp hmem]
      exact hlimit

theorem Within.send {limit size : ℕ} (h : c.Within limit) (hs : Send size c c') :
    c'.Within limit := by
  cases hs with
  | send => exact h

/-- The steps that the file may take, once it has been offered. -/
def paid (c : Exchange) : ℕ := (c.size.map budget).getD 0

/-- A request pays for nothing. -/
theorem Request.paid {limit : ℕ} (hr : Request limit c c') : c'.paid = c.paid := by
  cases hr with
  | request => rfl

/-- A file that is offered may take its budget. -/
theorem Phase.send {size : ℕ} (h : Phase causes c) (hs : Send size c c') :
    Phase causes c' ∧ c'.potential + c.paid ≤ c.potential + c'.paid := by
  cases hs with
  | @send t hnone hpos hposition hfileSize hpaused hpending =>
    cases h with
    | unused =>
      have ht : Reached size 0 t := ⟨hfileSize, by rw [hposition]; rfl⟩
      refine ⟨.offered hpos ht hpaused hpending, ?_⟩
      simp only [potential, paid, budget, Option.map_some, Option.getD_some, Option.map_none,
        Option.getD_none, ht.outgoingCost (Nat.zero_le _), List.nil_append, List.map_cons,
        List.map_nil, List.sum_cons, List.sum_nil, Forward.cost, List.length_nil]
      split <;> omega
    | _ => cases hnone

/-- What is left of a transfer on which nothing is left to do, if it was not denied. -/
theorem Phase.quiet (h : Phase causes c) (hcauses : ¬ causes .friend) (hforward : c.forward = [])
    (hbackward : c.backward = []) (hrequests : c.requests = []) (hoffers : c.offers = 0)
    (hdue : ∀ t, c.outgoing = some t → ¬ t.Due) :
    ∀ size, c.size = some size → c.outgoing = none ∧ c.incoming = none ∧ c.received = size := by
  cases h with
  | unused => simp
  | done size => simp
  | sending hlt ht hrunning hwaiting hu hpaused hsum hall =>
    cases hwaiting with
    | idle hpending =>
      refine absurd ⟨fun heq => ?_, hrunning, hpending⟩ (hdue _ rfl)
      have heq' := ht.eq_iff.mp heq
      omega
    | asked => cases hrequests
  | announced => cases hoffers
  | denied hpos ht hpaused hpending hu hwaiting hfriend => exact absurd hfriend hcauses
  | accepted | receiverDone => cases hbackward
  | sent => simp at hforward
  | offered | received | senderDone => cases hforward

/-! ## What a phase says -/

theorem Phase.of_size_none (h : Phase causes c) (hsize : c.size = none) : c = {} := by
  cases h with
  | unused => rfl
  | _ => cases hsize

theorem Phase.of_offer {size : UInt64} {forward : List Forward} (h : Phase causes c)
    (hforward : c.forward = .offer size :: forward) : c.incoming = none := by
  cases h with
  | sending => exact absurd hforward data_ne_offer_alone
  | sent => exact absurd hforward (data_ne_offer (by simp))
  | offered => rfl
  | _ => simp at hforward

theorem Phase.of_data {data : List UInt8} {forward : List Forward} (h : Phase causes c)
    (hforward : c.forward = .data data :: forward) : ∃ u, c.incoming = some u := by
  cases h with
  | sending | sent => exact ⟨_, rfl⟩
  | _ => simp at hforward

/-- The only control for the receiver is that the sender is done. -/
theorem Phase.of_control {code : LegacyControl} {forward : List Forward} (h : Phase causes c)
    (hforward : c.forward = .control code :: forward) :
    code = .finished ∧ ∃ u, c.incoming = some u := by
  cases h with
  | @sending size sent t received u under =>
    cases under with
    | nil => cases hforward
    | cons => simp at hforward
  | @sent size t received u under =>
    cases under with
    | nil =>
      simp only [List.map_nil, List.nil_append, List.cons.injEq, Forward.control.injEq] at hforward
      exact ⟨hforward.1.symm, _, rfl⟩
    | cons => simp at hforward
  | received | senderDone =>
    simp only [List.cons.injEq, Forward.control.injEq] at hforward
    exact ⟨hforward.1.symm, _, rfl⟩
  | _ => simp at hforward

theorem Phase.of_backward {code : LegacyControl} {backward : List LegacyControl}
    (h : Phase causes c) (hbackward : c.backward = code :: backward) :
    (code = .accept ∨ code = .finished) ∧ ∃ t, c.outgoing = some t := by
  cases h with
  | accepted =>
    obtain ⟨rfl, -⟩ := List.cons.inj hbackward
    exact ⟨.inl rfl, _, rfl⟩
  | received | receiverDone =>
    obtain ⟨rfl, -⟩ := List.cons.inj hbackward
    exact ⟨.inr rfl, _, rfl⟩
  | _ => cases hbackward

theorem Phase.of_request {position length : UInt64} (h : Phase causes c)
    (hmem : (position, length) ∈ c.requests) :
    c.requests = [(position, length)] ∧ 0 < length.toNat ∧ (∃ t, c.outgoing = some t) ∧
      ∃ size, c.size = some size ∧ position.toNat < size := by
  cases h with
  | sending hlt ht hrunning hwaiting =>
    cases hwaiting with
    | idle => cases hmem
    | asked hpending hpos =>
      obtain ⟨rfl, rfl⟩ := Prod.mk.inj (List.mem_singleton.mp hmem)
      exact ⟨rfl, hpos, ⟨_, rfl⟩, _, rfl, ht.position ▸ hlt⟩
  | _ => cases hmem

theorem Phase.of_offers (h : Phase causes c) (hoffers : 0 < c.offers) :
    c.offers = 1 ∧ ∃ u, c.incoming = some u ∧ u.state = .paused := by
  cases h with
  | announced hsize ht hpaused hpending hu hwaiting => exact ⟨rfl, _, rfl, hwaiting⟩
  | _ => cases hoffers

/-- What is received is never running. -/
theorem Phase.incoming_paused {u : FileTransfer} (h : Phase causes c)
    (hincoming : c.incoming = some u) : u.state = .paused := by
  cases h with
  | announced hsize ht hpaused hpending hu hwaiting
  | denied hsize ht hpaused hpending hu hwaiting =>
    obtain rfl := Option.some.inj hincoming
    exact hwaiting
  | accepted hsize ht hpaused hpending hu hwaiting =>
    obtain rfl := Option.some.inj hincoming
    exact hwaiting
  | sending hlt ht hrunning hwaiting hu hpaused =>
    obtain rfl := Option.some.inj hincoming
    exact hpaused
  | sent hlt ht hu hpaused =>
    obtain rfl := Option.some.inj hincoming
    exact hpaused
  | received ht hu hpaused =>
    obtain rfl := Option.some.inj hincoming
    exact hpaused
  | senderDone hu hpaused =>
    obtain rfl := Option.some.inj hincoming
    exact hpaused
  | _ => cases hincoming

end

end Exchange

end Tox4j.Adapter
