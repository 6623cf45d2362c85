import Tox4j.Adapter.Proofs.ExchangeTurns
import Tox4j.Misc.Potential

/-!
# Every file arrives when the core and the clients cooperate

No assertion fails, the number of turns is bounded by the sizes of the files, and where nothing is
left to do every file has been received.
-/

namespace Tox4j.Adapter

open Tox4j.Misc

/-- The turn is a call of `new_tox_file_send`. -/
def Turn.sends : Turn → Bool
  | (_, _, .send _ _ _ _) => true
  | (_, _, .iterate) | (_, _, .answer _ _) | (_, _, .resume _) | (_, _, .deliver _) => false

section

variable {friend : Side → UInt32} {size : Side → Int32} {causes : PauseReason → Prop}
  {sys sys' : System} {a s : Side} {n : UInt8} {lg : Legacy}

/-! ## Every turn -/

theorem deliver_proceeds {cause : PauseReason} (h : sys.Healthy friend size causes)
    (hcore : lg.Cooperates (friend a) (size a)) (hp : sys.inFlight a ≠ [])
    (hcause : causes cause) :
    ∃ sys', sys.step friend (a, lg, .deliver cause) = .ok sys' ∧
      sys.Proceeds friend causes sys' := by
  obtain ⟨p, ps, hp⟩ := List.exists_cons_of_ne_nil hp
  cases p with
  | sendRequest m fileSize name => exact deliver_sendRequest_proceeds h hp hcause
  | control sr m code => exact deliver_control_proceeds h hp
  | data m data => exact deliver_data_proceeds h hcore hp

/-- The steps that are left in all transfers. -/
def System.potential (friend : Side → UInt32) (sys : System) : ℕ :=
  ∑ k : Side × UInt8, (sys.exchange friend k.1 k.2).potential

theorem potential_lt_of_part (k : Side × UInt8)
    (hlt : (sys'.exchange friend k.1 k.2).potential < (sys.exchange friend k.1 k.2).potential)
    (hsame : ∀ s n, (s, n) ≠ k → sys'.exchange friend s n = sys.exchange friend s n) :
    sys'.potential friend < sys.potential friend := by
  unfold System.potential
  refine sum_lt_of_part k hlt fun k' hne => ?_
  rw [hsame k'.1 k'.2 hne]

theorem budget_eq (friend : Side → UInt32) (sys : System) :
    sys.budget = ∑ k : Side × UInt8, (sys.exchange friend k.1 k.2).paid := by
  simp [System.budget, System.exchange, Exchange.paid, Option.map_map, Function.comp_def]

/-- What every transfer pays for, the system pays for. -/
theorem potential_le_of_parts
    (hle : ∀ s n, (sys'.exchange friend s n).potential + (sys.exchange friend s n).paid ≤
      (sys.exchange friend s n).potential + (sys'.exchange friend s n).paid) :
    sys'.potential friend + sys.budget ≤ sys.potential friend + sys'.budget := by
  simp only [System.potential, budget_eq friend, ← Finset.sum_add_distrib]
  exact Finset.sum_le_sum fun k _ => hle k.1 k.2

/-- Only a file that is sent becomes the one behind its number. -/
theorem step_files {turn : Turn} (hsends : turn.sends = false)
    (hstep : sys.step friend turn = .ok sys') : sys'.files = sys.files := by
  obtain ⟨a, lg, move⟩ := turn
  cases move with
  | send => cases hsends
  | iterate =>
    cases hstep
    rfl
  | answer | resume =>
    simp only [System.step, Checked.bind_eq_ok, Checked.pure_eq_ok] at hstep
    obtain ⟨_, -, rfl⟩ := hstep
    rfl
  | deliver =>
    simp only [System.step] at hstep
    split at hstep
    · cases hstep
    · simp only [Checked.bind_eq_ok, Checked.pure_eq_ok] at hstep
      obtain ⟨_, -, rfl⟩ := hstep
      rfl

theorem step_budget {turn : Turn} (hsends : turn.sends = false)
    (hstep : sys.step friend turn = .ok sys') : sys'.budget = sys.budget := by
  rw [System.budget, System.budget, step_files hsends hstep]

/-- What a turn leaves behind that takes one transfer forward. -/
theorem System.Proceeds.healthy (h : sys.Healthy friend size causes) (hok : sys'.Ok friend)
    (hp : sys.Proceeds friend causes sys') :
    sys'.Healthy friend size causes ∧ sys'.potential friend < sys.potential friend := by
  obtain ⟨s, n, hstep, hsame⟩ := hp
  obtain ⟨hphase, hlt⟩ := (h.phase s n).step hstep
  refine ⟨⟨hok, fun s' n' => ?_, fun s' n' => ?_⟩, ?_⟩
  · by_cases hkey : (s', n') = (s, n)
    · obtain ⟨rfl, rfl⟩ := Prod.mk.inj hkey
      exact hphase
    · rw [hsame s' n' hkey]
      exact h.phase s' n'
  · by_cases hkey : (s', n') = (s, n)
    · obtain ⟨rfl, rfl⟩ := Prod.mk.inj hkey
      exact (h.within s' n').step hstep
    · rw [hsame s' n' hkey]
      exact h.within s' n'
  · exact potential_lt_of_part (s, n) hlt hsame

/-- Every turn of a core and clients that cooperate succeeds, and the steps that are left become
    fewer with each turn that brings a transfer forward. Files that are offered pay for them. -/
theorem System.Healthy.turn {turn : Turn} (h : sys.Healthy friend size causes)
    (hc : turn.Cooperative friend size causes sys) :
    ∃ sys', sys.step friend turn = .ok sys' ∧ sys'.Healthy friend size causes ∧
      sys'.potential friend + sys.budget + turn.proceeds ≤
        sys.potential friend + sys'.budget := by
  have hproceeds : turn.sends = false → turn.proceeds = 1 →
      (∃ sys', sys.step friend turn = .ok sys' ∧ sys.Proceeds friend causes sys') →
      ∃ sys', sys.step friend turn = .ok sys' ∧ sys'.Healthy friend size causes ∧
        sys'.potential friend + sys.budget + turn.proceeds ≤
          sys.potential friend + sys'.budget := by
    rintro hsends hone ⟨sys', hstep, hp⟩
    obtain ⟨hhealthy, hlt⟩ := hp.healthy h (ok_step h.ok hc.allowed hstep)
    have hbudget := step_budget hsends hstep
    exact ⟨sys', hstep, hhealthy, by omega⟩
  obtain ⟨a, lg, move⟩ := turn
  obtain ⟨hallowed, hcore, hmove⟩ := hc
  cases move with
  | deliver cause => exact hproceeds rfl rfl (deliver_proceeds h hcore hmove.1 hmove.2)
  | answer r data =>
    exact hproceeds rfl rfl (answer_proceeds h hcore hallowed.1 hallowed.2.1 hallowed.2.2.1)
  | resume num => exact hproceeds rfl rfl (resume_proceeds h hcore hallowed)
  | send kind content filename cause =>
    obtain ⟨sys', hstep, hsame | ⟨m, hsend, hsame⟩⟩ := send_sends h hcore hallowed
    · refine ⟨sys', hstep, ⟨ok_step h.ok hallowed hstep, fun s n => ?_, fun s n => ?_⟩, ?_⟩
      · rw [hsame]
        exact h.phase s n
      · rw [hsame]
        exact h.within s n
      · rw [Turn.proceeds, Nat.add_zero]
        refine potential_le_of_parts fun s n => ?_
        rw [hsame]
    · obtain ⟨hphase, hle⟩ := (h.phase a m).send hsend
      refine ⟨sys', hstep, ⟨ok_step h.ok hallowed hstep, fun s n => ?_, fun s n => ?_⟩, ?_⟩
      · by_cases hkey : (s, n) = (a, m)
        · obtain ⟨rfl, rfl⟩ := Prod.mk.inj hkey
          exact hphase
        · rw [hsame s n hkey]
          exact h.phase s n
      · by_cases hkey : (s, n) = (a, m)
        · obtain ⟨rfl, rfl⟩ := Prod.mk.inj hkey
          exact (h.within s n).send hsend
        · rw [hsame s n hkey]
          exact h.within s n
      · rw [Turn.proceeds, Nat.add_zero]
        refine potential_le_of_parts fun s n => ?_
        by_cases hkey : (s, n) = (a, m)
        · obtain ⟨rfl, rfl⟩ := Prod.mk.inj hkey
          exact hle
        · rw [hsame s n hkey]
  | iterate =>
    have hrequests := iterate_requests h hcore hallowed
    refine ⟨sys.after a (afterToxDo lg (sys.tox a)).1 (afterToxDo lg (sys.tox a)).2, rfl,
      ⟨ok_step h.ok hallowed rfl, fun s n => ?_, fun s n => ?_⟩, ?_⟩
    · rcases hrequests s n with hsame | hrequest
      · rw [hsame]
        exact h.phase s n
      · exact ((h.phase s n).request hrequest).1
    · rcases hrequests s n with hsame | hrequest
      · rw [hsame]
        exact h.within s n
      · exact (h.within s n).request hrequest
    · rw [Turn.proceeds, Nat.add_zero]
      refine potential_le_of_parts fun s n => ?_
      rcases hrequests s n with hsame | hrequest
      · rw [hsame]
      · rw [((h.phase s n).request hrequest).2, hrequest.paid]

/-! ## Runs -/

theorem healthy_empty : System.Healthy friend size causes {} := by
  have hempty : ∀ s n, System.exchange friend {} s n = {} := by
    intro s n
    simp [System.exchange, System.chunksOf]
  refine ⟨ok_of_reachable .nil, fun s n => ?_, fun s n => ?_⟩
  · rw [hempty]
    exact .unused
  · rw [hempty]
    simp [Exchange.Within]

theorem potential_empty : System.potential friend {} = 0 := by
  refine Finset.sum_eq_zero fun k _ => ?_
  simp [System.exchange, System.chunksOf, Exchange.potential]

theorem budget_empty : ({} : System).budget = 0 := by simp [System.budget]

theorem System.Healthy.step {turn : Turn} (h : sys.Healthy friend size causes)
    (hs : Guarded (Turn.Cooperative friend size causes)
      (fun sys turn sys' => sys.step friend turn = .ok sys') sys turn sys') :
    sys'.Healthy friend size causes ∧
      sys'.potential friend + sys.budget + turn.proceeds ≤
        sys.potential friend + sys'.budget := by
  obtain ⟨sys'', hstep, hafter⟩ := h.turn hs.1
  obtain rfl := Except.ok.inj (hs.2.symm.trans hstep)
  exact hafter

theorem healthy_of_cooperates {turns : List Turn}
    (h : System.Cooperates friend size causes {} turns sys) : sys.Healthy friend size causes :=
  Run.invariant healthy_empty (fun _ _ _ hhealthy hs => (hhealthy.step hs).1) h

/-- A successful run is one of a core and clients that cooperate when the core always does and every
    transfer begins with one of the causes. -/
theorem cooperates_of_reachable {turns : List Turn} (h : System.Reachable friend turns sys)
    (hcore : ∀ turn ∈ turns, turn.2.1.Cooperates (friend turn.1) (size turn.1))
    (hcause : ∀ turn ∈ turns, ∀ cause, turn.2.2 = .deliver cause → causes cause) :
    System.Cooperates friend size causes {} turns sys := by
  induction h with
  | nil => exact .nil
  | @snoc turns sys sys' turn _ hs ih =>
    simp only [List.mem_append, List.mem_singleton] at hcore hcause
    have hmove : turn.2.2.Deliverable causes (sys.inFlight turn.1) := by
      obtain ⟨a, lg, move⟩ := turn
      cases move with
      | deliver cause =>
        refine ⟨fun hnone => ?_, hcause _ (.inr rfl) cause rfl⟩
        have hstep := hs.2
        simp [System.step, hnone] at hstep
      | _ => trivial
    exact .snoc (ih (fun turn hmem => hcore turn (.inl hmem)) fun turn hmem =>
      hcause turn (.inl hmem)) ⟨⟨hs.1, hcore turn (.inr rfl), hmove⟩, hs.2⟩

/-! ## Where nothing is left to do -/

theorem System.Healthy.complete (h : sys.Healthy friend size causes) (hcauses : ¬ causes .friend)
    (hq : sys.Quiescent) : sys.Complete friend := by
  intro s n content hfile
  have hsize : (sys.exchange friend s n).size = some content.length := by
    simp [System.exchange, hfile]
  have hquiet := (h.phase s n).quiet hcauses (by simp [System.exchange, hq.inFlight])
    (by simp [System.exchange, hq.inFlight]) (by simp [System.exchange, hq.requests])
    (by simp [System.exchange, hq.offers]) (fun t ht => hq.due s _ _ t ht) _ hsize
  obtain ⟨houtgoing, hincoming, hreceived⟩ := hquiet
  refine ⟨?_, houtgoing, hincoming⟩
  -- what was received is a prefix of the file, and as long as the file
  have hprefix : (sys.chunksOf s n).flatMap Prod.snd <+: content :=
    (List.prefix_append _ _).trans ((h.ok.channel s n).sent_initial content hfile)
  exact hprefix.eq_of_length hreceived

/-! ## Some turn is left to do -/

theorem cooperates_cooperative (f : UInt32) (size : Int32) :
    (Legacy.cooperative size).Cooperates f size :=
  ⟨rfl, rfl, rfl, .inl rfl, fun _ _ _ => rfl, fun _ _ => by simp [Legacy.cooperative]⟩

/-- A turn that brings a transfer forward is a run. -/
theorem System.Healthy.proceeds (h : sys.Healthy friend size causes) (turn : Turn)
    (hc : turn.Cooperative friend size causes sys) (hone : turn.proceeds = 1)
    (hsends : turn.sends = false) :
    ∃ sys', System.Cooperates friend size causes sys [turn] sys' ∧ sys'.Healthy friend size causes ∧
      sys'.potential friend < sys.potential friend := by
  obtain ⟨sys', hstep, hhealthy, hle⟩ := h.turn hc
  rw [step_budget hsends hstep] at hle
  exact ⟨sys', .single ⟨hc, hstep⟩, hhealthy, by omega⟩

/-- A request can be answered with the next byte of the file. -/
theorem System.Healthy.answerable {r : Request} (h : sys.Healthy friend size causes)
    (hmem : r ∈ sys.requests a) :
    ∃ data, Turn.Cooperative friend size causes sys
      (a, .cooperative (size a), .answer r data) := by
  obtain ⟨-, m, hm⟩ := h.ok.shape.requests a r hmem
  have hon : (r.position, r.length) ∈ (sys.exchange friend a m).requests :=
    List.mem_filterMap.mpr ⟨r, hmem, if_pos hm⟩
  obtain ⟨-, hpos, -, n, hsize, hlt⟩ := (h.phase a m).of_request hon
  simp only [System.exchange, Option.map_eq_some_iff] at hsize
  obtain ⟨content, hfile, rfl⟩ := hsize
  have hlength : ((content.drop r.position.toNat).take 1).length = 1 := by
    rw [List.length_take, List.length_drop]
    omega
  refine ⟨(content.drop r.position.toNat).take 1, ⟨hmem, ?_, ?_, ?_⟩,
    cooperates_cooperative _ _, trivial⟩
  · exact hlength.ge
  · exact hlength.trans_le hpos
  · rw [hm, UInt8.toUInt8_toUInt32, hfile, Option.getD_some]
    exact List.take_prefix 1 _

/-- An iteration asks for a transfer that is due. -/
theorem System.Healthy.asks {f num : UInt32} {t : FileTransfer} (h : sys.Healthy friend size causes)
    (lg : Legacy) (hallowed : Turn.Allowed friend sys (a, lg, .iterate))
    (ht : (sys.tox a).getTransfer f num = some t) (hdue : t.Due) :
    ∃ r, r ∈ (sys.after a (afterToxDo lg (sys.tox a)).1 (afterToxDo lg (sys.tox a)).2).requests
      a := by
  obtain ⟨rfl, m, rfl | rfl⟩ := h.ok.shape.keys a f num t ht
  · have hsize : requestSize lg (friend a) t ≠ 0 :=
      requestSize_ne_zero (by have := hallowed.1; omega) hdue
    have hnew := @afterToxDo_requests lg _ _ m fun f' n' t ht => (h.ok.shape.keys a f' n' t ht).1
    rw [ht] at hnew
    simp only [Option.toList_some, List.flatMap_singleton, hdue, hsize, ne_eq, not_false_eq_true,
      and_self, if_true] at hnew
    have hmem : (t.position, requestSize lg (friend a) t) ∈
        [(t.position, requestSize lg (friend a) t)] := List.mem_singleton_self _
    rw [← hnew] at hmem
    obtain ⟨r, hr, -⟩ := List.mem_filterMap.mp hmem
    refine ⟨r, ?_⟩
    simp only [System.after, Function.update_self]
    exact List.mem_append_right _ hr
  · have hpaused := (h.phase a.other m).incoming_paused (by simpa [System.exchange] using ht)
    rw [hdue.2.1] at hpaused
    cases hpaused

/-- A system on which something is left to do can go on. -/
theorem System.Healthy.goes (hcauses : causes .initial)
    (hsize : ∀ s, 1 ≤ (size s).toInt ∧ (size s).toInt ≤ 65535)
    (h : sys.Healthy friend size causes) : sys.Quiescent ∨
      ∃ turns sys', System.Cooperates friend size causes sys turns sys' ∧
        sys'.Healthy friend size causes ∧ sys'.potential friend < sys.potential friend := by
  by_cases hinFlight : ∀ s, sys.inFlight s = []
  swap
  · obtain ⟨s, hs⟩ := not_forall.mp hinFlight
    obtain ⟨sys', hrun⟩ := h.proceeds (s, .cooperative (size s), .deliver .initial)
      ⟨trivial, cooperates_cooperative _ _, hs, hcauses⟩ rfl rfl
    exact .inr ⟨_, sys', hrun⟩
  by_cases hoffers : ∀ s, sys.offers s = []
  swap
  · obtain ⟨s, hs⟩ := not_forall.mp hoffers
    obtain ⟨num, hnum⟩ := List.exists_mem_of_ne_nil _ hs
    obtain ⟨sys', hrun⟩ := h.proceeds (s, .cooperative (size s), .resume num)
      ⟨hnum, cooperates_cooperative _ _, trivial⟩ rfl rfl
    exact .inr ⟨_, sys', hrun⟩
  by_cases hrequests : ∀ s, sys.requests s = []
  swap
  · obtain ⟨s, hs⟩ := not_forall.mp hrequests
    obtain ⟨r, hr⟩ := List.exists_mem_of_ne_nil _ hs
    obtain ⟨data, hc⟩ := h.answerable hr
    obtain ⟨sys', hrun⟩ := h.proceeds _ hc rfl rfl
    exact .inr ⟨_, sys', hrun⟩
  by_cases hdue : ∀ s f n t, (sys.tox s).getTransfer f n = some t → ¬ t.Due
  · exact .inl ⟨hinFlight, hrequests, hoffers, hdue⟩
  · -- an iteration raises a request, and the client answers it
    push Not at hdue
    obtain ⟨s, f, n, t, ht, hdue⟩ := hdue
    have hcore := cooperates_cooperative (friend s) (size s)
    have hc : Turn.Cooperative friend size causes sys (s, .cooperative (size s), .iterate) :=
      ⟨hsize s, hcore, trivial⟩
    obtain ⟨mid, hstep, hhealthy, hle⟩ := h.turn hc
    obtain ⟨r, hr⟩ := h.asks (.cooperative (size s)) hc.allowed ht hdue
    rw [step_budget rfl hstep] at hle
    obtain rfl := Except.ok.inj hstep
    obtain ⟨data, hanswer⟩ := hhealthy.answerable hr
    obtain ⟨sys', hrun, hhealthy', hlt⟩ := hhealthy.proceeds _ hanswer rfl rfl
    exact .inr ⟨_, sys', .cons ⟨hc, rfl⟩ hrun, hhealthy', by omega⟩

theorem channel_file_step {c c' : Channel} {content : List UInt8} (h : Channel.Step c c')
    (hfile : c.file = some content) : c'.file = some content := by
  cases h with
  | send hnone => rw [hnone] at hfile; cases hfile
  | _ => exact hfile

/-- A file stays the one behind its number. -/
theorem files_of_cooperates {turns : List Turn} {content : List UInt8}
    (h : System.Cooperates friend size causes sys turns sys') (hok : sys.Ok friend)
    (hfile : sys.files s n = some content) : sys'.files s n = some content := by
  have hboth : sys'.Ok friend ∧ sys'.files s n = some content := by
    refine @Run.invariant _ _ _ _ _ _ (fun sys => sys.Ok friend ∧ sys.files s n = some content)
      ⟨hok, hfile⟩ (fun mid turn mid' hmid hs => ?_) h
    exact ⟨ok_step hmid.1 hs.1.allowed hs.2,
      channel_file_step (step_refines hmid.1 hs.1.allowed hs.2 s n) hmid.2⟩
  exact hboth.2

end

theorem cooperates_oneFriend : Legacy.oneFriend.Cooperates 0 1371 :=
  ⟨rfl, rfl, rfl, .inr (by decide), fun _ _ _ => rfl, fun _ _ => by simp [Legacy.oneFriend]⟩

/-- The run of the three bytes, up to the last byte that is sent. -/
theorem cooperates_threeBytes : ∃ sys, System.Cooperates (fun _ => 0) (fun _ => 1371)
    (fun cause => cause ≠ .friend) {} (threeBytes.take 9) sys ∧ sys.inFlight .bob ≠ [] := by
  have hexec : (do
      let sys ← System.runTurns (fun _ => 0) {} (threeBytes.take 9)
      return sys.inFlight .bob) = (.ok [.data 0 [3], .control false 0 .finished] : Checked _) := by
    decide +kernel
  simp only [Checked.bind_eq_ok, Checked.pure_eq_ok] at hexec
  obtain ⟨sys, hrun, hinFlight⟩ := hexec
  refine ⟨sys, cooperates_of_reachable (reachable_of_runTurns _ hrun) ?_ ?_, ?_⟩
  · intro turn hmem
    have hone : turn.2.1 = Legacy.oneFriend := by
      simp only [threeBytes, List.take_succ_cons, List.take_zero, List.mem_cons,
        List.not_mem_nil, or_false] at hmem
      rcases hmem with rfl | rfl | rfl | rfl | rfl | rfl | rfl | rfl | rfl <;> rfl
    rw [hone]
    exact cooperates_oneFriend
  · have hnot : ∀ turn ∈ threeBytes.take 9, turn.2.2 ≠ .deliver .friend := by decide
    rintro turn hmem cause hmove rfl
    exact hnot turn hmem hmove
  · rw [hinFlight]
    exact List.cons_ne_nil _ _

/-- In every run of a core and clients that cooperate, every turn they can take succeeds, whatever
    the cause with which a transfer begins: no assertion of the adapters fails. -/
theorem cooperation_never_fails (friend : Side → UInt32) (size : Side → Int32)
    (causes : PauseReason → Prop) {turns : List Turn} {sys : System} {turn : Turn}
    (h : System.Cooperates friend size causes {} turns sys)
    (hc : turn.Cooperative friend size causes sys) : (sys.step friend turn).Succeeds := by
  obtain ⟨sys', hstep, -⟩ := (healthy_of_cooperates h).turn hc
  exact ⟨sys', hstep⟩

theorem cooperation_never_fails_threeBytes : ∃ sys,
    System.Cooperates (fun _ => 0) (fun _ => 1371) (fun cause => cause ≠ .friend) {}
      (threeBytes.take 9) sys ∧
      (sys.step (fun _ => 0) (.bob, .oneFriend, .deliver .initial)).Succeeds := by
  obtain ⟨sys, hrun, hinFlight⟩ := cooperates_threeBytes
  exact ⟨sys, hrun, cooperation_never_fails _ _ _ hrun
    ⟨trivial, cooperates_oneFriend, hinFlight, by decide⟩⟩

/-- The deliveries, answers and acceptances of a run are at most two for each byte of the files
    that `new_tox_file_send` has offered, and five for each file. -/
theorem cooperation_bounded (friend : Side → UInt32) (size : Side → Int32)
    (causes : PauseReason → Prop) {turns : List Turn} {sys : System}
    (h : System.Cooperates friend size causes {} turns sys) :
    (turns.map Turn.proceeds).sum ≤ sys.budget := by
  have hle := Run.potential_le (System.Healthy friend size causes) (System.potential friend)
    System.budget Turn.proceeds (fun _ => 0) (fun _ _ _ hhealthy hs => (hhealthy.step hs).1)
    (fun _ _ _ hhealthy hs => (hhealthy.step hs).2.trans (Nat.le_add_right _ 0)) healthy_empty h
  rw [potential_empty, budget_empty, List.map_const', List.sum_replicate, smul_zero] at hle
  omega

theorem cooperation_bounded_threeBytes : ∃ sys,
    System.Cooperates (fun _ => 0) (fun _ => 1371) (fun cause => cause ≠ .friend) {}
      (threeBytes.take 9) sys ∧
      ((threeBytes.take 9).map Turn.proceeds).sum ≤ sys.budget ∧
        ((threeBytes.take 9).map Turn.proceeds).sum = 6 := by
  obtain ⟨sys, hrun, -⟩ := cooperates_threeBytes
  exact ⟨sys, hrun, cooperation_bounded _ _ _ hrun, rfl⟩

/-- Where nothing is left to do, every file has been received; and this can be reached from every
    state of a run, for the files offered so far. No transfer begins with a cause that says the
    friend paused it. -/
theorem cooperation_completes (friend : Side → UInt32) (size : Side → Int32)
    (hsize : ∀ s, 1 ≤ (size s).toInt ∧ (size s).toInt ≤ 65535) {turns : List Turn} {sys : System}
    (h : System.Cooperates friend size (fun cause => cause ≠ .friend) {} turns sys) :
    (sys.Quiescent → sys.Complete friend) ∧
      ∃ turns' sys', System.Cooperates friend size (fun cause => cause ≠ .friend) sys turns' sys' ∧
        sys'.Quiescent ∧ sys'.Complete friend ∧
          ∀ s n content, sys.files s n = some content → sys'.files s n = some content := by
  have hhealthy := healthy_of_cooperates h
  have hcauses : ¬ PauseReason.friend ≠ .friend := fun hne => hne rfl
  refine ⟨hhealthy.complete hcauses, ?_⟩
  obtain ⟨turns', sys', hrun, hhealthy', hquiescent⟩ :=
    Run.exists_final (System.Healthy friend size fun cause => cause ≠ .friend) System.Quiescent
      (System.potential friend) (fun _ hs => hs.goes (by decide) hsize) hhealthy
  exact ⟨turns', sys', hrun, hquiescent, hhealthy'.complete hcauses hquiescent,
    fun s n content hfile => files_of_cooperates hrun hhealthy.ok hfile⟩

theorem cooperation_completes_threeBytes : ∃ sys turns' sys',
    System.Cooperates (fun _ => 0) (fun _ => 1371) (fun cause => cause ≠ .friend) {}
      (threeBytes.take 9) sys ∧
      System.Cooperates (fun _ => 0) (fun _ => 1371) (fun cause => cause ≠ .friend) sys turns'
        sys' ∧
        sys'.Quiescent ∧ sys'.Complete fun _ => 0 := by
  obtain ⟨sys, hrun, -⟩ := cooperates_threeBytes
  obtain ⟨-, turns', sys', hrun', hquiescent, hcomplete, -⟩ :=
    cooperation_completes _ _ (fun _ => by decide) hrun
  exact ⟨sys, turns', sys', hrun, hrun', hquiescent, hcomplete⟩

end Tox4j.Adapter
