import Tox4j.Java.Proofs.FileRuns

/-!
# Java clients that cooperate hear all of every file

When the core and both clients cooperate, every turn succeeds; and from every state the listeners
can be told of all that was sent. Iterations bring no transfer forward, but once both sides have
iterated the clients know of everything that the adapters wait for.
-/

namespace Tox4j.Java

open Tox4j.Adapter Tox4j.Misc

section

variable {Bytes : Type} {proto : Protobuf Bytes} {friend : Side → UInt32} {size : Side → Int32}
  {causes : PauseReason → Prop} {js js' : JavaSystem} {a : Side} {turn : JavaTurn}

structure JavaHealthy (friend : Side → UInt32) (size : Side → Int32)
    (causes : PauseReason → Prop) (js : JavaSystem) : Prop where
  ok : JavaOk friend js
  healthy : js.sys.Healthy friend size causes

theorem cooperative_native (h : JavaOk friend js) (hc : turn.Cooperative friend size causes js) :
    Turn.Cooperative friend size causes js.sys turn.native :=
  ⟨allowed_native h hc.allowed, hc.core, hc.move⟩

/-- Every turn of clients that cooperate succeeds. -/
theorem JavaHealthy.next (h : proto.RoundTrips) (hh : JavaHealthy friend size causes js)
    (hc : turn.Cooperative friend size causes js) :
    ∃ js', js.step proto friend turn = .ok js' ∧ JavaHealthy friend size causes js' ∧
      js'.sys.potential friend + js.sys.budget + turn.native.proceeds ≤
        js.sys.potential friend + js'.sys.budget := by
  obtain ⟨sys, hsys, hhealthy, hle⟩ := hh.healthy.turn (cooperative_native hh.ok hc)
  obtain ⟨js', hstep⟩ := step_of_native h hsys
  obtain ⟨hnative, hok⟩ := hh.ok.step h hc.allowed hstep
  obtain rfl := Except.ok.inj (hsys.symm.trans hnative)
  exact ⟨js', hstep, ⟨hok, hhealthy⟩, hle⟩

theorem javaHealthy_empty : JavaHealthy friend size causes {} := ⟨javaOk_empty, healthy_empty⟩

/-- So the steps that are left become no more, unless a file is sent. -/
theorem JavaHealthy.spent (h : proto.RoundTrips) (hh : JavaHealthy friend size causes js)
    (hc : turn.Cooperative friend size causes js) (hsends : turn.native.sends = false) :
    ∃ js', js.step proto friend turn = .ok js' ∧ JavaHealthy friend size causes js' ∧
      js'.sys.potential friend + turn.native.proceeds ≤ js.sys.potential friend := by
  obtain ⟨js', hstep, hh', hle⟩ := hh.next h hc
  have hbudget := step_budget hsends (hh.ok.step h hc.allowed hstep).1
  exact ⟨js', hstep, hh', by omega⟩

/-- A run of cooperating clients is one of cooperating adapters. -/
theorem JavaHealthy.run (h : proto.RoundTrips) (hh : JavaHealthy friend size causes js)
    {turns : List JavaTurn} (hrun : JavaSystem.Cooperates friend proto size causes js turns js') :
    System.Cooperates friend size causes js.sys (turns.map JavaTurn.native) js'.sys ∧
      JavaHealthy friend size causes js' := by
  induction hrun with
  | nil => exact ⟨.nil, hh⟩
  | snoc _ hs ih =>
    obtain ⟨js'', hstep, hh', -⟩ := ih.2.next h hs.1
    obtain rfl := Except.ok.inj (hs.2.symm.trans hstep)
    rw [List.map_append]
    exact ⟨.snoc ih.1 ⟨cooperative_native ih.2.ok hs.1,
      (ih.2.ok.step h hs.1.allowed hs.2).1⟩, hh'⟩

/-- An iteration empties the `CoreEvents` of its side, and no turn touches the other side's. -/
theorem step_events {lg : Legacy} {move : JavaMove}
    (hstep : js.step proto friend (a, lg, move) = .ok js') :
    (∀ s, s ≠ a → js'.events s = js.events s) ∧ (move = .iteration → js'.events a = {}) := by
  simp only [JavaSystem.step, Checked.bind_eq_ok] at hstep
  obtain ⟨reported, -, sys, -, hreport⟩ := hstep
  have htaken : (JavaSystem.taken { js with sys } a move).events = js.events := by
    cases move <;> rfl
  cases move with
  | iteration =>
    rw [JavaSystem.report] at hreport
    have hclear := iteration_clears proto (fun _ => true) (js.events a) (reported.map nativeEvent)
    simp only [JavaSystem.taken] at hreport
    generalize Java.iteration proto (fun _ => true) (js.events a) (reported.map nativeEvent) =
      result at hreport hclear
    obtain ⟨calls, events⟩ := result
    simp only [Checked.bind_eq_ok, Checked.pure_eq_ok] at hreport
    obtain ⟨calls, -, rfl⟩ := hreport
    refine ⟨fun s hs => ?_, fun _ => ?_⟩
    · simp [JavaSystem.told, Function.update_of_ne hs]
    · simpa [JavaSystem.told] using hclear
  | _ =>
    obtain rfl := Except.ok.inj hreport
    refine ⟨fun s hs => ?_, fun heq => by cases heq⟩
    simp [htaken, Function.update_of_ne hs]

/-- Both sides iterate. -/
theorem JavaHealthy.flush (h : proto.RoundTrips)
    (hsize : ∀ s, 1 ≤ (size s).toInt ∧ (size s).toInt ≤ 65535)
    (hh : JavaHealthy friend size causes js) :
    ∃ turns js', JavaSystem.Cooperates friend proto size causes js turns js' ∧
      JavaHealthy friend size causes js' ∧ js'.AllTold ∧
        js'.sys.potential friend ≤ js.sys.potential friend := by
  have hiterate : ∀ (s : Side) (js : JavaSystem),
      JavaTurn.Cooperative friend size causes js (s, .cooperative (size s), .iteration) :=
    fun s js => ⟨hsize s, cooperates_cooperative _ _, trivial⟩
  obtain ⟨js₁, hstep₁, hh₁, hle₁⟩ := hh.spent h (hiterate .alice js) rfl
  obtain ⟨js₂, hstep₂, hh₂, hle₂⟩ := hh₁.spent h (hiterate .bob js₁) rfl
  obtain ⟨-, halice⟩ := step_events hstep₁
  obtain ⟨hkept, hbob⟩ := step_events hstep₂
  refine ⟨_, js₂, .cons ⟨hiterate .alice js, hstep₁⟩ (.single ⟨hiterate .bob js₁, hstep₂⟩), hh₂,
    fun s kind => ?_, ?_⟩
  · cases s with
    | alice => rw [hkept .alice (by decide), halice rfl, CoreEvents.empty_calls]
    | bob => rw [hbob rfl, CoreEvents.empty_calls]
  · omega

theorem JavaSystem.AllTold.requests (h : js.AllTold) (hlinked : Linked js) (s : Side) :
    js.sys.requests s = (js.requests s).map ChunkRequest.native := by
  rw [hlinked.requests, JavaSystem.allRequests, toldOrWaiting, h, List.filterMap_nil,
    List.append_nil]

theorem JavaSystem.AllTold.offers (h : js.AllTold) (hlinked : Linked js) (s : Side) :
    js.sys.offers s = (js.offers s).map Int32.toUInt32 := by
  rw [hlinked.offers, JavaSystem.allOffers, toldOrWaiting, h, List.filterMap_nil, List.append_nil]

/-- A client answers a request it has been told of with the next byte of the file. -/
theorem JavaHealthy.answerable (hh : JavaHealthy friend size causes js) {request : ChunkRequest}
    (hmem : request ∈ js.requests a) :
    ∃ data, JavaTurn.Cooperative friend size causes js
      (a, .cooperative (size a), .fileSendChunk request data) := by
  have hnative : request.native ∈ js.sys.requests a := by
    rw [hh.ok.linked.requests]
    exact List.mem_map_of_mem (List.mem_append_left _ hmem)
  obtain ⟨data, ⟨-, hone, hlength, hdata⟩, hcore, hmove⟩ := hh.healthy.answerable hnative
  have hshort := (hh.ok.ok.shape.requests a _ hnative).1
  have hposition : request.position.toInt.toNat = request.native.position.toNat := by
    have hint := toInt_of_lt (request_fits hh.ok hnative)
    have hback : request.native.position.toInt64 = request.position := Int64.toInt64_toUInt64 _
    rw [hback] at hint
    rw [hint, Int.toNat_natCast]
  have hint : request.length.toInt = request.native.length.toNat := by
    have hnat : request.native.length.toNat = request.length.toUInt32.toNat := by
      simp [ChunkRequest.native]
    rw [hnat] at hshort ⊢
    exact BitVec.toInt_eq_toNat_of_lt (x := request.length.toBitVec) (by
      have : request.length.toBitVec.toNat = request.length.toUInt32.toNat := rfl
      omega)
  refine ⟨data, ⟨hmem, hone, ?_, ?_⟩, hcore, hmove⟩
  · rw [hint]
    exact_mod_cast hlength
  · rw [hposition]
    exact hdata

/-- A turn that brings a transfer forward, and then an iteration on both sides. -/
theorem JavaHealthy.proceeds (h : proto.RoundTrips)
    (hsize : ∀ s, 1 ≤ (size s).toInt ∧ (size s).toInt ≤ 65535)
    (hh : JavaHealthy friend size causes js) (turn : JavaTurn)
    (hc : turn.Cooperative friend size causes js) (hone : turn.native.proceeds = 1)
    (hsends : turn.native.sends = false) :
    ∃ turns js', JavaSystem.Cooperates friend proto size causes js turns js' ∧
      (JavaHealthy friend size causes js' ∧ js'.AllTold) ∧
        js'.sys.potential friend < js.sys.potential friend := by
  obtain ⟨js₁, hstep, hh₁, hle⟩ := hh.spent h hc hsends
  obtain ⟨turns, js', hrun, hh', htold, hle'⟩ := hh₁.flush h hsize
  exact ⟨_, js', .cons ⟨hc, hstep⟩ hrun, ⟨hh', htold⟩, by omega⟩

/-- Clients that have been told of everything are done, or can go on. -/
theorem JavaHealthy.goes (h : proto.RoundTrips) (hcauses : causes .initial)
    (hsize : ∀ s, 1 ≤ (size s).toInt ∧ (size s).toInt ≤ 65535)
    (hh : JavaHealthy friend size causes js) (htold : js.AllTold) : js.Quiescent ∨
      ∃ turns js', JavaSystem.Cooperates friend proto size causes js turns js' ∧
        (JavaHealthy friend size causes js' ∧ js'.AllTold) ∧
          js'.sys.potential friend < js.sys.potential friend := by
  by_cases hinFlight : ∀ s, js.sys.inFlight s = []
  swap
  · obtain ⟨s, hs⟩ := not_forall.mp hinFlight
    exact .inr (hh.proceeds h hsize (s, .cooperative (size s), .deliver .initial)
      ⟨trivial, cooperates_cooperative _ _, hs, hcauses⟩ rfl rfl)
  by_cases hoffers : ∀ s, js.offers s = []
  swap
  · obtain ⟨s, hs⟩ := not_forall.mp hoffers
    obtain ⟨num, hnum⟩ := List.exists_mem_of_ne_nil _ hs
    exact .inr (hh.proceeds h hsize (s, .cooperative (size s), .fileControl num)
      ⟨hnum, cooperates_cooperative _ _, trivial⟩ rfl rfl)
  by_cases hrequests : ∀ s, js.requests s = []
  swap
  · obtain ⟨s, hs⟩ := not_forall.mp hrequests
    obtain ⟨request, hrequest⟩ := List.exists_mem_of_ne_nil _ hs
    obtain ⟨data, hc⟩ := hh.answerable hrequest
    exact .inr (hh.proceeds h hsize _ hc rfl rfl)
  by_cases hdue : ∀ s f n t, (js.sys.tox s).getTransfer f n = some t → ¬ t.Due
  · exact .inl ⟨hinFlight, htold, hrequests, hoffers, hdue⟩
  · -- an iteration tells the client of a request at once
    push Not at hdue
    obtain ⟨s, f, n, t, ht, hdue⟩ := hdue
    have hcore := cooperates_cooperative (friend s) (size s)
    have hc : JavaTurn.Cooperative friend size causes js (s, .cooperative (size s), .iteration) :=
      ⟨hsize s, hcore, trivial⟩
    obtain ⟨mid, hstep, hh₁, hle⟩ := hh.spent h hc rfl
    obtain ⟨hkept, hcleared⟩ := step_events hstep
    have htold₁ : mid.AllTold := by
      intro s' kind
      by_cases hs : s' = s
      · rw [hs, hcleared rfl, CoreEvents.empty_calls]
      · rw [hkept s' hs]
        exact htold s' kind
    obtain ⟨r, hr⟩ := hh.healthy.asks (.cooperative (size s)) (hsize s) ht hdue
    have hsys := Except.ok.inj (hh.ok.step h hc.allowed hstep).1
    have hr : r ∈ mid.sys.requests s := hsys ▸ hr
    rw [htold₁.requests hh₁.ok.linked] at hr
    obtain ⟨request, hrequest, -⟩ := List.mem_map.mp hr
    obtain ⟨data, hanswer⟩ := hh₁.answerable hrequest
    obtain ⟨turns, js', hrun, hinv, hlt⟩ := hh₁.proceeds h hsize _ hanswer rfl rfl
    exact .inr ⟨_, js', .cons ⟨hc, hstep⟩ hrun, hinv, by omega⟩

/-- Where nothing is left to do, the listeners have heard every file. -/
theorem JavaHealthy.complete (hh : JavaHealthy friend size causes js)
    (hcauses : ¬ causes .friend) (hq : js.Quiescent) : js.Complete friend := by
  have hlinked := hh.ok.linked
  have hquiescent : js.sys.Quiescent :=
    ⟨hq.inFlight, fun s => by rw [hq.told.requests hlinked, hq.requests, List.map_nil],
      fun s => by rw [hq.told.offers hlinked, hq.offers, List.map_nil], hq.due⟩
  intro s n content hfile
  obtain ⟨hbytes, hgone⟩ := hh.healthy.complete hcauses hquiescent s n content hfile
  refine ⟨?_, hgone⟩
  have hall : js.sys.chunksOf s n = (js.chunksOf s n).map nativePart := by
    rw [System.chunksOf, hlinked.chunks, List.filterMap_map, JavaSystem.chunksOf,
      List.map_filterMap, JavaSystem.allChunks, toldOrWaiting, hq.told, List.filterMap_nil,
      List.append_nil]
    exact List.filterMap_congr fun chunk _ => chunkOn_native n chunk
  rw [hall, flatMap_nativePart] at hbytes
  exact hbytes

end

/-- In every run of Java clients and a core that cooperate, every turn they can take succeeds; where
    nothing is left to do the listeners have been told of every byte of every file; and this can be
    reached from every state, for the files sent so far. No transfer begins with a cause that says
    the friend paused it. -/
theorem java_cooperation_completes {Bytes : Type} (proto : Protobuf Bytes) (h : proto.RoundTrips)
    (friend : Side → UInt32) (size : Side → Int32)
    (hsize : ∀ s, 1 ≤ (size s).toInt ∧ (size s).toInt ≤ 65535) {turns : List JavaTurn}
    {js : JavaSystem}
    (hrun : JavaSystem.Cooperates friend proto size (fun cause => cause ≠ .friend) {} turns js) :
    (∀ turn, turn.Cooperative friend size (fun cause => cause ≠ .friend) js →
        (js.step proto friend turn).Succeeds) ∧
      (js.Quiescent → js.Complete friend) ∧
        ∃ turns' js', JavaSystem.Cooperates friend proto size (fun cause => cause ≠ .friend) js
          turns' js' ∧ js'.Quiescent ∧ js'.Complete friend ∧
            ∀ s n content, js.sys.files s n = some content → js'.sys.files s n = some content := by
  obtain ⟨-, hh⟩ := javaHealthy_empty.run h hrun
  have hcauses : ¬ PauseReason.friend ≠ .friend := fun hne => hne rfl
  refine ⟨fun turn hc => ?_, hh.complete hcauses, ?_⟩
  · obtain ⟨js', hstep, -⟩ := hh.next h hc
    exact ⟨js', hstep⟩
  obtain ⟨turns₁, js₁, hrun₁, hh₁, htold₁, -⟩ := hh.flush h hsize
  obtain ⟨turns₂, js₂, hrun₂, ⟨hh₂, -⟩, hquiescent⟩ :=
    Run.exists_final
      (fun js => JavaHealthy friend size (fun cause => cause ≠ .friend) js ∧ js.AllTold)
      JavaSystem.Quiescent (fun js => js.sys.potential friend)
      (fun _ hinv => hinv.1.goes h (by decide) hsize hinv.2) ⟨hh₁, htold₁⟩
  have hall := hrun₁.append hrun₂
  refine ⟨turns₁ ++ turns₂, js₂, hall, hquiescent, hh₂.complete hcauses hquiescent, ?_⟩
  intro s n content hfile
  exact files_of_cooperates (hh.run h hall).1 hh.ok.ok hfile

/-- A successful run is one of cooperating clients when the core always cooperates and every
    transfer begins with one of the causes. -/
theorem javaCooperates_of_reachable {Bytes : Type} {proto : Protobuf Bytes}
    {friend : Side → UInt32} {size : Side → Int32} {causes : PauseReason → Prop}
    {turns : List JavaTurn} {js : JavaSystem}
    (h : JavaSystem.Reachable friend proto turns js)
    (hcore : ∀ turn ∈ turns, turn.2.1.Cooperates (friend turn.1) (size turn.1))
    (hcause : ∀ turn ∈ turns, ∀ cause, turn.2.2 = .deliver cause → causes cause) :
    JavaSystem.Cooperates friend proto size causes {} turns js := by
  induction h with
  | nil => exact .nil
  | @snoc turns js js' turn _ hs ih =>
    simp only [List.mem_append, List.mem_singleton] at hcore hcause
    have hmove : turn.2.2.native.Deliverable causes (js.sys.inFlight turn.1) := by
      obtain ⟨a, lg, move⟩ := turn
      cases move with
      | deliver cause =>
        refine ⟨fun hnone => ?_, hcause _ (.inr rfl) cause rfl⟩
        have hstep := hs.2
        simp [JavaSystem.step, JavaTurn.native, JavaMove.native, reports, hnone] at hstep
      | _ => trivial
    exact .snoc (ih (fun turn hmem => hcore turn (.inl hmem)) fun turn hmem =>
      hcause turn (.inl hmem)) ⟨⟨hs.1, hcore turn (.inr rfl), hmove⟩, hs.2⟩

/-- The last chunk of the three bytes has been sent. -/
theorem java_cooperation_completes_threeBytes : ∃ js turns' js',
    JavaSystem.Cooperates (fun _ => 0) plainProtobuf (fun _ => 1371) (fun cause => cause ≠ .friend)
      {} (javaThreeBytes.take 10) js ∧
    JavaSystem.Cooperates (fun _ => 0) plainProtobuf (fun _ => 1371) (fun cause => cause ≠ .friend)
      js turns' js' ∧
      js'.Quiescent ∧ js'.Complete fun _ => 0 := by
  have hexec : (do
      let js ← JavaSystem.runTurns (fun _ => 0) plainProtobuf {} (javaThreeBytes.take 10)
      return js.chunksOf .alice 0) = (.ok [] : Checked _) := by
    decide +kernel
  simp only [Checked.bind_eq_ok, Checked.pure_eq_ok] at hexec
  obtain ⟨js, hexec, -⟩ := hexec
  have hrun : JavaSystem.Cooperates (fun _ => 0) plainProtobuf (fun _ => 1371)
      (fun cause => cause ≠ .friend) {} (javaThreeBytes.take 10) js := by
    refine javaCooperates_of_reachable (reachable_of_runTurns hexec) ?_ ?_
    · intro turn hmem
      have hone : turn.2.1 = Legacy.oneFriend := by
        simp only [javaThreeBytes, List.take_succ_cons, List.take_zero, List.mem_cons,
          List.not_mem_nil, or_false] at hmem
        rcases hmem with rfl | rfl | rfl | rfl | rfl | rfl | rfl | rfl | rfl | rfl <;> rfl
      rw [hone]
      exact cooperates_oneFriend
    · have hnot : ∀ turn ∈ javaThreeBytes.take 10, turn.2.2 ≠ .deliver .friend := by decide
      rintro turn hmem cause hmove rfl
      exact hnot turn hmem hmove
  obtain ⟨-, -, turns', js', hrun', hquiescent, hcomplete, -⟩ :=
    java_cooperation_completes plainProtobuf (fun _ => rfl) _ _ (fun _ => by decide) hrun
  exact ⟨js, turns', js', hrun, hrun', hquiescent, hcomplete⟩

end Tox4j.Java
