import Tox4j.Java.Proofs.Files

/-!
# What two Java clients hear of each other's files

The clients' turns are turns of the two adapters, and what their listeners hear are the chunks that
the adapters report. Files are small enough that no position changes its value in a `long`.
-/

namespace Tox4j.Java

open Tox4j.Adapter Tox4j.Misc

section

variable {Bytes : Type} {proto : Protobuf Bytes} {friend : Side → UInt32} {a s : Side}

theorem toInt_le_toUInt32 (x : Int32) : x.toInt ≤ x.toUInt32.toNat := by
  have h := BitVec.toInt_eq_toNat_cond x.toBitVec
  have hnat : x.toUInt32.toNat = x.toBitVec.toNat := rfl
  have hint : x.toInt = x.toBitVec.toInt := rfl
  split at h <;> omega

theorem toInt_of_lt {x : UInt64} (h : x.toNat < 2 ^ 63) : x.toInt64.toInt = x.toNat :=
  BitVec.toInt_eq_toNat_of_lt (x := x.toBitVec) (by have : x.toBitVec.toNat = x.toNat := rfl; omega)

/-- The file behind a transfer and the positions asked for fit into a `long`. -/
structure Fits (c : Channel) : Prop where
  file : ∀ content, c.file = some content → content.length < 2 ^ 63
  requests : ∀ r ∈ c.requests, r.1.toNat < 2 ^ 63

theorem Fits.step {c c' : Channel} (h : Fits c) (hok : c.Ok) (hstep : Channel.Step c c')
    (hfile : ∀ content, c'.file = some content → content.length < 2 ^ 63) : Fits c' := by
  refine ⟨hfile, ?_⟩
  cases hstep with
  | request hout hpending hlength =>
    rename_i t length
    intro r hr
    rcases List.mem_append.mp hr with hr | hr
    · exact h.requests r hr
    · obtain rfl := List.mem_singleton.mp hr
      cases hc : c.file with
      | none =>
        rw [hok.fresh hc] at hout
        cases hout
      | some content =>
        have hposition := (hok.outgoing content t hc hout).2.1
        have hsent := (hok.sent_initial content hc).length_le
        have hlong := h.file content hc
        dsimp only
        omega
  | answer _ _ hrequests _ _ =>
    intro r hr
    refine h.requests r ?_
    rw [hrequests]
    rcases List.mem_append.mp hr with hr | hr
    · exact List.mem_append_left _ hr
    · exact List.mem_append_right _ (List.mem_cons_of_mem _ hr)
  | refuse hrequests =>
    intro r hr
    refine h.requests r ?_
    rw [hrequests]
    rcases List.mem_append.mp hr with hr | hr
    · exact List.mem_append_left _ hr
    · exact List.mem_append_right _ (List.mem_cons_of_mem _ hr)
  | _ => exact h.requests

/-- What the adapters have reported is what the clients know or will know. -/
structure Linked (js : JavaSystem) : Prop where
  requests : ∀ s, js.sys.requests s = (js.allRequests s).map ChunkRequest.native
  offers : ∀ s, js.sys.offers s = (js.allOffers s).map Int32.toUInt32
  chunks : ∀ s, js.sys.chunks s = (js.allChunks s).map nativeChunk

structure JavaOk (friend : Side → UInt32) (js : JavaSystem) : Prop where
  ok : js.sys.Ok friend
  linked : Linked js
  fits : ∀ s n, Fits (js.sys.channel friend s n)

variable {js js' : JavaSystem} {turn : JavaTurn}

theorem request_fits (h : JavaOk friend js) {r : Request} (hr : r ∈ js.sys.requests s) :
    r.position.toNat < 2 ^ 63 := by
  obtain ⟨-, n, hn⟩ := h.ok.shape.requests s r hr
  refine (h.fits s n).requests (r.position, r.length) ?_
  exact List.mem_filterMap.mpr ⟨r, hr, if_pos hn⟩

/-- What a client may do, the adapter's client may do. -/
theorem allowed_native (h : JavaOk friend js) (hallowed : turn.Allowed friend js) :
    Turn.Allowed friend js.sys turn.native := by
  obtain ⟨a, lg, move⟩ := turn
  cases move with
  | fileSend kind content filename cause =>
    obtain ⟨hne, hlong, hnew⟩ := hallowed
    exact ⟨hne, by omega, hnew⟩
  | iteration => exact hallowed
  | fileSendChunk request data =>
    obtain ⟨hmem, hone, hlength, hdata⟩ := hallowed
    have hnative : request.native ∈ js.sys.requests a := by
      rw [h.linked.requests]
      exact List.mem_map_of_mem (List.mem_append_left _ hmem)
    have hposition : request.position.toInt.toNat = request.native.position.toNat := by
      have hint := toInt_of_lt (request_fits h hnative)
      have hback : request.native.position.toInt64 = request.position := Int64.toInt64_toUInt64 _
      rw [hback] at hint
      rw [hint, Int.toNat_natCast]
    have hle : request.native.length.toNat = request.length.toUInt32.toNat := by
      simp [ChunkRequest.native]
    have hint := toInt_le_toUInt32 request.length
    rw [hposition] at hdata
    exact ⟨hnative, hone, by omega, hdata⟩
  | fileControl fileNumber =>
    show fileNumber.toUInt32 ∈ js.sys.offers a
    rw [h.linked.offers]
    exact List.mem_map_of_mem (List.mem_append_left _ hallowed)
  | deliver cause => trivial

/-- A client takes up what the adapter waits for. -/
theorem taken_native {move : JavaMove} {lg : Legacy}
    (hallowed : JavaTurn.Allowed friend js (a, lg, move)) (sys : System) :
    ((JavaSystem.taken { js with sys } a move).allRequests a).map ChunkRequest.native =
        requestsLeft ((js.allRequests a).map ChunkRequest.native) move.native ∧
      ((JavaSystem.taken { js with sys } a move).allOffers a).map Int32.toUInt32 =
        offersLeft ((js.allOffers a).map Int32.toUInt32) move.native := by
  cases move with
  | fileSendChunk request data =>
    refine ⟨?_, rfl⟩
    simp only [JavaSystem.taken, JavaSystem.allRequests, toldOrWaiting, Function.update_self,
      JavaMove.native, requestsLeft]
    rw [← List.map_erase native_injective, List.erase_append_left _ hallowed.1]
  | fileControl fileNumber =>
    refine ⟨rfl, ?_⟩
    simp only [JavaSystem.taken, JavaSystem.allOffers, toldOrWaiting, Function.update_self,
      JavaMove.native, offersLeft]
    rw [← List.map_erase toUInt32_injective, List.erase_append_left _ hallowed]
  | _ => exact ⟨rfl, rfl⟩

/-- It takes up nothing of the other client's. -/
theorem taken_other (js : JavaSystem) (move : JavaMove) (hs : s ≠ a) :
    (js.taken a move).allRequests s = js.allRequests s ∧
      (js.taken a move).allOffers s = js.allOffers s := by
  cases move with
  | fileSendChunk request data =>
    refine ⟨?_, rfl⟩
    simp only [JavaSystem.taken, JavaSystem.allRequests, toldOrWaiting, Function.update_of_ne hs]
  | fileControl fileNumber =>
    refine ⟨rfl, ?_⟩
    simp only [JavaSystem.taken, JavaSystem.allOffers, toldOrWaiting, Function.update_of_ne hs]
  | _ => exact ⟨rfl, rfl⟩

theorem taken_chunks (js : JavaSystem) (move : JavaMove) :
    (js.taken a move).allChunks = js.allChunks := by
  cases move <;> rfl

theorem taken_sys (js : JavaSystem) (move : JavaMove) : (js.taken a move).sys = js.sys := by
  cases move <;> rfl

/-- A file is the one that was there, or the one that is sent. -/
theorem files_of_step {sys sys' : System} {lg : Legacy} {move : JavaMove}
    (hallowed : JavaTurn.Allowed friend js (a, lg, move))
    (hstep : sys.step friend (a, lg, move.native) = .ok sys') {n : UInt8} {content : List UInt8}
    (hfile : sys'.files s n = some content) :
    sys.files s n = some content ∨ content.length < 2 ^ 63 := by
  cases move with
  | fileSend kind sent filename cause =>
    simp only [JavaMove.native, System.step, Checked.bind_eq_ok, Checked.pure_eq_ok,
      Prod.exists] at hstep
    obtain ⟨err, num, tox, actions, -, rfl⟩ := hstep
    split at hfile
    · simp only [System.store, System.after] at hfile
      by_cases hs : s = a
      · subst hs
        rw [Function.update_self] at hfile
        by_cases hn : n = num.toUInt8
        · rw [hn, Function.update_self] at hfile
          cases hfile
          exact .inr hallowed.2.1
        · rw [Function.update_of_ne hn] at hfile
          exact .inl hfile
      · rw [Function.update_of_ne hs] at hfile
        exact .inl hfile
    · exact .inl hfile
  | iteration =>
    obtain rfl := Except.ok.inj hstep
    exact .inl hfile
  | fileSendChunk request data =>
    simp only [JavaMove.native, System.step, Checked.bind_eq_ok, Checked.pure_eq_ok,
      Prod.exists] at hstep
    obtain ⟨err, tox, actions, -, rfl⟩ := hstep
    exact .inl hfile
  | fileControl fileNumber =>
    simp only [JavaMove.native, System.step, Checked.bind_eq_ok, Checked.pure_eq_ok,
      Prod.exists] at hstep
    obtain ⟨err, tox, actions, -, rfl⟩ := hstep
    exact .inl hfile
  | deliver cause =>
    simp only [JavaMove.native, System.step] at hstep
    cases hin : sys.inFlight a with
    | nil => simp [hin] at hstep
    | cons packet packets =>
      rw [hin] at hstep
      simp only [Checked.bind_eq_ok, Checked.pure_eq_ok, Prod.exists] at hstep
      obtain ⟨tox, actions, -, rfl⟩ := hstep
      exact .inl hfile

/-- What the client knows of or will be told, after a turn of the adapters. -/
theorem Linked.report (h : proto.RoundTrips) (hlinked : Linked js) {lg : Legacy} {move : JavaMove}
    {sys : System} {reported : List Event} (hallowed : JavaTurn.Allowed friend js (a, lg, move))
    (hkept : Reported js.sys a move.native reported sys)
    (hshort : ∀ r ∈ sys.requests a, r.length.toNat ≤ 65535)
    (hreport : (JavaSystem.taken { js with sys } a move).report proto a move reported = .ok js') :
    js'.sys = sys ∧ Linked js' := by
  obtain ⟨hsys, hrequests, hoffers, hchunks⟩ := report_all h hreport
  rw [taken_sys] at hsys
  obtain ⟨htaken, htakenOffers⟩ := taken_native hallowed sys
  refine ⟨hsys, fun s => ?_, fun s => ?_, fun s => ?_⟩
  · rw [hsys, hkept.requests, hrequests]
    by_cases hs : s = a
    · subst hs
      have hnew : ∀ r ∈ reported.filterMap Event.request, r.length.toNat ≤ 65535 := by
        intro r hr
        refine hshort r ?_
        rw [hkept.requests, Function.update_self]
        exact List.mem_append_right _ hr
      rw [Function.update_self, Function.update_self, List.map_append, htaken,
        requests_native hnew, hlinked.requests]
    · rw [Function.update_of_ne hs, Function.update_of_ne hs, (taken_other _ _ hs).1]
      exact hlinked.requests s
  · rw [hsys, hkept.offers, hoffers]
    by_cases hs : s = a
    · subst hs
      rw [Function.update_self, Function.update_self, List.map_append, htakenOffers,
        offers_native, hlinked.offers]
    · rw [Function.update_of_ne hs, Function.update_of_ne hs, (taken_other _ _ hs).2]
      exact hlinked.offers s
  · rw [hsys, hkept.chunks, hchunks, taken_chunks]
    by_cases hs : s = a
    · subst hs
      rw [Function.update_self, Function.update_self, List.map_append, chunks_native,
        hlinked.chunks]
      rfl
    · rw [Function.update_of_ne hs, Function.update_of_ne hs]
      exact hlinked.chunks s

/-- A turn of the clients is a turn of the adapters. -/
theorem JavaOk.step (h : proto.RoundTrips) (hok : JavaOk friend js)
    (hallowed : turn.Allowed friend js) (hstep : js.step proto friend turn = .ok js') :
    js.sys.step friend turn.native = .ok js'.sys ∧ JavaOk friend js' := by
  obtain ⟨a, lg, move⟩ := turn
  simp only [JavaSystem.step, Checked.bind_eq_ok, JavaTurn.native] at hstep
  obtain ⟨reported, hreports, sys, hsys, hreport⟩ := hstep
  obtain ⟨events, hevents, hkept⟩ := step_reports hsys
  obtain rfl := Except.ok.inj (hevents.symm.trans hreports)
  have hnative : Turn.Allowed friend js.sys (a, lg, move.native) := allowed_native hok hallowed
  have hok' : sys.Ok friend := ok_step hok.ok hnative hsys
  obtain ⟨rfl, hlinked⟩ := hok.linked.report h hallowed hkept
    (fun r hr => (hok'.shape.requests a r hr).1) hreport
  refine ⟨hsys, hok', hlinked, fun s n => ?_⟩
  refine (hok.fits s n).step (hok.ok.channel s n) (step_refines hok.ok hnative hsys s n) ?_
  intro content hfile
  exact (files_of_step hallowed hsys hfile).elim ((hok.fits s n).file content) id

/-- A turn that the adapters can take, the clients can take. -/
theorem step_of_native (h : proto.RoundTrips) {sys : System}
    (hstep : js.sys.step friend turn.native = .ok sys) :
    (js.step proto friend turn).Succeeds := by
  obtain ⟨a, lg, move⟩ := turn
  have hnative : js.sys.step friend (a, lg, move.native) = .ok sys := hstep
  obtain ⟨events, hevents, -⟩ := step_reports hnative
  obtain ⟨js', hreport, -⟩ :=
    report_cases (a := a) h (JavaSystem.taken { js with sys } a move) move events
  refine ⟨js', ?_⟩
  simp only [JavaSystem.step, Checked.bind_eq_ok]
  exact ⟨events, hevents, sys, hstep, hreport⟩

theorem javaOk_empty : JavaOk friend {} := by
  refine ⟨ok_of_reachable .nil, ⟨fun s => ?_, fun s => ?_, fun s => ?_⟩,
    fun s n => ?_⟩
  · simp [JavaSystem.allRequests, toldOrWaiting, CoreEvents.empty_calls]
  · simp [JavaSystem.allOffers, toldOrWaiting, CoreEvents.empty_calls]
  · simp [JavaSystem.allChunks, toldOrWaiting, CoreEvents.empty_calls]
  · refine ⟨fun content hfile => ?_, fun r hr => ?_⟩
    · simp [System.channel] at hfile
    · simp [System.channel] at hr

/-- A run of the clients is a run of the adapters. -/
theorem run_native (h : proto.RoundTrips) {turns : List JavaTurn}
    (hrun : JavaSystem.Reachable friend proto turns js) :
    System.Reachable friend (turns.map JavaTurn.native) js.sys ∧ JavaOk friend js := by
  induction hrun with
  | nil => exact ⟨.nil, javaOk_empty⟩
  | snoc _ hs ih =>
    obtain ⟨hstep, hok⟩ := ih.2.step h hs.1 hs.2
    rw [List.map_append]
    exact ⟨.snoc ih.1 ⟨allowed_native ih.2 hs.1, hstep⟩, hok⟩

/-- The adapter's view of the position and data of a chunk. -/
def nativePart (chunk : Int64 × List UInt8) : UInt64 × List UInt8 :=
  (chunk.1.toUInt64, chunk.2)

theorem chunkOn_native (n : UInt8) (chunk : Int32 × Int64 × List UInt8) :
    chunkOn n (nativeChunk chunk) = (javaChunkOn n chunk).map nativePart := by
  have hiff : chunk.1.toUInt32 = (n.toUInt32 ||| 0x100) ↔
      chunk.1 = (n.toUInt32 ||| 0x100).toInt32 := by
    constructor
    · intro heq
      rw [← heq, Int32.toInt32_toUInt32]
    · intro heq
      rw [heq, UInt32.toUInt32_toInt32]
  unfold chunkOn javaChunkOn nativeChunk
  by_cases hnum : chunk.1 = (n.toUInt32 ||| 0x100).toInt32
  · rw [if_pos hnum, if_pos (hiff.mpr hnum)]
    rfl
  · rw [if_neg hnum, if_neg (fun heq => hnum (hiff.mp heq))]
    rfl

/-- The listener has been told of the first of the chunks that the adapter has reported. -/
theorem chunksOf_prefix (h : Linked js) (s : Side) (n : UInt8) :
    (js.chunksOf s n).map nativePart <+: js.sys.chunksOf s n := by
  have hall : js.sys.chunksOf s n =
      ((js.allChunks s.other).filterMap (javaChunkOn n)).map nativePart := by
    rw [System.chunksOf, h.chunks, List.filterMap_map, List.map_filterMap]
    exact List.filterMap_congr fun chunk _ => chunkOn_native n chunk
  rw [hall, JavaSystem.allChunks, toldOrWaiting, List.filterMap_append, List.map_append]
  exact List.prefix_append _ _

theorem consecutive_of_prefix {position : ℕ} {chunks chunks' : List (UInt64 × List UInt8)}
    (h : Channel.Consecutive position chunks') (hfirst : chunks <+: chunks') :
    Channel.Consecutive position chunks := by
  induction chunks generalizing position chunks' with
  | nil => trivial
  | cons chunk chunks ih =>
    obtain ⟨rest, rfl⟩ := hfirst
    obtain ⟨hstart, hrest⟩ := h
    exact ⟨hstart, ih hrest (List.prefix_append _ _)⟩

/-- The positions keep their values in Java when the file is small enough. -/
theorem javaConsecutive_of_native {position : ℕ} {chunks : List (Int64 × List UInt8)}
    (h : Channel.Consecutive position (chunks.map nativePart))
    (hsize : position + (chunks.flatMap Prod.snd).length < 2 ^ 63) :
    JavaConsecutive position chunks := by
  induction chunks generalizing position with
  | nil => trivial
  | cons chunk chunks ih =>
    obtain ⟨hstart, hrest⟩ := h
    simp only [List.flatMap_cons, List.length_append] at hsize
    refine ⟨?_, ih hrest ?_⟩
    · have hint := toInt_of_lt (x := chunk.1.toUInt64) (by rw [hstart]; omega)
      rwa [Int64.toInt64_toUInt64, hstart] at hint
    · omega

theorem flatMap_nativePart (chunks : List (Int64 × List UInt8)) :
    (chunks.map nativePart).flatMap Prod.snd = chunks.flatMap Prod.snd := by
  rw [List.flatMap_map]
  rfl

/-- The chunks heard are the first bytes of the file, and begin where they say. -/
theorem JavaOk.chunks (h : JavaOk friend js) (s : Side) (n : UInt8) :
    JavaConsecutive 0 (js.chunksOf s n) ∧ ∀ content, js.sys.files s n = some content →
      (js.chunksOf s n).flatMap Prod.snd <+: content := by
  have hfirst := chunksOf_prefix h.linked s n
  have hchannel := h.ok.channel s n
  have hnative := consecutive_of_prefix hchannel.consecutive hfirst
  have hbytes : (js.chunksOf s n).flatMap Prod.snd <+:
      (js.sys.chunksOf s n).flatMap Prod.snd := by
    obtain ⟨rest, hrest⟩ := hfirst
    rw [← hrest, List.flatMap_append, flatMap_nativePart]
    exact List.prefix_append _ _
  have hcontent : ∀ content, js.sys.files s n = some content →
      (js.chunksOf s n).flatMap Prod.snd <+: content := fun content hfile =>
    (hbytes.trans (List.prefix_append _ _)).trans (hchannel.sent_initial content hfile)
  refine ⟨javaConsecutive_of_native hnative ?_, hcontent⟩
  cases hfile : js.sys.files s n with
  | none =>
    have hnone : js.sys.chunksOf s n = [] := congrArg Channel.chunks (hchannel.fresh hfile)
    rw [hnone] at hbytes
    rw [List.prefix_nil.mp hbytes]
    decide
  | some content =>
    have hle := (hcontent content hfile).length_le
    have hlong := (h.fits s n).file content hfile
    omega

end

theorem reachable_of_runTurns {Bytes : Type} {proto : Protobuf Bytes} {friend : Side → UInt32}
    {turns : List JavaTurn} {js : JavaSystem}
    (h : JavaSystem.runTurns friend proto {} turns = .ok js) :
    JavaSystem.Reachable friend proto turns js :=
  (Run.of_foldlM h).mono fun _ _ _ hstep => by
    simp only [Checked.bind_eq_ok, Checked.assert_eq_ok, decide_eq_true_eq] at hstep
    obtain ⟨_, hallowed, hstep⟩ := hstep
    exact ⟨hallowed, hstep⟩

/-- Every run of two Java clients is one of the two adapters under them, in which the listener of
    the receiver is told of the first bytes of each file, in chunks at consecutive positions. -/
theorem java_file_received {Bytes : Type} (proto : Protobuf Bytes) (h : proto.RoundTrips)
    (friend : Side → UInt32) {turns : List JavaTurn} {js : JavaSystem}
    (hrun : JavaSystem.Reachable friend proto turns js) :
    System.Reachable friend (turns.map JavaTurn.native) js.sys ∧
      ∀ s n, JavaConsecutive 0 (js.chunksOf s n) ∧
        ∀ content, js.sys.files s n = some content →
          (js.chunksOf s n).flatMap Prod.snd <+: content := by
  obtain ⟨hnative, hok⟩ := run_native h hrun
  exact ⟨hnative, fun s n => hok.chunks s n⟩

/-- A file of three bytes, in two chunks. -/
def javaThreeBytes : List JavaTurn :=
  [(.alice, .oneFriend, .fileSend .data [1, 2, 3] (.bytes [97]) .initial),
    (.bob, .oneFriend, .deliver .initial), (.bob, .oneFriend, .iteration),
    (.bob, .oneFriend, .fileControl 0x100), (.alice, .oneFriend, .deliver .initial),
    (.alice, .oneFriend, .iteration),
    (.alice, .oneFriend, .fileSendChunk { fileNumber := 0, position := 0, length := 3 } [1, 2]),
    (.alice, .oneFriend, .iteration), (.bob, .oneFriend, .deliver .initial),
    (.alice, .oneFriend, .fileSendChunk { fileNumber := 0, position := 2, length := 1 } [3]),
    (.bob, .oneFriend, .deliver .initial), (.bob, .oneFriend, .iteration)]

theorem java_file_received_threeBytes : ∃ js,
    JavaSystem.Reachable (fun _ => 0) plainProtobuf javaThreeBytes js ∧
      js.chunksOf .alice 0 = [(0, [1, 2]), (2, [3])] ∧
        JavaConsecutive 0 (js.chunksOf .alice 0) := by
  have h : (do
      let js ← JavaSystem.runTurns (fun _ => 0) plainProtobuf {} javaThreeBytes
      return js.chunksOf .alice 0) = (.ok [(0, [1, 2]), (2, [3])] : Checked _) := by
    decide +kernel
  simp only [Checked.bind_eq_ok, Checked.pure_eq_ok] at h
  obtain ⟨js, hrun, hchunks⟩ := h
  have hreach := reachable_of_runTurns hrun
  exact ⟨js, hreach, hchunks,
    ((java_file_received plainProtobuf (fun _ => rfl) _ hreach).2 .alice 0).1⟩

end Tox4j.Java
