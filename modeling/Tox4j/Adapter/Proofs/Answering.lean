import Mathlib.Tactic
import Tox4j.Adapter.Answering
import Tox4j.Adapter.Proofs.Calls
import Tox4j.Adapter.Proofs.Frames

/-!
# When it makes no difference whether a request is answered inside its callback

The loops set the pending flag after the callback has returned. An answer that is accepted inside
the callback clears the flag before that, so the flag stays set, and nothing is requested for the
record again. Everything else is the same either way.
-/

namespace Tox4j.Adapter

open Tox4j.Misc

/-! ## One answer -/

section

variable {lg : Legacy} {tox : NewTox} {f n : UInt32} {t : FileTransfer} {data : Buffer}

instance : Decidable (lg.Connected f) := inferInstanceAs (Decidable (_ ∧ _))

theorem Legacy.takes_iff : lg.Takes f data ↔ data.length ≠ 0 ∧ data.length ≤ lg.dataSize f ∧
    data.isNull = false ∧ lg.Connected f := by
  constructor
  · intro h
    exact ⟨h.length_ne_zero, h.length_le, h.not_null, h.connected⟩
  · intro h
    exact ⟨h.1, h.2.1, h.2.2.1, h.2.2.2⟩

instance : Decidable (lg.Takes f data) := decidable_of_iff' _ Legacy.takes_iff

instance : Decidable (ChunkFails lg f n t data) := inferInstanceAs (Decidable (_ ∨ _))

/-- The checks before the transfer is looked at. -/
theorem newToxFileSendChunk_of_takes (h : lg.Takes f data) (ht : tox.getTransfer f n = some t) :
    newToxFileSendChunk lg tox f n data = do
      Checked.assert (lg.friendConnectionStatus f != -1) "status != -1"
      let (tox, actions) ← sendChunk lg tox f n t data
      return (.ok, tox, actions) := by
  have hlt : ¬ lg.dataSize f < data.length := UInt64.not_lt.mpr h.length_le
  obtain ⟨hexists, hstatus⟩ := h.connected
  simp [newToxFileSendChunk, newToxFriendGetConnectionStatus, h.length_ne_zero, hlt, h.not_null,
    hexists, hstatus, ht]

theorem newToxFileSendChunk_refused (tox : NewTox) (n : UInt32) (hlength : data.length ≠ 0)
    (h : ¬ lg.Takes f data) : ∃ err, newToxFileSendChunk lg tox f n data = .ok (err, tox, []) := by
  rw [Legacy.takes_iff] at h
  by_cases hle : lg.dataSize f < data.length
  · exact ⟨.tooLarge, by simp only [newToxFileSendChunk, hlength, hle, if_true, if_false]⟩
  by_cases hnull : data.isNull = true
  · exact ⟨.null, by simp [newToxFileSendChunk, hlength, hle, hnull]⟩
  by_cases hexists : lg.friendExists f = true
  · have hstatus : lg.friendConnectionStatus f = 0 := by
      by_contra hne
      exact h ⟨hlength, UInt64.not_lt.mp hle, by simpa using hnull, hexists, hne⟩
    refine ⟨.friendNotConnected, ?_⟩
    simp [newToxFileSendChunk, newToxFriendGetConnectionStatus, hlength, hle, hnull, hexists,
      hstatus, Checked.assert, pure, Except.pure]
  · exact ⟨.friendNotFound, by simp [newToxFileSendChunk, hlength, hle, hnull, hexists]⟩

/-- After the checks, the two calls of the legacy core have to succeed. -/
theorem sendChunk_succeeds_iff : (sendChunk lg tox f n t data).Succeeds ↔
    lg.fileSendData f (FileTransfer.oldFileNumber n)
        (data.contents.take data.length.toUInt16.toNat) ≠ -1 ∧
      (t.position + data.length = t.fileSize →
        lg.fileSendControl f (FileTransfer.sendReceive n) (FileTransfer.oldFileNumber n)
          .finished = 0) := by
  simp only [Checked.Succeeds, sendChunk, Checked.bind_eq_ok, Checked.assert_eq_ok]
  by_cases hposition : t.position + data.length = t.fileSize
  · simp only [hposition, if_true, Legacy.sendControl, Checked.bind_eq_ok, Checked.assert_eq_ok,
      Checked.pure_eq_ok, bne_iff_ne]
    constructor
    · intro h
      obtain ⟨_, _, hdata, _, hcontrol, -⟩ := h
      exact ⟨hdata, fun _ => of_decide_eq_true hcontrol⟩
    · intro h
      exact ⟨_, ⟨⟩, h.1, ⟨⟩, decide_eq_true (h.2 trivial), rfl⟩
  · simp [hposition]

theorem newToxFileSendChunk_taken (ht : tox.getTransfer f n = some t) (h : lg.Takes f data)
    (hfails : ¬ ChunkFails lg f n t data) : ∃ actions, newToxFileSendChunk lg tox f n data =
      .ok (.ok, tox.setTransfer f n { t.advance data.length with eventPending := false },
        actions) := by
  have hstatus : lg.friendConnectionStatus f ≠ -1 := fun heq => hfails (.inr ⟨h, .inl heq⟩)
  have hsucceeds : (sendChunk lg tox f n t data).Succeeds := by
    refine sendChunk_succeeds_iff.mpr ⟨?_, ?_⟩
    · intro heq
      exact hfails (.inr ⟨h, .inr (.inl heq)⟩)
    · intro hposition
      by_contra hcontrol
      exact hfails (.inr ⟨h, .inr (.inr ⟨hposition, hcontrol⟩)⟩)
  obtain ⟨⟨tox', actions⟩, hsend⟩ := hsucceeds
  obtain ⟨rfl, -⟩ := sendChunk_cases hsend
  refine ⟨actions, ?_⟩
  rw [newToxFileSendChunk_of_takes h ht, hsend]
  simp [hstatus, Checked.assert, pure, Except.pure]

theorem newToxFileSendChunk_fails (ht : tox.getTransfer f n = some t)
    (h : ChunkFails lg f n t data) : ∃ e, newToxFileSendChunk lg tox f n data = .error e := by
  cases hresult : newToxFileSendChunk lg tox f n data with
  | error e => exact ⟨e, rfl⟩
  | ok r =>
    exfalso
    rcases h with hempty | ⟨htakes, hfails⟩
    · simp only [newToxFileSendChunk, hempty, if_true] at hresult
      cases hresult
    · simp only [newToxFileSendChunk_of_takes htakes ht, Checked.bind_eq_ok, Checked.assert_eq_ok,
        bne_iff_ne, ne_eq] at hresult
      obtain ⟨_, hstatus, sent, hsend, -⟩ := hresult
      have hsucceeds := sendChunk_succeeds_iff.mp ⟨sent, hsend⟩
      rcases hfails with heq | hdata | ⟨hposition, hcontrol⟩
      · exact hstatus heq
      · exact hsucceeds.1 hdata
      · exact hcontrol (hsucceeds.2 hposition)

end

/-! ## The answers to all requests -/

/-- The transfer after the answer of a client, unless an assertion fails. -/
def answered (client : ChunkClient) (request : ChunkRequest) (t : FileTransfer) :
    Option FileTransfer :=
  if request.length = 0 then some t
  else match client request with
    | none => some t
    | some (lg, data) =>
      if ChunkFails lg request.friendNumber request.fileNumber t data then none
      else if lg.Takes request.friendNumber data then
        some { t.advance data.length with eventPending := false }
      else some t

def ChunkRequest.key (request : ChunkRequest) : UInt32 × UInt32 :=
  (request.friendNumber, request.fileNumber)

/-- What an answer does is what the chunk does that is sent. -/
theorem answerChunk_sent {client : ChunkClient} {request : ChunkRequest} {tox tox' : NewTox}
    {lg : Legacy} {data : Buffer} {err : ErrFileSendChunk} {actions : List Action}
    (hzero : request.length ≠ 0) (hclient : client request = some (lg, data))
    (hsend : newToxFileSendChunk lg tox request.friendNumber request.fileNumber data =
      .ok (err, tox', actions)) : answerChunk client request tox = .ok (tox', actions) := by
  rw [answerChunk, if_neg hzero, hclient]
  simp only [hsend, Checked.ok_bind]
  rfl

/-- An answer touches no other transfer. -/
theorem answerChunk_local (client : ChunkClient) :
    LocalStep (fun (tox : NewTox) key => tox.getTransfer key.1 key.2) ChunkRequest.key
      (answerChunk client) (answered client) where
  ok {request tox t t'} ht hanswered := by
    change tox.getTransfer request.friendNumber request.fileNumber = some t at ht
    have hsame : t' = t → answerChunk client request tox = .ok (tox, []) →
        ∃ tox' actions, answerChunk client request tox = .ok (tox', actions) ∧
          tox'.getTransfer request.key.1 request.key.2 = some t' ∧
          ∀ k, k ≠ request.key → tox'.getTransfer k.1 k.2 = tox.getTransfer k.1 k.2 := by
      intro heq hanswer
      exact ⟨tox, [], hanswer, heq ▸ ht, fun _ _ => rfl⟩
    unfold answered at hanswered
    split at hanswered
    · next hzero =>
      exact hsame (Option.some.inj hanswered).symm (by rw [answerChunk, if_pos hzero])
    next hzero =>
    split at hanswered
    · next hclient =>
      exact hsame (Option.some.inj hanswered).symm (by rw [answerChunk, if_neg hzero, hclient])
    next lg data hclient =>
    split at hanswered
    · cases hanswered
    next hfails =>
    split at hanswered
    · next htakes =>
      obtain ⟨actions, hsend⟩ := newToxFileSendChunk_taken ht htakes hfails
      refine ⟨_, actions, answerChunk_sent hzero hclient hsend, ?_, ?_⟩
      · rw [← Option.some.inj hanswered]
        exact NewTox.getTransfer_setTransfer_self ..
      · intro k hk
        rw [NewTox.getTransfer_setTransfer, if_neg]
        intro heq
        exact hk (Prod.ext heq.1.symm heq.2.symm)
    · next htakes =>
      obtain ⟨err, hsend⟩ := newToxFileSendChunk_refused tox request.fileNumber
        (fun heq => hfails (.inl heq)) htakes
      exact hsame (Option.some.inj hanswered).symm (answerChunk_sent hzero hclient hsend)
  fails {request tox t} ht hanswered := by
    change tox.getTransfer request.friendNumber request.fileNumber = some t at ht
    unfold answered at hanswered
    split at hanswered
    · cases hanswered
    next hzero =>
    split at hanswered
    · cases hanswered
    next lg data hclient =>
    split at hanswered
    · next hfails =>
      obtain ⟨e, hsend⟩ := newToxFileSendChunk_fails ht hfails
      exact ⟨e, by rw [answerChunk, if_neg hzero, hclient]; simp only [hsend]; rfl⟩
    · split at hanswered <;> cases hanswered

section

variable {lg : Legacy} {client : ChunkClient} {tox : NewTox} {key : UInt32 × UInt32}
  {t : FileTransfer}

/-- The request that an iteration raises for a transfer that is due. -/
def dueRequest (lg : Legacy) (key : UInt32 × UInt32) (t : FileTransfer) : ChunkRequest :=
  ⟨key.1, key.2, t.position, requestSize lg key.1 t⟩

/-- The transfer after the loop body with a callback that answers. -/
def loopAnswered (lg : Legacy) (client : ChunkClient) (key : UInt32 × UInt32) (t : FileTransfer) :
    Option FileTransfer :=
  if t.Due then
    (answered client (dueRequest lg key t) { t with sizeRequested := requestSize lg key.1 t }).map
      fun t => { t with eventPending := true }
  else some t

theorem requestAnswered_due (ht : tox.getTransfer key.1 key.2 = some t) (hdue : t.Due) :
    requestAnswered lg client key tox = do
      let (tox, actions) ← answerChunk client (dueRequest lg key t)
        (tox.setTransfer key.1 key.2 { t with sizeRequested := requestSize lg key.1 t })
      let tox := match tox.getTransfer key.1 key.2 with
        | none => tox
        | some t => tox.setTransfer key.1 key.2 { t with eventPending := true }
      return (tox, .event (.fileRequestChunk key.1 key.2 t.position (requestSize lg key.1 t)) ::
        actions) := by
  simp only [requestAnswered, ht, hdue.1, hdue.2, and_self, if_true, if_false]
  rfl

theorem requestAnswered_not_due (ht : tox.getTransfer key.1 key.2 = some t) (hdue : ¬ t.Due) :
    requestAnswered lg client key tox = .ok (tox, []) := by
  simp only [requestAnswered, ht]
  split
  · rfl
  · split
    · exact absurd ⟨‹_›, ‹_›⟩ hdue
    · rfl

/-- The loop body touches no other transfer, even when its callback answers. -/
theorem requestAnswered_local (lg : Legacy) (client : ChunkClient) :
    LocalStep (fun (tox : NewTox) key => tox.getTransfer key.1 key.2) id
      (requestAnswered lg client) (loopAnswered lg client) where
  ok {key tox t t'} ht hloop := by
    change tox.getTransfer key.1 key.2 = some t at ht
    by_cases hdue : t.Due
    · rw [loopAnswered, if_pos hdue, Option.map_eq_some_iff] at hloop
      obtain ⟨u, hanswered, rfl⟩ := hloop
      obtain ⟨mid, actions, hanswer, hself, hothers⟩ := (answerChunk_local client).ok
        (NewTox.getTransfer_setTransfer_self tox key.1 key.2 _) hanswered
      have hself' : mid.getTransfer key.1 key.2 = some u := hself
      refine ⟨mid.setTransfer key.1 key.2 { u with eventPending := true }, _,
        by rw [requestAnswered_due ht hdue, hanswer, Checked.ok_bind]; simp only [hself']; rfl,
        NewTox.getTransfer_setTransfer_self .., ?_⟩
      intro k hk
      have hkey : ¬ (key.1 = k.1 ∧ key.2 = k.2) :=
        fun heq => hk (Prod.ext heq.1.symm heq.2.symm)
      show NewTox.getTransfer _ k.1 k.2 = tox.getTransfer k.1 k.2
      rw [NewTox.getTransfer_setTransfer, if_neg hkey]
      refine (hothers k hk).trans ?_
      rw [NewTox.getTransfer_setTransfer, if_neg hkey]
    · rw [loopAnswered, if_neg hdue] at hloop
      exact ⟨tox, [], requestAnswered_not_due ht hdue, hloop ▸ ht, fun _ _ => rfl⟩
  fails {key tox t} ht hloop := by
    change tox.getTransfer key.1 key.2 = some t at ht
    by_cases hdue : t.Due
    · rw [loopAnswered, if_pos hdue, Option.map_eq_none_iff] at hloop
      obtain ⟨e, hanswer⟩ := (answerChunk_local client).fails
        (NewTox.getTransfer_setTransfer_self tox key.1 key.2 _) hloop
      exact ⟨e, by rw [requestAnswered_due ht hdue, hanswer]; rfl⟩
    · rw [loopAnswered, if_neg hdue] at hloop
      cases hloop

/-! ## The two iterations -/

/-- The transfer after the loop and an answer that comes later. -/
def laterAnswered (lg : Legacy) (client : ChunkClient) (key : UInt32 × UInt32) (t : FileTransfer) :
    Option FileTransfer :=
  if t.Due then
    answered client (dueRequest lg key t)
      { t with sizeRequested := requestSize lg key.1 t, eventPending := true }
  else some t

section

variable {callbacks : List LegacyCallback} {mid : NewTox} {out : List Action}

theorem mem_keys_iff : key ∈ tox.transfers.keys ↔ ∃ t, tox.getTransfer key.1 key.2 = some t := by
  rw [Std.ExtTreeMap.mem_keys, Std.ExtTreeMap.mem_iff_isSome_getElem?, Option.isSome_iff_exists]
  rfl

theorem iterationAnswered_updates (client : ChunkClient)
    (h : toxDo lg callbacks tox = .ok (mid, out)) :
    Updates (fun (tox : NewTox) key => tox.getTransfer key.1 key.2)
      (fun key => mid.getTransfer key.1 key.2) (loopAnswered lg client)
      (iterationAnswered lg callbacks client tox) := by
  have hloop := (requestAnswered_local lg client).updates_keys
    (distinct_keys (checkConnection lg mid).1.transfers) fun _ => mem_keys_iff
  simp only [getTransfer_checkConnection] at hloop
  refine hloop.extend ?_ ?_
  · intro r hrun
    refine ⟨out ++ (checkConnection lg mid).2 ++ r.2, ?_⟩
    simp only [iterationAnswered, h, Checked.ok_bind, hrun]
    rfl
  · intro e hrun
    simp only [iterationAnswered, h, Checked.ok_bind, hrun]
    rfl

theorem chunkRequest_eq_some {a : Action} {request : ChunkRequest} :
    a.chunkRequest = some request ↔ a = .event (.fileRequestChunk request.friendNumber
      request.fileNumber request.position request.length) := by
  obtain ⟨f, n, position, length⟩ := request
  cases a with
  | event e => cases e <;> simp [Action.chunkRequest]
  | newSender | sendControl | sendData => simp [Action.chunkRequest]

/-- The callbacks inside `tox_do` raise requests for 0 bytes only. -/
theorem toxDo_requests (h : toxDo lg callbacks tox = .ok (mid, out)) :
    ∀ request ∈ out.filterMap Action.chunkRequest, request.length = 0 := by
  induction callbacks generalizing tox out with
  | nil =>
    cases h
    simp
  | cons callback callbacks ih =>
    simp only [toxDo, Checked.bind_eq_ok, Checked.pure_eq_ok, Prod.exists, Prod.mk.injEq] at h
    obtain ⟨tox', actions, hcallback, _, out', hrest, rfl, rfl⟩ := h
    intro request hmem
    rw [List.filterMap_append, List.mem_append] at hmem
    rcases hmem with hmem | hmem
    · obtain ⟨a, ha, heq⟩ := List.mem_filterMap.mp hmem
      rw [chunkRequest_eq_some] at heq
      subst heq
      cases callback with
      | fileSendRequest f n size name cause =>
        obtain ⟨-, -, rfl⟩ := fileSendRequest_eq_ok.mp hcallback
        cases List.mem_singleton.mp ha
      | fileControl f rs n control =>
        obtain ⟨t, -, ⟨-, -, rfl⟩ | ⟨-, -, rfl⟩⟩ := fileControl_cases hcallback
        · cases List.mem_singleton.mp ha
        · have heq := List.mem_singleton.mp ha
          simp only [Action.event.injEq, Event.fileRequestChunk.injEq] at heq
          exact heq.2.2.2
      | fileData f n data =>
        obtain ⟨t, -, -, rfl⟩ := fileData_cases hcallback
        split at ha <;> simp at ha
    · exact ih hrest request hmem

/-- What the loop asks for. -/
theorem mem_requests {request : ChunkRequest} :
    request ∈ (afterToxDo lg tox).2.filterMap Action.chunkRequest ↔
      ∃ key t, tox.getTransfer key.1 key.2 = some t ∧ t.Due ∧ request = dueRequest lg key t := by
  simp only [List.mem_filterMap, chunkRequest_eq_some]
  constructor
  · intro h
    obtain ⟨_, ha, rfl⟩ := h
    rcases mem_afterToxDo ha with ⟨status, heq⟩ | ⟨f, n, t, ht, hdue, heq⟩
    · cases heq
    · obtain ⟨f', n', position, length⟩ := request
      simp only [Action.event.injEq, Event.fileRequestChunk.injEq] at heq
      obtain ⟨rfl, rfl, rfl, rfl⟩ := heq
      exact ⟨(f', n'), t, ht, hdue, rfl⟩
  · intro h
    obtain ⟨key, t, ht, hdue, rfl⟩ := h
    refine ⟨_, ?_, rfl⟩
    rw [afterToxDo_eq]
    refine List.mem_append_right _ (mem_requestChunks.mpr ⟨key.1, key.2, t, ?_, hdue, rfl⟩)
    rw [getTransfer_checkConnection]
    exact ht

theorem pairwise_requests (lg : Legacy) (tox : NewTox) :
    ((afterToxDo lg tox).2.filterMap Action.chunkRequest).Pairwise fun r r' => r.key ≠ r'.key := by
  rw [List.pairwise_filterMap]
  refine (pairwise_afterToxDo lg tox).imp ?_
  intro a b hne r ha r' hb
  exact hne _ _ _ _ _ _ _ _ (chunkRequest_eq_some.mp ha) (chunkRequest_eq_some.mp hb)

/-- The answers start from the transfers that the loop has left. -/
theorem iterationThenAnswers_eq (client : ChunkClient)
    (h : toxDo lg callbacks tox = .ok (mid, out)) :
    iterationThenAnswers lg callbacks client tox = do
      let (tox, actions) ← runAll (answerChunk client)
        ((afterToxDo lg mid).2.filterMap Action.chunkRequest) (afterToxDo lg mid).1
      return (tox, out ++ (afterToxDo lg mid).2 ++ actions) := by
  have hskip : ∀ request ∈ out.filterMap Action.chunkRequest, ∀ tox,
      answerChunk client request tox = .ok (tox, []) := by
    intro request hmem tox
    rw [answerChunk, if_pos (toxDo_requests h request hmem)]
  simp only [iterationThenAnswers, newToxIteration, h, Checked.ok_bind]
  show (do
      let (tox, actions) ← runAll (answerChunk client)
        ((out ++ (afterToxDo lg mid).2).filterMap Action.chunkRequest) (afterToxDo lg mid).1
      return (tox, out ++ (afterToxDo lg mid).2 ++ actions)) = _
  rw [List.filterMap_append, runAll_skip hskip]

/-- The transfer that a request finds when it is answered later. -/
theorem getTransfer_asked {key : UInt32 × UInt32} {t : FileTransfer}
    (ht : tox.getTransfer key.1 key.2 = some t) (hdue : t.Due) :
    (afterToxDo lg tox).1.getTransfer key.1 key.2 =
      some { t with sizeRequested := requestSize lg key.1 t, eventPending := true } := by
  rw [getTransfer_afterToxDo, ht, Option.map_some, requestChunk_due lg _ hdue]

theorem iterationThenAnswers_updates (client : ChunkClient)
    (h : toxDo lg callbacks tox = .ok (mid, out)) :
    Updates (fun (tox : NewTox) key => tox.getTransfer key.1 key.2)
      (fun key => mid.getTransfer key.1 key.2) (laterAnswered lg client)
      (iterationThenAnswers lg callbacks client tox) := by
  have hanswers : Updates (fun (tox : NewTox) key => tox.getTransfer key.1 key.2)
      (fun key => mid.getTransfer key.1 key.2) (laterAnswered lg client)
      (runAll (answerChunk client) ((afterToxDo lg mid).2.filterMap Action.chunkRequest)
        (afterToxDo lg mid).1) := by
    refine (answerChunk_local client).updates (pairwise_requests lg mid) _ _ ?_ ?_
    · intro request hmem
      obtain ⟨key, t, ht, hdue, rfl⟩ := mem_requests.mp hmem
      exact ⟨t, _, ht, getTransfer_asked ht hdue, (if_pos hdue).symm⟩
    · intro key hne
      simp only [getTransfer_afterToxDo]
      cases ht : mid.getTransfer key.1 key.2 with
      | none => exact ⟨rfl, fun t ht => by cases ht⟩
      | some t =>
        have hdue : ¬ t.Due :=
          fun hdue => hne (dueRequest lg key t) (mem_requests.mpr ⟨key, t, ht, hdue, rfl⟩) rfl
        rw [Option.map_some, requestChunk_not_due lg _ hdue, Option.bind_some, laterAnswered,
          if_neg hdue]
        refine ⟨rfl, ?_⟩
        intro t' ht'
        cases ht'
        rw [laterAnswered, if_neg hdue]
        simp
  refine hanswers.extend ?_ ?_
  · intro r hrun
    refine ⟨out ++ (afterToxDo lg mid).2 ++ r.2, ?_⟩
    rw [iterationThenAnswers_eq client h, hrun]
    rfl
  · intro e hrun
    rw [iterationThenAnswers_eq client h, hrun]
    rfl

end

/-! ## When they are the same -/

theorem answered_eq_none {request : ChunkRequest} : answered client request t = none ↔
    request.length ≠ 0 ∧ ∃ lg data, client request = some (lg, data) ∧
      ChunkFails lg request.friendNumber request.fileNumber t data := by
  unfold answered
  by_cases hzero : request.length = 0
  · simp [hzero]
  · cases hclient : client request with
    | none => simp [hzero]
    | some answer =>
      obtain ⟨lg, data⟩ := answer
      by_cases hfails : ChunkFails lg request.friendNumber request.fileNumber t data
      · simp [hzero, hfails]
      · by_cases htakes : lg.Takes request.friendNumber data
        · simp [hzero, hfails, htakes]
        · simp [hzero, hfails, htakes]

/-- An answer fails inside the callback when it would fail later. -/
theorem loopAnswered_eq_none : loopAnswered lg client key t = none ↔
    laterAnswered lg client key t = none := by
  by_cases hdue : t.Due
  · rw [loopAnswered, laterAnswered, if_pos hdue, if_pos hdue, Option.map_eq_none_iff,
      answered_eq_none, answered_eq_none]
    rfl
  · rw [loopAnswered, laterAnswered, if_neg hdue, if_neg hdue]

theorem laterAnswered_eq_none (ht : tox.getTransfer key.1 key.2 = some t) :
    laterAnswered lg client key t = none ↔ ∃ lg' data,
      ChunkAnswered lg client tox key.1 key.2 t lg' data ∧ ChunkFails lg' key.1 key.2 t data := by
  by_cases hdue : t.Due
  · rw [laterAnswered, if_pos hdue, answered_eq_none]
    constructor
    · intro h
      obtain ⟨hlength, lg', data, hclient, hfails⟩ := h
      exact ⟨lg', data, ⟨ht, hdue, hlength, hclient⟩, hfails⟩
    · intro h
      obtain ⟨lg', data, hanswered, hfails⟩ := h
      exact ⟨hanswered.2.2.1, lg', data, hanswered.2.2.2, hfails⟩
  · rw [laterAnswered, if_neg hdue]
    simp [ChunkAnswered, hdue]

/-- The transfer ends up the same unless the answer is accepted. -/
theorem loopAnswered_eq_laterAnswered (ht : tox.getTransfer key.1 key.2 = some t)
    (hsome : laterAnswered lg client key t ≠ none) :
    loopAnswered lg client key t = laterAnswered lg client key t ↔
      ∀ lg' data, ChunkAnswered lg client tox key.1 key.2 t lg' data → ¬ lg'.Takes key.1 data := by
  by_cases hdue : t.Due
  · rw [laterAnswered, if_pos hdue] at hsome
    rw [loopAnswered, laterAnswered, if_pos hdue, if_pos hdue]
    by_cases hzero : (dueRequest lg key t).length = 0
    · simp only [answered, hzero, if_true, Option.map_some, true_iff]
      intro lg' data hanswered
      exact absurd hzero hanswered.2.2.1
    cases hclient : client (dueRequest lg key t) with
    | none =>
      simp only [answered, hzero, if_false, hclient, Option.map_some, true_iff]
      intro lg' data hanswered
      exact absurd (hclient.symm.trans hanswered.2.2.2) (by simp)
    | some answer =>
      obtain ⟨lg', data⟩ := answer
      have hfails : ¬ ChunkFails lg' key.1 key.2 t data := by
        intro hfails
        exact hsome (answered_eq_none.mpr ⟨hzero, lg', data, hclient, hfails⟩)
      have hfails' : ∀ size pending, ¬ ChunkFails lg' (dueRequest lg key t).friendNumber
          (dueRequest lg key t).fileNumber
          { t with sizeRequested := size, eventPending := pending } data := fun _ _ => hfails
      have hsame : ∀ lg'' data', ChunkAnswered lg client tox key.1 key.2 t lg'' data' →
          lg' = lg'' ∧ data = data' := by
        intro lg'' data' hanswered
        simpa using hclient.symm.trans hanswered.2.2.2
      by_cases htakes : lg'.Takes key.1 data
      · have htakes' : lg'.Takes (dueRequest lg key t).friendNumber data := htakes
        simp only [answered, hzero, if_false, hclient, hfails', htakes', if_true, Option.map_some,
          Option.some.injEq, FileTransfer.mk.injEq, reduceCtorEq, and_false, false_and, false_iff]
        intro hnone
        exact hnone lg' data ⟨ht, hdue, hzero, hclient⟩ htakes
      · have htakes' : ¬ lg'.Takes (dueRequest lg key t).friendNumber data := htakes
        simp only [answered, hzero, if_false, hclient, hfails', htakes', Option.map_some, true_iff]
        intro lg'' data' hanswered
        obtain ⟨rfl, rfl⟩ := hsame lg'' data' hanswered
        exact htakes
  · rw [loopAnswered, laterAnswered, if_neg hdue, if_neg hdue]
    simp [ChunkAnswered, hdue]

theorem transfers_eq_iff {tox tox' : NewTox} : tox.transfers = tox'.transfers ↔
    ∀ key : UInt32 × UInt32, tox.getTransfer key.1 key.2 = tox'.getTransfer key.1 key.2 :=
  eq_iff_getElem?_eq

/-- It makes no difference for files exactly when an answer fails an assertion or none is
    accepted. -/
theorem sameTransfers_iff {callbacks : List LegacyCallback} {mid : NewTox} {out : List Action}
    (h : toxDo lg callbacks tox = .ok (mid, out)) :
    SameTransfers (iterationAnswered lg callbacks client tox)
        (iterationThenAnswers lg callbacks client tox) ↔
      (∃ f n t lg' data, ChunkAnswered lg client mid f n t lg' data ∧ ChunkFails lg' f n t data) ∨
        ∀ f n t lg' data, ChunkAnswered lg client mid f n t lg' data → ¬ lg'.Takes f data := by
  have hsame := (iterationAnswered_updates client h).same_iff
    (iterationThenAnswers_updates client h) fun key t _ => loopAnswered_eq_none
  have hfails : (∃ key t, mid.getTransfer key.1 key.2 = some t ∧
      laterAnswered lg client key t = none) ↔ ∃ f n t lg' data,
        ChunkAnswered lg client mid f n t lg' data ∧ ChunkFails lg' f n t data := by
    constructor
    · intro hex
      obtain ⟨key, t, ht, hnone⟩ := hex
      obtain ⟨lg', data, hanswered⟩ := (laterAnswered_eq_none ht).mp hnone
      exact ⟨key.1, key.2, t, lg', data, hanswered⟩
    · intro hex
      obtain ⟨f, n, t, lg', data, hanswered⟩ := hex
      have ht := hanswered.1.1
      exact ⟨(f, n), t, ht, (laterAnswered_eq_none ht).mpr ⟨lg', data, hanswered⟩⟩
  simp only [SameTransfers, transfers_eq_iff]
  refine hsame.trans ?_
  rw [← hfails]
  refine or_congr_right' fun hnone => ?_
  constructor
  · intro heq f n t lg' data hanswered
    have hsome : laterAnswered lg client (f, n) t ≠ none :=
      fun hn => hnone ⟨(f, n), t, hanswered.1, hn⟩
    exact (loopAnswered_eq_laterAnswered hanswered.1 hsome).mp (heq (f, n) t hanswered.1) lg' data
      hanswered
  · intro hrefused key t ht
    have hsome : laterAnswered lg client key t ≠ none := fun hn => hnone ⟨key, t, ht, hn⟩
    refine (loopAnswered_eq_laterAnswered ht hsome).mpr ?_
    intro lg' data hanswered
    exact hrefused _ _ _ _ _ hanswered

end

end Tox4j.Adapter
