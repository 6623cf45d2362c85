import Tox4j.Instances.Atomic
import Tox4j.Instances.Proofs.LockSafety

/-!
# The instance manager is linearizable

What a thread does while it holds the manager's mutex is one operation of the atomic manager. The
operation takes effect when the mutex is unlocked: `Midway` says how far the thread has come until
then.
-/

namespace Tox4j.Instances

open Tox4j.Misc ToxInstance InstanceManager

/-- How far an operation has come under the manager's mutex: the manager and the destroyed objects,
    compared with those before the operation. -/
inductive Midway (o : NativeObjects) :
    Op ℕ ℕ ℕ → Pc → InstanceManager ℕ ℕ ℕ → List ℕ → Prop
  | insert (k grows) :
      Midway o (.add k k k grows) (.insert (obj k) grows) o.manager.lock o.destroyed
  | killCheck (n) : Midway o (.kill n) (.killCheck n) o.manager.lock o.destroyed
  | killMove {n} : (o.manager.slot? n).isSome = true →
      Midway o (.kill n) (.killMove n) o.manager.lock o.destroyed
  | killTest {n i} : o.manager.slot? n = some i →
      Midway o (.kill n) (.killTest i) (o.manager.lock.setSlot n movedFrom) o.destroyed
  | lockKilled {n k} : o.manager.slot? n = some (obj k) →
      Midway o (.kill n) (.lockDying (obj k) k none) (o.manager.lock.setSlot n movedFrom)
        o.destroyed
  | unlockKilled {n k} : o.manager.slot? n = some (obj k) →
      Midway o (.kill n) (.unlockDying (obj k) k none) (o.manager.lock.setSlot n movedFrom)
        o.destroyed
  | destroyKilled {n k} : o.manager.slot? n = some (obj k) →
      Midway o (.kill n) (.destroy (obj k) none) (o.manager.lock.setSlot n movedFrom) o.destroyed
  | finalizeCheck {n} : n ≠ 0 →
      Midway o (.finalize n) (.finalizeCheck n) o.manager.lock o.destroyed
  | finalizeLive {n} : n ∉ o.manager.freelist →
      Midway o (.finalize n) (.finalizeLive n) o.manager.lock o.destroyed
  | finalizeMove {n k} : o.manager.slot? n = some (obj k) → n ∉ o.manager.freelist →
      Midway o (.finalize n) (.finalizeMove n) o.manager.lock o.destroyed
  | lockLeaked {n k} : o.manager.slot? n = some (obj k) → n ∉ o.manager.freelist →
      Midway o (.finalize n) (.lockDying (obj k) k (some n)) (o.manager.lock.setSlot n movedFrom)
        o.destroyed
  | unlockLeaked {n k} : o.manager.slot? n = some (obj k) → n ∉ o.manager.freelist →
      Midway o (.finalize n) (.unlockDying (obj k) k (some n)) (o.manager.lock.setSlot n movedFrom)
        o.destroyed
  | destroyLeaked {n k} : o.manager.slot? n = some (obj k) → n ∉ o.manager.freelist →
      Midway o (.finalize n) (.destroy (obj k) (some n)) (o.manager.lock.setSlot n movedFrom)
        o.destroyed
  | freeLeaked {n k} : o.manager.slot? n = some (obj k) → n ∉ o.manager.freelist →
      Midway o (.finalize n) (.finalizeFree n (.destroyed (some k)))
        (o.manager.lock.setSlot n movedFrom) (o.destroyed ++ [k])
  | freeDead {n} : o.manager.slot? n = some movedFrom → n ∉ o.manager.freelist →
      Midway o (.finalize n) (.finalizeFree n .done) o.manager.lock o.destroyed
  | withCheck {n} : n ≠ 0 → Midway o (.withInstance n) (.withCheck n) o.manager.lock o.destroyed
  | lockInstance {n k} : o.manager.slot? n = some (obj k) →
      Midway o (.withInstance n) (.lockInstance (obj k) k) o.manager.lock o.destroyed
  | handOver {n k} : o.manager.slot? n = some (obj k) →
      Midway o (.withInstance n) (.handOver (obj k) k) o.manager.lock o.destroyed
  | unlock {op m d reply} : o.Effect (op, reply) { manager := m.unlock, destroyed := d } →
      Midway o op (.unlockManager reply) m d

section

variable {o : NativeObjects} {op : Op ℕ ℕ ℕ} {pc pc' : Pc} {m m' : InstanceManager ℕ ℕ ℕ}
  {d : List ℕ}

/-- The first thing an operation does. -/
theorem Midway.first (h : (Pc.lockManager op).Ok m) (hearly : op.earlyReply = none) :
    Midway o op op.firstPc o.manager.lock o.destroyed := by
  cases op with
  | add tox events mutex grows =>
    obtain ⟨rfl, rfl⟩ := h
    exact .insert _ grows
  | kill n => exact .killCheck n
  | finalize n => exact .finalizeCheck fun hzero => by simp [Op.earlyReply, hzero] at hearly
  | withInstance n => exact .withCheck fun hzero => by simp [Op.earlyReply, hzero] at hearly

/-- An operation that returns early changes nothing. -/
theorem effect_of_earlyReply {reply : Reply ℕ} (h : op.earlyReply = some reply) :
    o.Effect (op, reply) o := by
  cases op with
  | add | kill => cases h
  | finalize n | withInstance n =>
    rw [Op.earlyReply] at h
    split at h
    · next hzero =>
      cases h
      subst hzero
      exact ⟨rfl, (List.append_nil _).symm⟩
    · cases h

/-- An operation that throws, or does nothing, has had its effect. -/
theorem Midway.unlock_same {reply : Reply ℕ} (hlocked : o.manager.locked = false)
    (hrun : op.run o.manager = .ok (reply, o.manager)) (hreply : reply.destroyedTox = []) :
    Midway o op (.unlockManager reply) o.manager.lock o.destroyed := by
  refine .unlock ⟨?_, ?_⟩
  · rw [hrun, unlock_lock hlocked]
  · rw [hreply, List.append_nil]

/-- The manager changes under its mutex. -/
theorem Midway.changes (hok : o.manager.Ok) (hlocked : o.manager.locked = false)
    (h : Midway o op pc m d) (hc : Changes m pc m' pc') : Midway o op pc' m' d := by
  cases hc with
  | push k grows hfree =>
    cases h with
    | insert =>
      refine .unlock ⟨?_, ?_⟩
      · have hadd := add_of_nil hok hlocked (valid_ofPointers k k k) hfree grows
        simp only [Op.run, make_some, Checked.ok_bind, hadd, push, InstanceManager.lock,
          InstanceManager.unlock, hlocked]
      · exact (List.append_nil _).symm
  | @reuse k grows ns n hfree =>
    cases h with
    | insert =>
      refine .unlock ⟨?_, ?_⟩
      · have hadd := add_of_snoc hok hlocked (valid_ofPointers k k k) rfl hfree grows
        simp only [Op.run, make_some, Checked.ok_bind, hadd, InstanceManager.reuse, setSlot,
          InstanceManager.lock, InstanceManager.unlock, hlocked]
      · exact (List.append_nil _).symm
  | killMove hi =>
    cases h with
    | killMove => exact .killTest hi
  | finalizeMove hi hfree =>
    cases h with
    | finalizeMove => exact .lockLeaked hi hfree
  | @finalizeFree n _ hi hfree =>
    cases h with
    | @freeLeaked _ k hk hnot =>
      refine .unlock ⟨?_, rfl⟩
      rcases finalize_cases hok hlocked n with ⟨hbad, -⟩ | ⟨hdead, -⟩ | ⟨i, hi', -, -, hrun⟩
      · rcases hbad with hnone | hmem
        · rw [hnone] at hk
          cases hk
        · exact absurd hmem hnot
      · rw [hdead] at hk
        exact absurd (Option.some.inj hk).symm (obj_ne_movedFrom k)
      · rw [hk] at hi'
        obtain rfl := Option.some.inj hi'
        simp only [Op.run, hrun, free, setSlot, InstanceManager.lock, InstanceManager.unlock,
          hlocked]
        rfl
    | freeDead hdead hnot =>
      refine .unlock ⟨?_, (List.append_nil _).symm⟩
      rcases finalize_cases hok hlocked n with ⟨hbad, -⟩ | ⟨-, -, hrun⟩ | ⟨i, hi', hlive, -⟩
      · rcases hbad with hnone | hmem
        · rw [hnone] at hdead
          cases hdead
        · exact absurd hmem hnot
      · simp only [Op.run, hrun, free, InstanceManager.lock, InstanceManager.unlock, hlocked]
      · rw [hdead] at hi'
        obtain rfl := Option.some.inj hi'
        cases hlive

end

section

variable {o : NativeObjects} {op : Op ℕ ℕ ℕ} {pc pc' : Pc} {m : InstanceManager ℕ ℕ ℕ}
  {d : List ℕ}

/-- A check under the manager's mutex. -/
theorem Midway.quiet (hok : o.manager.Ok) (hlocked : o.manager.locked = false)
    (h : Midway o op pc m d) (hq : Quiet m pc pc') : Midway o op pc' m d := by
  cases hq with
  | killReject hcheck =>
    cases h with
    | killCheck => exact .unlock_same hlocked (kill_refused hlocked hcheck) rfl
  | killPass hsome =>
    cases h with
    | killCheck => exact .killMove hsome
  | killDead =>
    cases h with
    | @killTest n _ hi =>
      rw [setSlot_same (m := o.manager.lock) hi]
      rcases kill_cases hok hlocked n with ⟨hnone, -⟩ | ⟨-, hrun⟩ | ⟨i, hi', hlive, -⟩
      · rw [hnone] at hi
        cases hi
      · exact .unlock_same hlocked hrun rfl
      · rw [hi] at hi'
        obtain rfl := Option.some.inj hi'
        cases hlive
  | killLive k =>
    cases h with
    | killTest hi => exact .lockKilled hi
  | finalizeReject hcheck =>
    cases h with
    | finalizeCheck hne => exact .unlock_same hlocked (finalize_refused hlocked hne hcheck) rfl
  | finalizePass hsome hnot =>
    cases h with
    | finalizeCheck => exact .finalizeLive hnot
  | finalizeLive hi hnot =>
    cases h with
    | finalizeLive => exact .finalizeMove hi hnot
  | finalizeDead hi hnot =>
    cases h with
    | finalizeLive => exact .freeDead hi hnot
  | withReject hcheck =>
    cases h with
    | withCheck hne => exact .unlock_same hlocked (withInstance_refused hlocked hne hcheck) rfl
  | withPass hi =>
    cases h with
    | withCheck => exact .lockInstance hi
  | returned i mutex => cases h

/-- What is destroyed was in a slot when the operation began. -/
theorem Midway.destroy {k : ℕ} {freed : Option Int32}
    (hok : o.manager.Ok) (hlocked : o.manager.locked = false)
    (h : Midway o op (.destroy (obj k) freed) m d) :
    Midway o op (.afterDestroy k freed) m (d ++ [k]) := by
  generalize hi : obj k = i at h
  cases h with
  | @destroyKilled n k' hslot =>
    obtain rfl := obj_injective hi
    refine .unlock ⟨?_, rfl⟩
    rcases kill_cases hok hlocked n with ⟨hnone, -⟩ | ⟨hdead, -⟩ | ⟨i, hi', -, hrun⟩
    · rw [hnone] at hslot
      cases hslot
    · rw [hdead] at hslot
      exact absurd (Option.some.inj hslot).symm (obj_ne_movedFrom k)
    · rw [hslot] at hi'
      obtain rfl := Option.some.inj hi'
      simp only [Op.run, hrun, setSlot, InstanceManager.lock, InstanceManager.unlock, hlocked]
      rfl
  | destroyLeaked hslot hnot =>
    obtain rfl := obj_injective hi
    exact .freeLeaked hslot hnot

theorem Midway.lockDying {k : ℕ} {freed : Option Int32}
    (h : Midway o op (.lockDying (obj k) k freed) m d) :
    Midway o op (.unlockDying (obj k) k freed) m d := by
  cases h with
  | lockKilled hslot => exact .unlockKilled hslot
  | lockLeaked hslot hnot => exact .unlockLeaked hslot hnot

theorem Midway.unlockDying {k : ℕ} {freed : Option Int32}
    (h : Midway o op (.unlockDying (obj k) k freed) m d) :
    Midway o op (.destroy (obj k) freed) m d := by
  cases h with
  | unlockKilled hslot => exact .destroyKilled hslot
  | unlockLeaked hslot hnot => exact .destroyLeaked hslot hnot

theorem Midway.lockInstance_handOver {k : ℕ} (h : Midway o op (.lockInstance (obj k) k) m d) :
    Midway o op (.handOver (obj k) k) m d := by
  cases h with
  | lockInstance hslot => exact .handOver hslot

/-- The function is about to run on the object of the slot; nothing has changed. -/
theorem Midway.effect_handOver {k : ℕ} (hok : o.manager.Ok) (hlocked : o.manager.locked = false)
    (h : Midway o op (.handOver (obj k) k) m d) :
    o.Effect (op, .ran (some k)) { manager := m.unlock, destroyed := d } := by
  cases h with
  | @handOver n _ hslot =>
    refine ⟨?_, (List.append_nil _).symm⟩
    rw [unlock_lock hlocked]
    exact withInstance_live hok hlocked hslot rfl

end

/-! ## The simulation -/

theorem Quiet.lastReply {m : InstanceManager ℕ ℕ ℕ} {pc pc' : Pc} (h : Quiet m pc pc') :
    pc.lastReply = none := by
  cases h <;> rfl

theorem Changes.lastReply {m m' : InstanceManager ℕ ℕ ℕ} {pc pc' : Pc}
    (h : Changes m pc m' pc') : pc.lastReply = none := by
  cases h <;> rfl

namespace Pc

/-- What the atomic manager says about a thread, from the thread's place in the code. -/
def Matches (o : NativeObjects) (m : InstanceManager ℕ ℕ ℕ) (d : List ℕ) (pc : Pc)
    (phase : Phase (Op ℕ ℕ ℕ) (Reply ℕ)) : Prop :=
  match pc with
  | .idle => phase = .idle
  | .lockManager op => phase = .called op ∧ op.earlyReply = none
  | .inFunc i _ | .unlockInstance i _ => phase = .answered (.ran i.tox)
  | pc => ∃ op, phase = .called op ∧ Midway o op pc m d

variable {o o' : NativeObjects} {m m' : InstanceManager ℕ ℕ ℕ} {d d' : List ℕ} {pc : Pc}
  {phase : Phase (Op ℕ ℕ ℕ) (Reply ℕ)}

theorem matches_of_holdsManager (h : pc.holdsManager = true) :
    pc.Matches o m d phase ↔ ∃ op, phase = .called op ∧ Midway o op pc m d := by
  cases pc with
  | idle | lockManager | inFunc | unlockInstance => cases h
  | _ => exact Iff.rfl

/-- A thread is idle when its operation has returned. -/
theorem idle_iff_of_matches (hmatch : pc.Matches o m d phase) : pc = .idle ↔ phase = .idle := by
  cases pc with
  | idle => exact iff_of_true rfl hmatch
  | lockManager op =>
    rw [hmatch.1]
    exact iff_of_false nofun nofun
  | inFunc i mutex | unlockInstance i mutex =>
    rw [show phase = .answered (.ran i.tox) from hmatch]
    exact iff_of_false nofun nofun
  | _ =>
    obtain ⟨op, hcalled, -⟩ := hmatch
    rw [hcalled]
    exact iff_of_false nofun nofun

/-- A thread outside of the manager's mutex is matched whatever the manager is. -/
theorem matches_congr (h : pc.holdsManager = false) (hmatch : pc.Matches o m d phase) :
    pc.Matches o' m' d' phase := by
  cases pc with
  | idle | lockManager | inFunc | unlockInstance => exact hmatch
  | _ => cases h

end Pc

namespace Threads

section

variable {T : Type} [DecidableEq T] {s s' : Threads T} {a a' : AtomicManager T} {t : T}

/-- The atomic manager that goes along with the threads. -/
structure Simulates (s : Threads T) (a : AtomicManager T) : Prop where
  ok : a.state.manager.Ok
  unlocked : a.state.manager.locked = false
  manager : s.holder = none → s.manager = a.state.manager
  destroyed : s.holder = none → s.destroyed = a.state.destroyed
  phases : ∀ t, (s.pc t).Matches a.state s.manager s.destroyed (a.phase t)

omit [DecidableEq T] in
/-- A thread that is inside the manager is in the middle of its operation. -/
theorem Simulates.midway (h : s.Simulates a) {pc : Pc} (hp : s.pc t = pc)
    (hheld : pc.holdsManager = true) :
    ∃ op, a.phase t = .called op ∧ Midway a.state op pc s.manager s.destroyed := by
  subst hp
  exact (Pc.matches_of_holdsManager hheld).mp (h.phases t)

/-- A thread moves on, and the others are outside of the manager's mutex or the manager stays as it
    is. -/
theorem Simulates.moved (h : s.Simulates a) (pc : Pc) (phase : Phase (Op ℕ ℕ ℕ) (Reply ℕ))
    (hpcs : s'.pc = Function.update s.pc t pc)
    (hphases : a'.phase = Function.update a.phase t phase) (hok : a'.state.manager.Ok)
    (hunlocked : a'.state.manager.locked = false)
    (hmanager : s'.holder = none → s'.manager = a'.state.manager)
    (hdestroyed : s'.holder = none → s'.destroyed = a'.state.destroyed)
    (hself : pc.Matches a'.state s'.manager s'.destroyed phase)
    (hothers : (a'.state = a.state ∧ s'.manager = s.manager ∧ s'.destroyed = s.destroyed) ∨
      ∀ t', t' ≠ t → (s.pc t').holdsManager = false) : s'.Simulates a' := by
  refine ⟨hok, hunlocked, hmanager, hdestroyed, fun t' => ?_⟩
  rw [hpcs, hphases]
  by_cases heq : t' = t
  · subst heq
    rw [Function.update_self, Function.update_self]
    exact hself
  · rw [Function.update_of_ne heq, Function.update_of_ne heq]
    rcases hothers with ⟨hstate, hm, hd⟩ | hothers
    · rw [hstate, hm, hd]
      exact h.phases t'
    · exact Pc.matches_congr (hothers t' heq) (h.phases t')

/-- A thread moves on inside the manager, and the atomic manager waits. -/
theorem Simulates.inside {pc pc' : Pc} (hs : s.Ok) (h : s.Simulates a) (hp : s.pc t = pc)
    (hheld : pc.holdsManager = true) (hheld' : pc'.holdsManager = true)
    (hpcs : s'.pc = Function.update s.pc t pc') (hholder : s'.holder = s.holder)
    (hmidway : ∀ op, Midway a.state op pc s.manager s.destroyed →
      Midway a.state op pc' s'.manager s'.destroyed) : s'.Simulates a := by
  obtain ⟨op, hphase, hmid⟩ := h.midway hp hheld
  have hheld₀ : (s.pc t).holdsManager = true := by rw [hp, hheld]
  have hholder' : s'.holder ≠ none := by
    rw [hholder, (hs.locks.holder t).mpr hheld₀]
    exact Option.some_ne_none t
  refine h.moved _ (a.phase t) hpcs (Function.update_eq_self t a.phase).symm h.ok h.unlocked
    (fun hnone => absurd hnone hholder') (fun hnone => absurd hnone hholder') ?_ (.inr ?_)
  · exact (Pc.matches_of_holdsManager hheld').mpr ⟨op, hphase, hmidway op hmid⟩
  · intro t' hne
    by_contra hheld''
    exact hne (hs.locks.eq_of_holdsManager (by simpa using hheld'') hheld₀)

/-- What the atomic manager has to do along with a step of the threads. -/
def Matched (a : AtomicManager T) (seen : List (Visible T (Op ℕ ℕ ℕ) (Reply ℕ)))
    (s' : Threads T) : Prop :=
  ∃ ls a', Run (AtomicObject.Step NativeObjects.Effect) a ls a' ∧ s'.Simulates a' ∧
    ls.flatMap AtomicLabel.visible = seen

/-- A step inside an operation shows nothing. -/
theorem Simulates.matched {pc : Pc} (h : s'.Simulates a) (hp : s.pc t = pc)
    (hlast : pc.lastReply = none) : Matched a (s.visible (t, none)) s' := by
  refine ⟨[], a, .nil, h, ?_⟩
  rw [visible, hp, hlast]
  rfl

/-- A thread gets the manager's mutex. -/
theorem Simulates.lockManager {op : Op ℕ ℕ ℕ} (hs : s.Ok) (h : s.Simulates a)
    (hp : s.pc t = .lockManager op) (hfree : s.holder = none) :
    ({ s with holder := some t, manager := s.manager.lock }.goto t op.firstPc).Simulates a := by
  have hphase := h.phases t
  have hok := hs.slots.pc t
  rw [hp] at hphase hok
  refine h.moved (t := t) op.firstPc (a.phase t) rfl
    (Function.update_eq_self t a.phase).symm h.ok h.unlocked (fun hnone => by cases hnone)
    (fun hnone => by cases hnone) ?_ (.inr fun t' _ => ?_)
  · refine (Pc.matches_of_holdsManager op.firstPc_holdsManager).mpr ⟨op, hphase.1, ?_⟩
    have hfirst : Midway a.state op op.firstPc a.state.manager.lock a.state.destroyed :=
      Midway.first hok hphase.2
    rw [← h.manager hfree, ← h.destroyed hfree] at hfirst
    exact hfirst
  · by_contra hheld
    have hholder := (hs.locks.holder t').mpr (by simpa using hheld)
    rw [hfree] at hholder
    cases hholder

/-- The operation takes effect when its thread gives the manager's mutex back. -/
theorem Simulates.release {op : Op ℕ ℕ ℕ} {reply : Reply ℕ} {pc pc' : Pc}
    {phase : Phase (Op ℕ ℕ ℕ) (Reply ℕ)} (hs : s.Ok) (h : s.Simulates a) (hp : s.pc t = pc)
    (hheld : pc.holdsManager = true)
    (heffect : a.state.Effect (op, reply) { manager := s.manager.unlock, destroyed := s.destroyed })
    (hpc' : ∀ o m d, pc'.Matches o m d phase)
    (hphases : a'.phase = Function.update a.phase t phase)
    (hstate : a'.state = { manager := s.manager.unlock, destroyed := s.destroyed }) :
    (s.release t pc').Simulates a' := by
  obtain ⟨reply', m', hrun, hok, hunlocked⟩ := run_ok h.ok h.unlocked op
  obtain ⟨-, rfl⟩ := Prod.mk.inj (Except.ok.inj (hrun.symm.trans heffect.1))
  refine h.moved (t := t) pc' phase rfl hphases ?_ ?_ ?_ ?_ (hpc' _ _ _)
    (.inr fun t' hne => ?_)
  · rw [hstate]
    exact hok
  · rw [hstate]
    exact hunlocked
  · rw [hstate]
    exact fun _ => rfl
  · rw [hstate]
    exact fun _ => rfl
  · by_contra hheld''
    exact hne (hs.locks.eq_of_holdsManager (by simpa using hheld'') (by rw [hp, hheld]))

/-- Every step inside an operation is matched by the atomic manager. -/
theorem Simulates.moves (hs : s.Ok) (h : s.Simulates a) (hstep : s.advance t = .ok (some s')) :
    Matched a (s.visible (t, none)) s' := by
  have hmoves := hs.moves_of_advance hstep
  -- a step that keeps the manager's mutex
  have hinside : ∀ {pc pc' : Pc}, s.pc t = pc → pc.holdsManager = true →
      pc.lastReply = none → pc'.holdsManager = true → s'.pc = Function.update s.pc t pc' →
      s'.holder = s.holder →
      (∀ op, Midway a.state op pc s.manager s.destroyed →
        Midway a.state op pc' s'.manager s'.destroyed) →
      Matched a (s.visible (t, none)) s' := by
    intro pc pc' hp hheld hlast hheld' hpcs hholder hmidway
    exact (h.inside hs hp hheld hheld' hpcs hholder hmidway).matched hp hlast
  have hpc := h.phases t
  cases hmoves with
  | @lockManager op hp hfree =>
    exact (h.lockManager hs hp hfree).matched hp rfl
  | @quiet pc pc' hp hq =>
    by_cases hheld : pc.holdsManager = true
    · exact hinside hp hheld hq.lastReply (by rw [hq.holdsManager, hheld]) rfl rfl
        fun op hmid => hmid.quiet h.ok h.unlocked hq
    · cases hq with
      | returned i mutex =>
        rw [hp] at hpc
        refine Simulates.matched (h.moved (t := t) (.unlockInstance i mutex) _ rfl
          (Function.update_eq_self t a.phase).symm h.ok h.unlocked h.manager h.destroyed hpc
          (.inl ⟨rfl, rfl, rfl⟩)) hp rfl
      | _ => exact absurd rfl hheld
  | changes hp hc =>
    exact hinside hp hc.holdsManager.1 hc.lastReply hc.holdsManager.2 rfl rfl fun op hmid =>
      hmid.changes h.ok h.unlocked hc
  | lockDying hp hfree => exact hinside hp rfl rfl rfl rfl rfl fun op hmid => hmid.lockDying
  | unlockDying hp => exact hinside hp rfl rfl rfl rfl rfl fun op hmid => hmid.unlockDying
  | @destroy k freed hp =>
    exact hinside hp rfl rfl (Pc.afterDestroy_holdsManager k freed) rfl rfl fun op hmid =>
      hmid.destroy h.ok h.unlocked
  | lockInstance hp hfree =>
    exact hinside hp rfl rfl rfl rfl rfl fun op hmid => hmid.lockInstance_handOver
  | @handOver k hp =>
    obtain ⟨op, hphase, hmid⟩ := h.midway hp rfl
    have heffect := hmid.effect_handOver h.ok h.unlocked
    refine ⟨[.commit t op (.ran (some k))], _, .single (.commit hphase heffect), ?_, ?_⟩
    · exact h.release hs hp rfl heffect (fun _ _ _ => rfl) rfl rfl
    · rw [visible, hp]
      rfl
  | @unlockInstance k hp =>
    rw [hp] at hpc
    refine ⟨[.ret t (.ran (some k))], _, .single (.ret hpc), ?_, ?_⟩
    · exact h.moved (t := t) .idle _ rfl rfl h.ok h.unlocked h.manager h.destroyed rfl
        (.inl ⟨rfl, rfl, rfl⟩)
    · rw [visible, hp]
      rfl
  | @unlockManager reply hp =>
    obtain ⟨op, hphase, hmid⟩ := h.midway hp rfl
    cases hmid with
    | unlock heffect =>
      refine ⟨[.commit t op reply, .ret t reply], _,
        .cons (.commit hphase heffect) (.single (.ret (AtomicObject.enter_phase_self t _))), ?_, ?_⟩
      · exact h.release hs hp rfl heffect (fun _ _ _ => rfl) (Function.update_idem ..) rfl
      · rw [visible, hp]
        rfl

/-- An operation that returns early leaves the threads as they are, and others wait for the
    manager's mutex. -/
theorem start_cases (s : Threads T) (t : T) (entry : Entry) :
    ((s.op entry).earlyReply = none ∧
        (s.start t entry).pc = Function.update s.pc t (.lockManager (s.op entry)) ∧
        (s.start t entry).holder = s.holder ∧ (s.start t entry).manager = s.manager ∧
        (s.start t entry).destroyed = s.destroyed) ∨
      ∃ reply, (s.op entry).earlyReply = some reply ∧ s.start t entry = s := by
  cases entry with
  | add | kill => exact .inl ⟨rfl, rfl, rfl, rfl, rfl⟩
  | finalize n | withInstance n =>
    by_cases hzero : n = 0
    · exact .inr ⟨_, by rw [op, Op.earlyReply, if_pos hzero], by rw [start, if_pos hzero]⟩
    · rw [start, if_neg hzero]
      exact .inl ⟨by rw [op, Op.earlyReply, if_neg hzero], rfl, rfl, rfl, rfl⟩

/-- So is every step into an operation. -/
theorem Simulates.start (h : s.Simulates a) (hidle : s.pc t = .idle) (entry : Entry) :
    Matched a (s.visible (t, some entry)) (s.start t entry) := by
  have hphase : a.phase t = .idle := by
    have hphase := h.phases t
    rwa [hidle] at hphase
  have hcall : AtomicObject.Step NativeObjects.Effect a (.call t (s.op entry)) _ :=
    .call (s.op entry) hphase
  rcases s.start_cases t entry with
    ⟨hearly, hpcs, hholder, hmanager, hdestroyed⟩ | ⟨reply, hearly, hsame⟩
  · refine ⟨[.call t (s.op entry)], _, .single hcall, ?_, ?_⟩
    · refine h.moved _ _ hpcs rfl h.ok h.unlocked ?_ ?_ ⟨rfl, hearly⟩
        (.inl ⟨rfl, hmanager, hdestroyed⟩)
      · rw [hholder, hmanager]
        exact h.manager
      · rw [hholder, hdestroyed]
        exact h.destroyed
    · rw [visible, hearly]
      rfl
  · rw [hsame]
    have heffect : a.state.Effect (s.op entry, reply) a.state := effect_of_earlyReply hearly
    refine ⟨[.call t (s.op entry), .commit t (s.op entry) reply, .ret t reply], _,
      .cons hcall (.cons (.commit (AtomicObject.enter_phase_self t _) heffect)
        (.single (.ret (AtomicObject.enter_phase_self t _)))), ?_, ?_⟩
    · refine h.moved (t := t) .idle .idle ?_ ?_ h.ok h.unlocked h.manager
        h.destroyed rfl (.inl ⟨rfl, rfl, rfl⟩)
      · rw [← hidle, Function.update_eq_self]
      · simp only [AtomicObject.enter, Function.update_idem]
    · rw [visible, hearly]
      rfl

omit [DecidableEq T] in
theorem simulates_init : ({} : Threads T).Simulates { state := {} } where
  ok := ok_empty
  unlocked := rfl
  manager _ := rfl
  destroyed _ := rfl
  phases _ := rfl

omit [DecidableEq T] in
theorem Simulates.shows (h : s.Simulates a) : s.Shows a where
  manager := h.manager
  destroyed := h.destroyed
  idle t := Pc.idle_iff_of_matches (h.phases t)
  runs := by
    rintro t tox ⟨i, mutex, hp, htox⟩
    have hphase := h.phases t
    rw [hp] at hphase
    rw [← htox]
    exact hphase

/-- Every run is matched by one of the atomic manager. -/
theorem simulates_of_run
    {ls : List ((T × Option Entry) × List (Visible T (Op ℕ ℕ ℕ) (Reply ℕ)))}
    (h : Run VisibleStep {} ls s) :
    ∃ ks a, Run (AtomicObject.Step NativeObjects.Effect) { state := {} } ks a ∧
      s.Simulates a ∧ ks.flatMap AtomicLabel.visible = ls.flatMap Prod.snd := by
  have hstep : ∀ (s : Threads T) l s' (a : AtomicManager T), s.Ok ∧ s.Simulates a →
      s.VisibleStep l s' → ∃ ks a', Run (AtomicObject.Step NativeObjects.Effect) a ks a' ∧
        (s'.Ok ∧ s'.Simulates a') ∧ ks.flatMap AtomicLabel.visible = l.2 := by
    rintro s ⟨⟨t, entry⟩, seen⟩ s' a ⟨hok, hsim⟩ ⟨hs, hvisible⟩
    have hmatched : Matched a (s.visible (t, entry)) s' := by
      cases entry with
      | none => exact hsim.moves hok hs
      | some entry =>
        obtain ⟨hidle, rfl⟩ := hs
        exact hsim.start hidle entry
    obtain ⟨ks, a', hrun, hsim', hseen⟩ := hmatched
    exact ⟨ks, a', hrun, ⟨hok.step hs, hsim'⟩, hseen.trans hvisible.symm⟩
  obtain ⟨ks, a, hrun, ⟨-, hsim⟩, hseen⟩ :=
    Run.simulates Prod.snd AtomicLabel.visible hstep ⟨ok_init, simulates_init⟩ h
  exact ⟨ks, a, hrun, hsim, hseen⟩

end

end Threads

/-- Every interleaving of the threads' steps is linearizable: the calls and the replies seen are
    those of a run of the manager whose operations happen at once. -/
theorem linearizable {T : Type} [DecidableEq T]
    {ls : List ((T × Option Entry) × List (Visible T (Op ℕ ℕ ℕ) (Reply ℕ)))} {s : Threads T}
    (h : Run Threads.VisibleStep {} ls s) : Threads.Linearizable (ls.flatMap Prod.snd) s := by
  obtain ⟨ks, a, hrun, hsim, hseen⟩ := Threads.simulates_of_run h
  exact ⟨ks, a, {
    run := hrun
    seen := hseen
    shows := hsim.shows
    sequential := AtomicObject.sequential hrun
    threads := AtomicObject.thread_run hrun }⟩

/-- One thread adds an object and calls the function for it, another one destroys it in between:
    the call comes first, and the next one finds the object killed. -/
def killAfterCall : List (Bool × Option Entry) :=
  killDuringCall ++ [(false, none), (false, none), (true, none), (true, none), (true, none),
    (true, none), (false, some (.withInstance 1)), (false, none), (false, none), (false, none),
    (true, some (.finalize 0))]

/-- What is seen of them. -/
def seenOfKillAfterCall : List (Visible Bool (Op ℕ ℕ ℕ) (Reply ℕ)) :=
  [.call false (.add 0 0 0 false), .ret false (.added 1), .call false (.withInstance 1),
    .call true (.kill 1), .ret false (.ran (some 0)), .ret true (.destroyed (some 0)),
    .call false (.withInstance 1), .ret false (.threw (throwToxKilledException 1
      "Tox function invoked on killed tox instance")),
    .call true (.finalize 0), .ret true .done]

theorem linearizable_killAfterCall : ∃ vs s, Run Threads.VisibleStep {} vs s ∧
    vs.flatMap Prod.snd = seenOfKillAfterCall ∧ s.destroyed = [0] ∧
    Threads.Linearizable seenOfKillAfterCall s := by
  have hexec : (do
      let (s, seen) ← killAfterCall.foldlM Threads.execVisible ({}, [])
      return (seen, s.destroyed)) = (.ok (seenOfKillAfterCall, [0]) : Checked _) := by
    decide +kernel
  simp only [Checked.bind_eq_ok, Checked.pure_eq_ok, Prod.mk.injEq] at hexec
  obtain ⟨⟨s, seen⟩, hexec, hseen, hdestroyed⟩ := hexec
  obtain ⟨vs, hrun, hvs⟩ := Threads.run_of_execVisible hexec
  rw [show seen = seenOfKillAfterCall from hseen] at hvs
  exact ⟨vs, s, hrun, hvs, hdestroyed, hvs ▸ linearizable hrun⟩

end Tox4j.Instances
