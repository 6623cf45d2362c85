import Tox4j.Instances.Proofs.Operations
import Tox4j.Jni.Arguments

/-!
# Which arguments reach an assertion

The checks of the Java methods imply the assertions of the native methods they call, and the
adapter looks at most pointers before it passes them on. Three methods are left for which that is
not so.
-/

namespace Tox4j.Jni

open Tox4j.Misc Tox4j.Adapter Tox4j.Instances

/-! ## Native methods that hold -/

section

variable {α β : Type} {x : NativeRun α}

theorem argumentsHold_ok (a : α) : ArgumentsHold (.ok a : NativeRun α) := by
  intro fault h
  cases h

theorem argumentsHold_error {fault : Fault} :
    ArgumentsHold (.error fault : NativeRun α) ↔ ∃ condition, fault = .state condition := by
  constructor
  · intro h
    exact h fault rfl
  · intro h other hother
    cases hother
    exact h

theorem argumentsHold_state (condition : String) :
    ArgumentsHold (.error (.state condition) : NativeRun α) :=
  argumentsHold_error.mpr ⟨condition, rfl⟩

theorem not_argumentsHold_argument (condition : String) :
    ¬ ArgumentsHold (.error (.argument condition) : NativeRun α) := by
  rw [argumentsHold_error]
  intro h
  rcases h with ⟨_, hstate⟩
  cases hstate

theorem not_argumentsHold_nullRead (function : String) :
    ¬ ArgumentsHold (.error (.nullRead function) : NativeRun α) := by
  rw [argumentsHold_error]
  intro h
  rcases h with ⟨_, hstate⟩
  cases hstate

theorem argumentsHold_map (f : α → β) : ArgumentsHold (f <$> x) ↔ ArgumentsHold x := by
  cases x with
  | error fault => exact argumentsHold_error.trans argumentsHold_error.symm
  | ok a => exact iff_of_true (argumentsHold_ok _) (argumentsHold_ok a)

/-- An assertion about the arguments, and what comes after it. -/
theorem argumentsHold_assert {condition : Bool} {text : String} :
    ArgumentsHold (assertArgument condition text >>= fun _ => x) ↔
      condition = true ∧ ArgumentsHold x := by
  cases condition with
  | false => exact iff_of_false (not_argumentsHold_argument text) (fun h => Bool.noConfusion h.1)
  | true =>
    rw [and_iff_right rfl]
    rfl

end

/-! ## Sizes -/

theorem size_eq_iff {bytes : JavaArray Int8} {size : ℕ} (hsize : size < 2 ^ 31) :
    (ByteArray.mk (some bytes)).size = UInt64.ofNat size ↔ bytes.elements.length = size := by
  have hlength := bytes.length_lt
  show UInt64.ofNat bytes.elements.length = UInt64.ofNat size ↔ _
  have hlt : ∀ k < 2 ^ 31, k < UInt64.size := fun k hk => Nat.lt_trans hk (by decide)
  rw [← UInt64.toNat_inj, UInt64.toNat_ofNat_of_lt' (hlt _ hlength),
    UInt64.toNat_ofNat_of_lt' (hlt _ hsize)]

/-- The assertion about an array holds for null and for arrays of the right length. -/
theorem argumentsHold_assertSize {α : Type} {x : NativeRun α} {array : Option (JavaArray Int8)}
    {size : ℕ} (hsize : size < 2 ^ 31) (text : String) :
    ArgumentsHold (assertSize array size text >>= fun _ => x) ↔
      (∀ bytes, array = some bytes → bytes.elements.length = size) ∧ ArgumentsHold x := by
  rw [assertSize, argumentsHold_assert]
  apply and_congr_left'
  cases array with
  | none => simp
  | some bytes => simp [size_eq_iff hsize]

/-- What a check that does not throw has found. -/
theorem checkLength_eq_ok {name : String} {bytes : Option (JavaArray Int8)} {size : ℕ} :
    checkLength name bytes size = .ok () ↔
      ∀ array, bytes = some array → array.elements.length = size := by
  cases bytes with
  | none => simp [checkLength]
  | some array =>
    have hsome : (∀ array', some array = some array' → array'.elements.length = size) ↔
        array.elements.length = size := by simp
    rw [hsome, checkLength]
    by_cases hshort : array.elements.length < size
    · rw [if_pos hshort]
      exact iff_of_false (by simp) (Nat.ne_of_lt hshort)
    · rw [if_neg hshort]
      by_cases hlong : size < array.elements.length
      · rw [if_pos hlong]
        exact iff_of_false (by simp) (Nat.ne_of_gt hlong)
      · rw [if_neg hlong]
        exact iff_of_true rfl (by omega)

theorem checkBootstrapArguments_ok {port : Int32} {publicKey : Option (JavaArray Int8)}
    (h : checkBootstrapArguments port publicKey = .ok ()) :
    0 ≤ port ∧ port ≤ 65535 ∧
      ∀ key, publicKey = some key → key.elements.length = publicKeySize := by
  unfold checkBootstrapArguments at h
  by_cases hnegative : port < 0
  · rw [if_pos hnegative] at h
    cases h
  · rw [if_neg hnegative] at h
    by_cases hlarge : 65535 < port
    · rw [if_pos hlarge] at h
      cases h
    · rw [if_neg hlarge] at h
      exact ⟨Int32.not_lt.mp hnegative, Int32.not_lt.mp hlarge, checkLength_eq_ok.mp h⟩

/-! ## Checks and instances -/

/-- A call whose checks throw does not get to the native method. -/
theorem argumentsHold_checkedCall {α : Type} {check : Except JavaException Unit}
    {method : NativeRun (Except Throwable α)} :
    ArgumentsHold (checkedCall check method) ↔ (check = .ok () → ArgumentsHold method) := by
  cases check with
  | error exception =>
    apply iff_of_true (argumentsHold_ok _)
    intro h
    cases h
  | ok u =>
    have hmethod : ArgumentsHold (checkedCall (.ok u) method) ↔ ArgumentsHold method :=
      argumentsHold_map _
    rw [hmethod]
    exact ⟨fun h _ => h, fun h => h rfl⟩

/-- Whether the call throws is all that is told of it. -/
theorem argumentsHold_pending {α : Type} {x : NativeRun (Except JavaException α)} :
    ArgumentsHold (pending x) ↔ ArgumentsHold x := argumentsHold_map _

/-- A call holds if its checks imply what the native method asserts. -/
theorem argumentsHold_checked {α : Type} {check : Except JavaException Unit}
    {method : NativeRun (Except Throwable α)} (h : check = .ok () → ArgumentsHold method) :
    ArgumentsHold (pending (checkedCall check method)) :=
  argumentsHold_pending.mpr (argumentsHold_checkedCall.mpr h)

/-- A call without checks holds exactly if the native method does. -/
theorem argumentsHold_unchecked {α : Type} {method : NativeRun (Except Throwable α)} :
    ArgumentsHold (pending (checkedCall (.ok ()) method)) ↔ ArgumentsHold method := by
  rw [argumentsHold_pending, argumentsHold_checkedCall]
  exact ⟨fun h => h rfl, fun h _ => h⟩

section

variable {Tox Events Mutex α : Type} {manager : InstanceManager Tox Events Mutex} {n : Int32}
  {func : Tox → NativeRun α}

/-- What runs on no object goes wrong on none. -/
theorem argumentsHold_withInstance (hfunc : ∀ tox, ArgumentsHold (func tox)) :
    ArgumentsHold (withInstance manager n func) := by
  unfold withInstance
  split
  · exact argumentsHold_state _
  · exact (argumentsHold_map _).mpr (hfunc _)
  · exact argumentsHold_ok _
  · exact argumentsHold_state _

/-- The function runs exactly for a live instance. -/
theorem argumentsHold_withInstance_iff (hok : manager.Ok) (hunlocked : manager.locked = false)
    {P : Prop} (hfunc : ∀ tox, ArgumentsHold (func tox) ↔ P) :
    ArgumentsHold (withInstance manager n func) ↔ (Live manager n → P) := by
  by_cases hlive : Live manager n
  · rcases hlive with ⟨hpos, inst, hslot, hinst⟩
    have hslot? : manager.slot? n = some inst :=
      InstanceManager.slot?_eq_some.mpr ⟨hpos, InstanceManager.slot_eq_ok.mp hslot⟩
    rcases Option.isSome_iff_exists.mp ((hok.valid_of_slot? hslot?).live hinst).1 with ⟨tox, htox⟩
    have hrun := InstanceManager.withInstance_live hok hunlocked hslot? hinst
    rw [htox] at hrun
    have hwith : withInstance manager n func = .ok <$> func tox := by
      simp only [withInstance, hrun]
    rw [hwith, argumentsHold_map, hfunc tox]
    exact ⟨fun h _ => h, fun h => h ⟨hpos, inst, hslot, hinst⟩⟩
  · have hdead : ∀ inst, manager.slot? n = some inst → inst.live = false := by
      intro inst hslot?
      by_contra htrue
      have hpos := (InstanceManager.slot?_eq_some.mp hslot?).1
      exact hlive ⟨hpos, inst, InstanceManager.slot_of_slot? hslot?, by simpa using htrue⟩
    rcases InstanceManager.withInstance_not_live hunlocked hdead with ⟨exception, hrun, -⟩
    have hwith : withInstance manager n func = .ok (.error exception) := by
      simp only [withInstance, hrun]
    rw [hwith]
    exact iff_of_true (argumentsHold_ok _) (fun h => absurd h hlive)

/-! ## Methods that check what is needed -/

theorem argumentsHold_toxBootstrapLike
    {function : Tox → List UInt8 → UInt16 → List UInt8 → Int32} {address : Option (List UInt8)}
    {port : Int32} {publicKey : Option (JavaArray Int8)}
    (h : checkBootstrapArguments port publicKey = .ok ()) :
    ArgumentsHold (toxBootstrapLike manager n function address port publicKey) := by
  rcases checkBootstrapArguments_ok h with ⟨hmin, hmax, hkey⟩
  refine argumentsHold_assert.mpr ⟨decide_eq_true hmin, ?_⟩
  refine argumentsHold_assert.mpr ⟨decide_eq_true hmax, ?_⟩
  refine (argumentsHold_assertSize (by decide) _).mpr ⟨hkey, ?_⟩
  exact argumentsHold_withInstance fun tox => argumentsHold_ok _

end

/-! ## Options -/

namespace JavaToxOptions

theorem enableProxy_ok {self options : JavaToxOptions} {type : Option ProxyType}
    {address : Option (List UInt8)} {port : Int32}
    (h : self.enableProxy type address port = .ok options) : options.PortInRange := by
  unfold enableProxy at h
  by_cases hnegative : port < 0
  · rw [if_pos hnegative] at h
    cases h
  · rw [if_neg hnegative] at h
    by_cases hlarge : 65535 < port
    · rw [if_pos hlarge] at h
      cases h
    · rw [if_neg hlarge] at h
      cases h
      exact ⟨Int32.not_lt.mp hnegative, Int32.not_lt.mp hlarge⟩

/-- A call keeps the port in range, since `enableProxy` throws otherwise. -/
theorem PortInRange.after {self : JavaToxOptions} (h : self.PortInRange) (call : Call) :
    (self.after call).PortInRange := by
  cases call with
  | setIpv6Enabled ipv6Enabled => exact h
  | setUdpEnabled udpEnabled => exact h
  | enableProxy type address port =>
    cases henable : self.enableProxy type address port with
    | error exception =>
      simp only [JavaToxOptions.after, henable]
      exact h
    | ok options =>
      simp only [JavaToxOptions.after, henable]
      exact enableProxy_ok henable
  | disableProxy =>
    show (0 : Int32) ≤ 0 ∧ (0 : Int32) ≤ 65535
    decide

/-- So it is after any calls on new options. -/
theorem portInRange_foldl (calls : List Call) : (calls.foldl after {}).PortInRange := by
  have hinit : ({} : JavaToxOptions).PortInRange := by
    show (0 : Int32) ≤ 0 ∧ (0 : Int32) ≤ 65535
    decide
  generalize ({} : JavaToxOptions) = options at hinit
  induction calls generalizing options with
  | nil => exact hinit
  | cons call calls ih => exact ih _ (hinit.after call)

end JavaToxOptions

/-! ## All calls -/

section

variable {Tox Events Mutex : Type} {ops : List (Op Tox Events Mutex)}
  {h : History Tox Events Mutex}

theorem argumentsHold_create (core : CoreFunctions Tox) (s : Native Tox Events Mutex)
    {options : JavaToxOptions} (hport : options.PortInRange) (data : Option (JavaArray Int8))
    (optionsAllocated outOfMemory grows : Bool) (events : Events) (mutex : Mutex) :
    ArgumentsHold (ToxCoreImpl.create core s options data optionsAllocated outOfMemory grows events
      mutex) := by
  unfold ToxCoreImpl.create
  cases options.proxyType with
  | none => exact argumentsHold_ok _
  | some proxyType =>
    have hordinal : (0 : Int32) ≤ proxyType.ordinal := by cases proxyType <;> decide
    have hargs : ∃ args, toxNewArguments data options.ipv6Enabled options.udpEnabled proxyType
        options.proxyAddress options.proxyPort optionsAllocated outOfMemory = .ok args := by
      simp only [toxNewArguments, assertArgument, decide_eq_true hordinal,
        decide_eq_true hport.1, decide_eq_true hport.2, if_true]
      exact ⟨_, rfl⟩
    rcases hargs with ⟨args, hargs⟩
    simp only [hargs, bind, Except.bind]
    cases toxNew core.lg s args events mutex grows with
    | error condition => exact argumentsHold_state condition
    | ok returned =>
      cases hexception : returned.exception with
      | none =>
        simp only [hexception]
        exact argumentsHold_ok _
      | some exception =>
        simp only [hexception]
        exact argumentsHold_ok _

/-- An empty chunk fails an assertion, and any other one fails none that is about it. -/
theorem argumentsHold_sendChunk (lg : Legacy) (tox : NewTox) (friendNumber fileNumber : UInt32)
    (data : Buffer) :
    ArgumentsHold ((newToxFileSendChunk lg tox friendNumber fileNumber data).mapError
        (chunkFault data)) ↔
      data.length ≠ 0 := by
  by_cases hempty : data.length = 0
  · have hrun : newToxFileSendChunk lg tox friendNumber fileNumber data = .error "false" := by
      rw [newToxFileSendChunk, if_pos hempty]
    rw [hrun]
    show ArgumentsHold (.error (chunkFault data "false")) ↔ _
    rw [chunkFault, if_pos hempty]
    exact iff_of_false (not_argumentsHold_argument _) (not_not.mpr hempty)
  · apply iff_of_true _ hempty
    cases newToxFileSendChunk lg tox friendNumber fileNumber data with
    | error condition =>
      show ArgumentsHold (.error (chunkFault data condition))
      rw [chunkFault, if_neg hempty]
      exact argumentsHold_state condition
    | ok result => exact argumentsHold_ok result

theorem length_buffer_ne_zero_iff (data : Option (JavaArray Int8)) :
    (ByteArray.mk data).buffer.length ≠ 0 ↔ JavaArray.length data ≠ 0 := by
  cases data with
  | none => exact iff_of_false (by decide) (by decide)
  | some bytes =>
    have hlength : (ByteArray.mk (some bytes)).buffer.length =
        (ByteArray.mk (some bytes)).size := by
      show UInt64.ofNat (bytes.elements.map Int8.toUInt8).length = _
      rw [List.length_map]
      rfl
    rw [hlength]
    exact not_congr (size_eq_iff (by decide))

theorem argumentsHold_readPointer {α : Type} {function : String} {f : List UInt8 → α}
    {publicKey : Option (JavaArray Int8)} :
    ArgumentsHold (readPointer function f (ByteArray.mk publicKey).data) ↔ publicKey ≠ none := by
  cases publicKey with
  | none => exact iff_of_false (not_argumentsHold_nullRead _) (not_not.mpr rfl)
  | some key => exact iff_of_true (argumentsHold_ok _) (Option.some_ne_none key)

/-- The key is not compared with null before the legacy core gets it. -/
theorem argumentsHold_addFriendNoRequest (hreach : History.Reachable ops h)
    (core : CoreFunctions Tox) (n : Int32) (publicKey : Option (JavaArray Int8)) :
    ArgumentsHold (ToxCoreImpl.addFriendNoRequest core h.manager n publicKey) ↔
      (Live h.manager n → publicKey ≠ none) := by
  have hok := History.ok_of_reachable hreach
  have hmethod (hcheck : checkLength "Public Key" publicKey publicKeySize = .ok ()) :
      ArgumentsHold (toxFriendAddNorequest h.manager n core publicKey) ↔
        (Live h.manager n → publicKey ≠ none) := by
    refine (argumentsHold_assertSize (by decide) _).trans ?_
    refine (and_iff_right (checkLength_eq_ok.mp hcheck)).trans ?_
    exact argumentsHold_withInstance_iff hok.manager hok.unlocked fun tox =>
      argumentsHold_readPointer
  refine argumentsHold_checkedCall.trans ?_
  constructor
  · intro hholds
    cases publicKey with
    | none => exact (hmethod rfl).mp (hholds rfl)
    | some key => exact fun _ => Option.some_ne_none key
  · intro hnull hcheck
    exact (hmethod hcheck).mpr hnull

/-- A call reaches no assertion about its arguments, and no legacy function with a null pointer,
    exactly if it is one of the calls that are listed. -/
theorem argumentsHold_run_iff (hreach : History.Reachable ops h) (core : CoreFunctions Tox)
    (alive : List Tox) (instanceNumber : Int32) (call : ArgumentCall Events Mutex) :
    ArgumentsHold (call.run core { manager := h.manager, alive } instanceNumber) ↔
      call.Takes (Live h.manager instanceNumber) := by
  have hok := History.ok_of_reachable hreach
  cases call with
  | bootstrap address port publicKey =>
    apply iff_of_true _ trivial
    exact argumentsHold_checked argumentsHold_toxBootstrapLike
  | addTcpRelay address port publicKey =>
    apply iff_of_true _ trivial
    exact argumentsHold_checked argumentsHold_toxBootstrapLike
  | addFriend address message =>
    apply iff_of_true _ trivial
    apply argumentsHold_checked
    intro hcheck
    apply (argumentsHold_assertSize (by decide) _).mpr
    exact ⟨checkLength_eq_ok.mp hcheck, argumentsHold_withInstance fun tox => argumentsHold_ok _⟩
  | addFriendNoRequest publicKey =>
    exact argumentsHold_pending.trans
      (argumentsHold_addFriendNoRequest hreach core instanceNumber publicKey)
  | getFriendByPublicKey publicKey =>
    apply argumentsHold_unchecked.trans
    apply (argumentsHold_assertSize (by decide) _).trans
    exact and_iff_left (argumentsHold_withInstance fun tox => argumentsHold_ok _)
  | fileSendChunk friendNumber fileNumber data =>
    apply argumentsHold_unchecked.trans
    apply argumentsHold_withInstance_iff hok.manager hok.unlocked
    intro tox
    rw [argumentsHold_sendChunk, length_buffer_ne_zero_iff]
  | create calls data optionsAllocated outOfMemory grows events mutex =>
    apply iff_of_true (argumentsHold_pending.mpr _) trivial
    exact argumentsHold_create core _ (JavaToxOptions.portInRange_foldl calls) data
      optionsAllocated outOfMemory grows events mutex

end

/-- A core that is called with the friend table. -/
def plainCore : CoreFunctions FriendTable where
  lg := FriendTable.core
  legacy _ := .oneFriend
  newTox _ := {}
  toxBootstrapFromAddress _ _ _ _ := 1
  toxAddTcpRelay _ _ _ _ := 1
  toxGetFriendNumber _ _ := -1

/-- One instance was created, and has the number 1. -/
def oneInstance : List (Op FriendTable Unit Unit) := [.add {} () () true]

theorem reachable_oneInstance : History.Reachable oneInstance
    { manager := { instances := [{ tox := some {}, events := some (), mutex := some () }] }
      adds := 1 } := by
  apply Run.of_foldlM
  rfl

theorem argumentsHold_run_oneByte : ∃ h : History FriendTable Unit Unit,
    History.Reachable oneInstance h ∧
      ArgumentsHold ((ArgumentCall.fileSendChunk 0 0 (some ⟨[1], by decide⟩)).run plainCore
        { manager := h.manager, alive := [{}] } 1) :=
  ⟨_, reachable_oneInstance,
    (argumentsHold_run_iff reachable_oneInstance plainCore [{}] 1 _).mpr fun _ => by decide⟩

/-- A key without bytes, no key, and a chunk without bytes. -/
theorem not_argumentsHold_oneInstance : ∃ h : History FriendTable Unit Unit,
    History.Reachable oneInstance h ∧
      ¬ ArgumentsHold ((ArgumentCall.getFriendByPublicKey (some ⟨[], by decide⟩)).run plainCore
        { manager := h.manager, alive := [{}] } 1) ∧
      ¬ ArgumentsHold ((ArgumentCall.addFriendNoRequest none).run plainCore
        { manager := h.manager, alive := [{}] } 1) ∧
      ¬ ArgumentsHold ((ArgumentCall.fileSendChunk 0 0 (some ⟨[], by decide⟩)).run plainCore
        { manager := h.manager, alive := [{}] } 1) := by
  refine ⟨_, reachable_oneInstance, ?_, ?_, ?_⟩
  · exact not_argumentsHold_argument _
  · exact not_argumentsHold_nullRead _
  · exact not_argumentsHold_argument _

end Tox4j.Jni
