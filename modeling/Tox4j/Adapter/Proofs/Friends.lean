import Tox4j.Adapter.Friends

/-!
# Which friends have packet handlers

Each function that adds a friend registers all handlers for it, and `new_tox_new` does so for the
friends of the new instance. Those are none: save data is loaded afterwards.
-/

namespace Tox4j.Adapter

open Tox4j.Misc

theorem mem_byteRange {first last b : UInt8} : b ∈ byteRange first last ↔ first ≤ b ∧ b ≤ last := by
  have hlast := last.toNat_lt
  have hb := b.toNat_lt
  simp only [byteRange, List.mem_map, List.mem_range'_1, UInt8.le_iff_toNat_le]
  constructor
  · rintro ⟨n, ⟨hfirst, hn⟩, rfl⟩
    have hn' : n < 256 := by omega
    rw [UInt8.toNat_ofNat_of_lt' hn']
    omega
  · intro h
    exact ⟨b.toNat, by omega, UInt8.ofNat_toNat⟩

namespace Toxcore

variable {Tox : Type} {lg : Toxcore Tox} {tox tox' tox'' : Tox} {f : Int32}

theorem Kept.refl (lg : Toxcore Tox) (f : Int32) (tox : Tox) : lg.Kept f tox tox :=
  fun _ _ h => h

theorem Kept.trans (h : lg.Kept f tox tox') (h' : lg.Kept f tox' tox'') : lg.Kept f tox tox'' :=
  fun kind b hb => h' kind b (h kind b hb)

theorem Kept.covered (h : lg.Kept f tox tox') (hcovered : FriendCovered lg tox f) :
    FriendCovered lg tox' f :=
  ⟨fun b hlo hhi => h _ _ (hcovered.1 b hlo hhi), fun b hlo hhi => h _ _ (hcovered.2 b hlo hhi)⟩

/-- Registering handlers for a list of bytes changes no friend and clears no handler. -/
theorem Documented.foldl_kept (hlg : lg.Documented) (kind : PacketKind) (f : Int32)
    (bs : List UInt8) (tox : Tox) :
    lg.friendlist (bs.foldl (fun tox b => lg.registerhandler kind tox f b) tox) =
        lg.friendlist tox ∧
      ∀ f', lg.Kept f' tox (bs.foldl (fun tox b => lg.registerhandler kind tox f b) tox) := by
  induction bs generalizing tox with
  | nil => exact ⟨rfl, fun f' => .refl lg f' tox⟩
  | cons b bs ih =>
    obtain ⟨hlist, hkept⟩ := ih (lg.registerhandler kind tox f b)
    rw [hlg.register_friendlist] at hlist
    exact ⟨hlist, fun f' => (hlg.register_kept kind tox f b f').trans (hkept f')⟩

/-- Afterwards a friend has a handler for each byte of the list that may have one. -/
theorem Documented.foldl_registers (hlg : lg.Documented) {kind : PacketKind} {f : Int32}
    {bs : List UInt8} (hf : f ∈ lg.friendlist tox)
    (hregisters : ∀ tox, f ∈ lg.friendlist tox → ∀ b ∈ bs,
      lg.handler kind (lg.registerhandler kind tox f b) f b = true) :
    ∀ b ∈ bs, lg.handler kind (bs.foldl (fun tox b => lg.registerhandler kind tox f b) tox) f b =
      true := by
  induction bs generalizing tox with
  | nil => simp
  | cons b bs ih =>
    intro b' hb'
    have hf' : f ∈ lg.friendlist (lg.registerhandler kind tox f b) := by
      rwa [hlg.register_friendlist]
    rcases List.mem_cons.mp hb' with rfl | hb'
    · apply (hlg.foldl_kept kind f bs (lg.registerhandler kind tox f b')).2 f
      exact hregisters tox hf b' (List.mem_cons_self ..)
    · apply ih hf' _ b' hb'
      intro tox hf b hb
      exact hregisters tox hf b (List.mem_cons_of_mem _ hb)

/-- A friend has all handlers after they were registered, and nobody loses any. -/
theorem Documented.registerFriendHandlers (hlg : lg.Documented) (tox : Tox) (f : Int32) :
    lg.friendlist (registerFriendHandlers lg tox f.toUInt32) = lg.friendlist tox ∧
      (∀ f', lg.Kept f' tox (registerFriendHandlers lg tox f.toUInt32)) ∧
      (f ∈ lg.friendlist tox → FriendCovered lg (registerFriendHandlers lg tox f.toUInt32) f) := by
  simp only [Adapter.registerFriendHandlers, Int32.toInt32_toUInt32]
  obtain ⟨hlist, hkept⟩ := hlg.foldl_kept .lossy f (byteRange 200 254) tox
  obtain ⟨hlist', hkept'⟩ := hlg.foldl_kept .lossless f (byteRange 160 191)
    ((byteRange 200 254).foldl (fun tox b => lg.registerhandler .lossy tox f b) tox)
  refine ⟨hlist'.trans hlist, fun f' => (hkept f').trans (hkept' f'), fun hf => ⟨?_, ?_⟩⟩
  · intro b hlo hhi
    apply hkept' f
    apply hlg.foldl_registers hf _ b (mem_byteRange.mpr ⟨hlo, hhi⟩)
    intro tox hf b hb
    obtain ⟨hlo, hhi⟩ := mem_byteRange.mp hb
    exact hlg.register_lossy tox b hlo hhi f hf
  · intro b hlo hhi
    rw [← hlist] at hf
    apply hlg.foldl_registers hf _ b (mem_byteRange.mpr ⟨hlo, hhi⟩)
    intro tox hf b hb
    obtain ⟨hlo, hhi⟩ := mem_byteRange.mp hb
    exact hlg.register_lossless tox b hlo hhi f hf

end Toxcore

section

variable {Tox : Type} {lg : Toxcore Tox} {tox tox' : Tox}

/-- An added friend is covered, and those that were covered still are. -/
theorem friendAdded_covered (hlg : lg.Documented) (hcovered : FriendsCovered lg tox)
    {errors : List (Int32 × ErrFriendAdd)} (herrors : ∀ e ∈ errors, e.1 < 0)
    {result : Int32 × Tox} (hadds : lg.Adds tox result) :
    FriendsCovered lg (friendAdded lg errors result).2 := by
  obtain ⟨r, added⟩ := result
  obtain ⟨hlist, hkept⟩ := hadds
  cases hlookup : errors.lookup r with
  | some e =>
    -- no friend was added
    simp only [friendAdded, hlookup]
    obtain ⟨l₁, l₂, hmem, -⟩ := List.lookup_eq_some_iff.mp hlookup
    have hneg := herrors (r, e) (by simp [hmem])
    intro f hf
    rcases hlist f hf with hold | ⟨rfl, hpos⟩
    · exact (hkept f hold).covered (hcovered f hold)
    · exact absurd hneg (Int32.not_lt.mpr hpos)
  | none =>
    simp only [friendAdded, hlookup]
    obtain ⟨hsame, hregistered, hself⟩ := hlg.registerFriendHandlers added r
    intro f hf
    rw [hsame] at hf
    rcases hlist f hf with hold | ⟨rfl, -⟩
    · exact ((hkept f hold).trans (hregistered f)).covered (hcovered f hold)
    · exact hself hf

theorem newToxFriendAdd_covered (hlg : lg.Documented) (hcovered : FriendsCovered lg tox)
    (address message : Option (List UInt8)) :
    FriendsCovered lg (newToxFriendAdd lg tox address message).2 := by
  cases address with
  | none => exact hcovered
  | some address =>
    cases message with
    | none => exact hcovered
    | some message => exact friendAdded_covered hlg hcovered (by decide) (hlg.addFriend tox _ _)

theorem newToxFriendAddNorequest_covered (hlg : lg.Documented) (hcovered : FriendsCovered lg tox)
    (publicKey : List UInt8) :
    FriendsCovered lg (newToxFriendAddNorequest lg tox publicKey).2 :=
  friendAdded_covered hlg hcovered (by decide) (hlg.addFriendNorequest tox publicKey)

theorem newToxFriendDelete_covered (hlg : lg.Documented) (hcovered : FriendsCovered lg tox)
    {friendNumber : UInt32} {reply : Bool × ErrFriendDelete}
    (h : newToxFriendDelete lg tox friendNumber = .ok (reply, tox')) :
    FriendsCovered lg tox' := by
  have hdeleted : tox' = (lg.delFriend tox friendNumber.toInt32).2 := by
    unfold newToxFriendDelete at h
    generalize lg.delFriend tox friendNumber.toInt32 = result at h ⊢
    obtain ⟨r, deleted⟩ := result
    simp only at h
    by_cases hzero : r = 0
    · rw [if_pos hzero] at h
      split at h <;> cases h <;> rfl
    · rw [if_neg hzero] at h
      split at h <;> cases h
      rfl
  subst hdeleted
  intro f hf
  obtain ⟨hold, hkept⟩ := hlg.delFriend tox friendNumber.toInt32 f hf
  exact hkept.covered (hcovered f hold)

/-- Every call keeps all friends covered. -/
theorem step_covered (hlg : lg.Documented) (call : FriendCall) (hcovered : FriendsCovered lg tox)
    (hstep : FriendStep lg tox call tox') : FriendsCovered lg tox' := by
  cases call with
  | add address message =>
    cases hstep
    exact newToxFriendAdd_covered hlg hcovered address message
  | addNorequest publicKey =>
    cases hstep
    exact newToxFriendAddNorequest_covered hlg hcovered publicKey
  | delete friendNumber =>
    obtain ⟨⟨reply, tox''⟩, hdelete, rfl⟩ := Checked.map_eq_ok.mp hstep
    exact newToxFriendDelete_covered hlg hcovered hdelete

/-- An instance has been made by the legacy core before the save data is loaded. -/
theorem newToxNew_eq_some {options : Option NewToxOptions} {data : Option (List UInt8)}
    {length : ℕ} {outOfMemory : Bool} {e : ErrNew}
    (h : newToxNew lg options data length outOfMemory = (some tox, e)) :
    ∃ opts fresh, toxNewOptions lg options = .ok opts ∧ lg.toxNew opts = some fresh ∧
      tox = (loadSaveData lg (registerCustomPacketHandlers lg fresh) data length).1 := by
  unfold newToxNew at h
  split at h
  · cases h
  · rename_i opts hopts
    split at h
    · cases h
    · rename_i fresh hfresh
      cases h
      exact ⟨opts, fresh, hopts, hfresh, rfl⟩

/-- The friends of a new instance are those restored from the save data. -/
theorem friendlist_loadSaveData (hnone : lg.friendlist tox = []) (data : Option (List UInt8))
    (length : ℕ) :
    lg.friendlist (loadSaveData lg tox data length).1 = restoredFriends lg tox data length := by
  unfold loadSaveData restoredFriends
  split
  · exact hnone
  · cases data with
    | none => exact hnone
    | some data => rfl

/-- No handler is registered while save data is loaded. -/
theorem handler_loadSaveData (hlg : lg.Documented) {data : Option (List UInt8)} {length : ℕ}
    {kind : PacketKind} {f : Int32} {b : UInt8}
    (h : lg.handler kind (loadSaveData lg tox data length).1 f b = true) :
    lg.handler kind tox f b = true := by
  unfold loadSaveData at h
  split at h
  · exact h
  · cases data with
    | none => exact h
    | some data => exact hlg.load_handler tox _ kind f b h

end

/-- All friends have handlers for all custom packets, in every state after `new_tox_new`, if and
    only if no friend was restored from the save data. -/
theorem friends_covered_iff {Tox : Type} {lg : Toxcore Tox} (hlg : lg.Documented)
    {options : Option NewToxOptions} {data : Option (List UInt8)} {length : ℕ}
    {outOfMemory : Bool} {tox : Tox} {e : ErrNew}
    (h : newToxNew lg options data length outOfMemory = (some tox, e)) :
    (∀ calls tox', Run (FriendStep lg) tox calls tox' → FriendsCovered lg tox') ↔
      ∃ opts fresh, toxNewOptions lg options = .ok opts ∧ lg.toxNew opts = some fresh ∧
        restoredFriends lg fresh data length = [] := by
  obtain ⟨opts, fresh, hopts, hfresh, rfl⟩ := newToxNew_eq_some h
  have hempty := hlg.new_friendlist opts fresh hfresh
  have hregister : registerCustomPacketHandlers lg fresh = fresh := by
    rw [registerCustomPacketHandlers, hempty]
    rfl
  have hfriends := friendlist_loadSaveData hempty data length
  rw [hregister]
  constructor
  · intro hcovered
    refine ⟨opts, fresh, hopts, hfresh, ?_⟩
    rw [← hfriends]
    apply List.eq_nil_iff_forall_not_mem.mpr
    intro f hf
    have hlossy := (hcovered [] _ .nil f hf).1 200 (by decide) (by decide)
    have hnot := hlg.new_handler opts fresh hfresh .lossy f 200
    rw [handler_loadSaveData hlg hlossy] at hnot
    cases hnot
  · rintro ⟨opts', fresh', hopts', hfresh', hrestored⟩ calls tox' hrun
    rw [hopts, Except.ok.injEq] at hopts'
    subst hopts'
    rw [hfresh, Option.some.injEq] at hfresh'
    subst hfresh'
    refine Run.invariant ?_ (fun _ call _ => step_covered hlg call) hrun
    intro f hf
    rw [hfriends, hrestored] at hf
    cases hf

namespace FriendTable

theorem adds_addFriend (tox : FriendTable) : core.Adds tox tox.addFriend := by
  unfold addFriend
  simp only
  split
  · exact ⟨fun f hf => .inl hf, fun f _ => .refl core f tox⟩
  · rename_i r hfind
    have hr := List.find?_some hfind
    simp only [Bool.and_eq_true, decide_eq_true_eq] at hr
    refine ⟨fun f hf => ?_, fun f _ kind b h => h⟩
    rcases List.mem_append.mp hf with hold | hnew
    · exact .inl hold
    · rw [List.mem_singleton] at hnew
      exact .inr ⟨hnew, hnew ▸ hr.1⟩

theorem friends_registerhandler (kind : PacketKind) (tox : FriendTable) (f : Int32) (b : UInt8) :
    (tox.registerhandler kind f b).friends = tox.friends := by
  unfold registerhandler
  split <;> rfl

theorem handler_registerhandler {kind : PacketKind} {tox : FriendTable} {f : Int32} {b : UInt8}
    (hf : f ∈ tox.friends) (hb : customByte kind b = true) :
    core.handler kind (tox.registerhandler kind f b) f b = true := by
  simp [core, registerhandler, hf, hb]

theorem documented : core.Documented where
  new_friendlist opts tox h := by
    cases h
    rfl
  new_handler opts tox h kind f b := by
    cases h
    rfl
  load_handler tox data kind f b h := h
  register_friendlist := friends_registerhandler
  register_kept kind tox f b f' kind' b' h := by
    simp only [core, registerhandler, List.contains_iff_mem] at h ⊢
    split
    · exact List.mem_cons_of_mem _ h
    · exact h
  register_lossy tox b hlo hhi f hf := handler_registerhandler hf (by simp [customByte, hlo, hhi])
  register_lossless tox b hlo hhi f hf :=
    handler_registerhandler hf (by simp [customByte, hlo, hhi])
  addFriend tox address message := by
    simp only [core]
    split
    · exact ⟨fun f hf => .inl hf, fun f _ => .refl core f tox⟩
    · exact adds_addFriend tox
  addFriendNorequest tox publicKey := adds_addFriend tox
  delFriend tox f f' hf' := by
    simp only [core, delFriend] at hf' ⊢
    split at hf'
    · rename_i hmem
      obtain ⟨hold, hne⟩ := List.mem_filter.mp hf'
      refine ⟨hold, fun kind b h => ?_⟩
      rw [if_pos hmem]
      simp only [List.contains_iff_mem] at h ⊢
      exact List.mem_filter.mpr ⟨h, hne⟩
    · rename_i hmem
      rw [if_neg hmem]
      exact ⟨hf', .refl core f' tox⟩

end FriendTable

/-- Two friends are added, and the number of the first is used again after it was deleted. -/
def usedAgain : List FriendCall :=
  [.add (some [1]) (some [104, 105]), .addNorequest [2], .delete 0,
    .add (some [3]) (some [104, 105])]

theorem friends_covered_usedAgain : ∃ tox, Run (FriendStep FriendTable.core) {} usedAgain tox ∧
    tox.friends = [1, 0] ∧ FriendsCovered FriendTable.core tox := by
  have hrun : (do
      let tox ← usedAgain.foldlM (FriendCall.run FriendTable.core) {}
      return tox.friends) = (.ok [1, 0] : Checked _) := by
    decide +kernel
  simp only [Checked.bind_eq_ok, Checked.pure_eq_ok] at hrun
  obtain ⟨tox, hrun, hfriends⟩ := hrun
  have h := Run.of_foldlM hrun
  have hnew : newToxNew FriendTable.core none none 0 false = (some {}, .ok) := rfl
  exact ⟨tox, h, hfriends,
    (friends_covered_iff FriendTable.documented hnew).mpr ⟨none, {}, rfl, rfl, rfl⟩ _ _ h⟩

/-- A friend that was restored from save data has no handlers. -/
theorem restored_friend_not_covered : FriendTable.core.Documented ∧
    ∃ tox, newToxNew FriendTable.core none (some [1]) 1 false = (some tox, .ok) ∧
      tox.friends = [0] ∧ ¬ FriendsCovered FriendTable.core tox := by
  refine ⟨FriendTable.documented, { friends := [0] }, by decide, rfl, fun hcovered => ?_⟩
  have hlossy := (hcovered 0 (by simp [FriendTable.core])).1 200 (by decide) (by decide)
  cases hlossy

end Tox4j.Adapter
