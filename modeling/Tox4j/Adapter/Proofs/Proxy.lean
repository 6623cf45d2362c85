import Mathlib.Data.List.TakeDrop
import Mathlib.Data.List.TakeWhile
import Tox4j.Adapter.Proxy

/-!
# When the proxy is the one that was asked for

The checks refuse a host that is not printable, empty, or starts with a dot, and the port 0. No
check is about the length of the host, and the copy stops in front of the last byte of the array.
-/

namespace Tox4j.Adapter

variable {Tox : Type} {lg : Toxcore Tox} {options : NewToxOptions} {address : List UInt8}

theorem ne_zero_of_mem_cString {bytes : List UInt8} {c : UInt8} (h : c ∈ cString bytes) :
    c ≠ 0 := by
  have hc := List.mem_takeWhile_imp h
  simpa using hc

/-- A string ends in front of the first NUL. -/
theorem cString_append_zero {s : List UInt8} (hs : ∀ c ∈ s, c ≠ 0) (rest : List UInt8) :
    cString (s ++ 0 :: rest) = s := by
  rw [cString, List.takeWhile_append_of_pos (fun c hc => by simpa using hs c hc)]
  rw [List.takeWhile_cons_of_neg (by simp), List.append_nil]

theorem cString_eq_self {s : List UInt8} (hs : ∀ c ∈ s, c ≠ 0) : cString s = s :=
  List.takeWhile_eq_self_iff.mpr fun c hc => by simpa using hs c hc

/-- An array that was 0 keeps its last byte, so there is a NUL behind what was copied. -/
theorem cString_strncpy (src : List UInt8) {n size : ℕ} (h : n < size) :
    cString (strncpy (List.replicate size 0) src n) = (cString src).take n := by
  have hne : ∀ c ∈ (cString src).take n, c ≠ 0 := fun c hc =>
    ne_zero_of_mem_cString (List.mem_of_mem_take hc)
  have hlast : size - n = size - n - 1 + 1 := by omega
  have hzero : ∃ rest, List.replicate (n - ((cString src).take n).length) (0 : UInt8) ++
      List.replicate (size - n) 0 = 0 :: rest := by
    refine ⟨List.replicate (n - ((cString src).take n).length + (size - n - 1)) 0, ?_⟩
    rw [← List.replicate_add, ← List.replicate_succ, hlast]
    rfl
  rcases hzero with ⟨rest, hrest⟩
  show cString ((cString src).take n ++ _ ++ List.drop n (List.replicate size 0)) = _
  rw [List.append_assoc, List.drop_replicate, hrest]
  exact cString_append_zero hne rest

theorem cString_proxyAddressArray (h : 0 < lg.proxyAddressSize) (address : List UInt8) :
    cString (lg.proxyAddressArray address) = (cString address).take (lg.proxyAddressSize - 1) :=
  cString_strncpy address (Nat.sub_lt h Nat.one_pos)

theorem goodHost_iff {host : List UInt8} :
    GoodHost host ↔ ¬ (host.any fun c => !isprint c) ∧ host.head? ∉ [none, some 46] := by
  have hprint : (¬ (host.any fun c => !isprint c) = true) ↔ ∀ c ∈ host, isprint c = true := by
    simp
  have hhead : host.head? ∉ [none, some 46] ↔ host ≠ [] ∧ host.head? ≠ some 46 := by
    rw [List.mem_pair, not_or, Ne, List.head?_eq_none_iff]
  rw [hprint, hhead]
  constructor
  · intro h
    exact ⟨h.printable, h.nonempty, h.head_ne_dot⟩
  · intro h
    exact ⟨h.1, h.2.1, h.2.2⟩

/-- A good host and a port pass. -/
theorem checkProxy_ok (haddress : options.proxyAddress = some address)
    (hgood : GoodHost (cString address)) (hport : options.proxyPort ≠ 0) :
    checkProxy options = .ok () := by
  rcases goodHost_iff.mp hgood with ⟨hprint, hhead⟩
  simp only [checkProxy, haddress, if_neg hprint, if_neg hhead, if_neg hport, ite_self]

theorem checkProxy_badHost (hproxy : options.proxyType ≠ .none)
    (haddress : options.proxyAddress = some address) (hbad : ¬ GoodHost (cString address)) :
    checkProxy options = .error .proxyBadHost := by
  rw [goodHost_iff, not_and_or, not_not, not_not] at hbad
  simp only [checkProxy, if_neg hproxy, haddress]
  by_cases hprint : (cString address).any fun c => !isprint c
  · rw [if_pos hprint]
  · rw [if_neg hprint, if_pos (hbad.resolve_left hprint)]

theorem checkProxy_badPort (hproxy : options.proxyType ≠ .none)
    (haddress : options.proxyAddress = some address) (hgood : GoodHost (cString address))
    (hport : options.proxyPort = 0) : checkProxy options = .error .proxyBadPort := by
  rcases goodHost_iff.mp hgood with ⟨hprint, hhead⟩
  simp only [checkProxy, if_neg hproxy, haddress, if_neg hprint, if_neg hhead, if_pos hport]

/-- What the checks make of a proxy. -/
theorem checkProxy_cases (hproxy : options.proxyType ≠ .none) :
    (∃ e, checkProxy options = .error e ∧ RefusesProxy options e) ∨
      checkProxy options = .ok () ∧ ∃ address, options.proxyAddress = some address ∧
        GoodHost (cString address) ∧ options.proxyPort ≠ 0 := by
  cases haddress : options.proxyAddress with
  | none =>
    refine .inl ⟨.null, ?_, .null haddress⟩
    rw [checkProxy, if_neg hproxy, haddress]
  | some address =>
    by_cases hgood : GoodHost (cString address)
    · by_cases hport : options.proxyPort = 0
      · exact .inl ⟨_, checkProxy_badPort hproxy haddress hgood hport, .port haddress hgood hport⟩
      · exact .inr ⟨checkProxy_ok haddress hgood hport, address, rfl, hgood, hport⟩
    · exact .inl ⟨_, checkProxy_badHost hproxy haddress hgood, .host haddress hgood⟩

theorem legacy_ne_none (hproxy : options.proxyType ≠ .none) :
    options.proxyType.legacy ≠ .none := by
  cases h : options.proxyType with
  | none => exact absurd h hproxy
  | http | socks5 => decide

/-- The options for a proxy that passes the checks. -/
theorem toxNewOptions_proxy (hproxy : options.proxyType ≠ .none)
    (haddress : options.proxyAddress = some address) (hcheck : checkProxy options = .ok ()) :
    toxNewOptions lg (some options) = .ok (some
      { ipv6enabled := options.ipv6Enabled
        udpDisabled := !options.udpEnabled
        proxyType := options.proxyType.legacy
        proxyAddress := (cString address).take (lg.proxyAddressSize - 1)
        proxyPort := options.proxyPort }) := by
  have hlegacy := legacy_ne_none hproxy
  show (some <$> legacyOptions lg options) = _
  rw [legacyOptions, hcheck, haddress]
  show some <$> (if options.proxyType.legacy = .none then _ else _) = _
  rw [if_neg hlegacy]
  rfl

/-- The options without a proxy, which are not checked. -/
theorem toxNewOptions_noProxy (hproxy : options.proxyType = .none) :
    toxNewOptions lg (some options) = .ok (some
      { ipv6enabled := options.ipv6Enabled
        udpDisabled := !options.udpEnabled }) := by
  have hcheck : checkProxy options = .ok () := if_pos hproxy
  show (some <$> legacyOptions lg options) = _
  rw [legacyOptions, hcheck, hproxy]
  rfl

theorem toxNewOptions_refused {e : ErrNew} (hcheck : checkProxy options = .error e) :
    toxNewOptions lg (some options) = .error e := by
  show (some <$> legacyOptions lg options) = _
  rw [legacyOptions, hcheck]
  rfl

theorem newToxNew_refused {options : Option NewToxOptions} {e : ErrNew}
    (h : toxNewOptions lg options = .error e) (data : Option (List UInt8)) (length : ℕ)
    (outOfMemory : Bool) : newToxNew lg options data length outOfMemory = (none, e) := by
  simp only [newToxNew, h]

/-- Options that are refused call no legacy function. -/
theorem translatesProxy_of_refused {e : ErrNew} (hcheck : checkProxy options = .error e)
    (hrefuses : RefusesProxy options e) : TranslatesProxy lg options := by
  have hoptions : toxNewOptions lg (some options) = .error e := toxNewOptions_refused hcheck
  constructor
  · intro opts hopts
    rw [hoptions] at hopts
    cases hopts
  · intro e' he'
    rw [hoptions] at he'
    cases he'
    exact ⟨hrefuses, newToxNew_refused hoptions⟩

theorem translatesProxy_iff_keeps {kept : ToxOptions}
    (hoptions : toxNewOptions lg (some options) = .ok (some kept)) :
    TranslatesProxy lg options ↔ ∃ address, KeepsProxy lg options kept address := by
  constructor
  · intro h
    rcases h.keeps _ hoptions with ⟨kept', address, heq, hkept⟩
    cases heq
    exact ⟨address, hkept⟩
  · intro h
    rcases h with ⟨address, hkept⟩
    constructor
    · intro opts hopts
      rw [hoptions] at hopts
      cases hopts
      exact ⟨kept, address, rfl, hkept⟩
    · intro e he
      rw [hoptions] at he
      cases he

/-- The address that was passed in is the only one that can be kept. -/
theorem KeepsProxy.address_eq {kept : ToxOptions} {address' : List UInt8}
    (h : KeepsProxy lg options kept address') (haddress : options.proxyAddress = some address) :
    address' = address := by
  have hpassed := h.passed
  rw [haddress] at hpassed
  cases hpassed
  rfl

theorem RefusesProxy.ne_ok {e : ErrNew} (h : RefusesProxy options e) : e ≠ .ok := by
  cases h <;> decide

/-- A refused proxy has no good host, or no port. -/
theorem RefusesProxy.port_eq_zero {e : ErrNew} (h : RefusesProxy options e)
    (haddress : options.proxyAddress = some address) (hgood : GoodHost (cString address)) :
    options.proxyPort = 0 := by
  cases h with
  | null hnull =>
    rw [haddress] at hnull
    cases hnull
  | host hsome hbad =>
    rw [haddress] at hsome
    cases hsome
    exact absurd hgood hbad
  | port _ _ hzero => exact hzero

/-- The proxy is translated exactly if a host that passes the checks fits into the array. -/
theorem translatesProxy_iff (hproxy : options.proxyType ≠ .none)
    (hsize : lg.proxyAddressSize = 256) :
    TranslatesProxy lg options ↔
      ∀ address, options.proxyAddress = some address → GoodHost (cString address) →
        options.proxyPort ≠ 0 → (cString address).length ≤ 255 := by
  rcases checkProxy_cases hproxy with
    ⟨e, hcheck, hrefuses⟩ | ⟨hcheck, address, haddress, hgood, hport⟩
  · apply iff_of_true (translatesProxy_of_refused hcheck hrefuses)
    intro address haddress hgood hport
    exact absurd (hrefuses.port_eq_zero haddress hgood) hport
  · have hoptions : toxNewOptions lg (some options) = _ :=
      toxNewOptions_proxy hproxy haddress hcheck
    rw [hsize] at hoptions
    rw [translatesProxy_iff_keeps hoptions]
    constructor
    · intro h address' haddress' _ _
      rcases h with ⟨passed, hkept⟩
      have hhost := hkept.host
      rw [hkept.address_eq haddress'] at hhost
      rw [haddress] at haddress'
      cases haddress'
      exact (List.take_eq_self_iff _).mp hhost
    · intro h
      have hhost : (cString address).take 255 = cString address :=
        List.take_of_length_le (h address haddress hgood hport)
      have harray : cString (lg.proxyAddressArray address) = (cString address).take 255 := by
        rw [cString_proxyAddressArray (by omega), hsize]
      exact ⟨address,
        { type := rfl
          passed := haddress
          array := harray
          host := hhost
          port := rfl
          good := hhost.symm ▸ hgood
          port_ne := hport }⟩

theorem translatesProxy_localhost :
    TranslatesProxy FriendTable.core
      { ipv6Enabled := true
        udpEnabled := true
        proxyType := .socks5
        proxyAddress := some [108, 111, 99, 97, 108, 104, 111, 115, 116]
        proxyPort := 1080 } := by
  apply (translatesProxy_iff (by decide) rfl).mpr
  intro address haddress _ _
  cases haddress
  decide

/-- A proxy whose host is one byte too long for the array. -/
def longProxy : NewToxOptions where
  ipv6Enabled := true
  udpEnabled := true
  proxyType := .http
  proxyAddress := some (List.replicate 256 97)
  proxyPort := 1080

/-- The legacy core gets another host. -/
theorem not_translatesProxy_longProxy :
    longProxy.proxyType ≠ .none ∧ FriendTable.core.proxyAddressSize = 256 ∧
      ¬ TranslatesProxy FriendTable.core longProxy := by
  refine ⟨by decide, rfl, fun h => ?_⟩
  have hmem : ∀ c ∈ List.replicate 256 (97 : UInt8), c = 97 := fun _ hc =>
    List.eq_of_mem_replicate hc
  have hstring : cString (List.replicate 256 97) = List.replicate 256 97 :=
    cString_eq_self fun c hc => hmem c hc ▸ by decide
  have hgood : GoodHost (cString (List.replicate 256 97)) := by
    rw [hstring]
    refine ⟨fun c hc => ?_, List.cons_ne_nil 97 (List.replicate 255 97), by decide⟩
    rw [hmem c hc]
    decide
  have hoptions : toxNewOptions FriendTable.core (some longProxy) = _ :=
    toxNewOptions_proxy (by decide) rfl (checkProxy_ok rfl hgood (by decide))
  rcases (translatesProxy_iff_keeps hoptions).mp h with ⟨address, hkept⟩
  have hhost := hkept.host
  rw [hkept.address_eq rfl] at hhost
  have hlength : ((cString (List.replicate 256 97)).take 255).length =
      (cString (List.replicate 256 97)).length := congrArg List.length hhost
  rw [hstring, List.take_replicate, List.length_replicate, List.length_replicate] at hlength
  exact absurd hlength (by decide)

end Tox4j.Adapter
