import Tox4j.Adapter.Friends

/-!
# The proxy options of `new_tox_new`

`legacyOptions` has the proxy address as a string. In the legacy options it is an array of a fixed
size that the string is copied to.
-/

namespace Tox4j.Adapter

/-- `std::strncpy`: what is in the array afterwards. -/
def strncpy (dest src : List UInt8) (n : ℕ) : List UInt8 :=
  let copied := (cString src).take n
  copied ++ List.replicate (n - copied.length) 0 ++ dest.drop n

section

variable {Tox : Type} (lg : Toxcore Tox)

/-- `Tox_Options::proxy_address` of options that `Tox_Options ()` set to 0. -/
def Toxcore.proxyAddressArray (address : List UInt8) : List UInt8 :=
  strncpy (List.replicate lg.proxyAddressSize 0) address (lg.proxyAddressSize - 1)

/-- A host that may be passed on. -/
structure GoodHost (host : List UInt8) : Prop where
  printable : ∀ c ∈ host, isprint c = true
  nonempty : host ≠ []
  /-- It does not start with a dot. -/
  head_ne_dot : host.head? ≠ some 46

/-- The error that tells what is wrong with the proxy options. -/
inductive RefusesProxy (options : NewToxOptions) : ErrNew → Prop
  | null : options.proxyAddress = none → RefusesProxy options .null
  | host {address : List UInt8} : options.proxyAddress = some address →
      ¬ GoodHost (cString address) → RefusesProxy options .proxyBadHost
  | port {address : List UInt8} : options.proxyAddress = some address →
      GoodHost (cString address) → options.proxyPort = 0 → RefusesProxy options .proxyBadPort

/-- The legacy options have the proxy that was passed in, and it is a good one. -/
structure KeepsProxy (options : NewToxOptions) (opts : ToxOptions) (address : List UInt8) :
    Prop where
  type : opts.proxyType = options.proxyType.legacy
  passed : options.proxyAddress = some address
  /-- The string in the array. -/
  array : cString (lg.proxyAddressArray address) = opts.proxyAddress
  host : opts.proxyAddress = cString address
  port : opts.proxyPort = options.proxyPort
  good : GoodHost opts.proxyAddress
  port_ne : opts.proxyPort ≠ 0

/-- The legacy core is called with the proxy that was passed in, or not at all. -/
structure TranslatesProxy (options : NewToxOptions) : Prop where
  keeps : ∀ opts, toxNewOptions lg (some options) = .ok opts →
    ∃ kept address, opts = some kept ∧ KeepsProxy lg options kept address
  refuses : ∀ e, toxNewOptions lg (some options) = .error e →
    RefusesProxy options e ∧
      ∀ data length outOfMemory, newToxNew lg (some options) data length outOfMemory = (none, e)

end

end Tox4j.Adapter
