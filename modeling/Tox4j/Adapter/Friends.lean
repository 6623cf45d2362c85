import Tox4j.Adapter.CorePrivate
import Tox4j.Misc.Run

/-!
# `core.cpp`: new instances, friends and their packet handlers

The legacy core is a parameter: an instance type `Tox` with the functions that are called on it.
The functions here use nothing of a `new_Tox` but its legacy instance, so they take that.
-/

namespace Tox4j.Adapter

open Tox4j.Misc

/-- The proxy types of the legacy core. -/
inductive LegacyProxy where
  | none
  | socks5
  | http
  deriving DecidableEq, Repr

/-- `Tox_Options`. -/
structure ToxOptions where
  ipv6enabled : Bool := false
  udpDisabled : Bool := false
  proxyType : LegacyProxy := .none
  proxyAddress : List UInt8 := []
  proxyPort : UInt16 := 0
  deriving DecidableEq, Repr

/-- The custom packets a handler can be registered for. -/
inductive PacketKind where
  | lossy
  | lossless
  deriving DecidableEq, Repr

/-- What is used of the legacy core. -/
structure Toxcore (Tox : Type) where
  /-- The size of `Tox_Options::proxy_address`. -/
  proxyAddressSize : ℕ
  toxNew : Option ToxOptions → Option Tox
  /-- `tox_load`. -/
  load : Tox → List UInt8 → Int32 × Tox
  /-- `tox_count_friendlist` and `tox_get_friendlist`. -/
  friendlist : Tox → List Int32
  /-- `tox_add_friend`. -/
  addFriend : Tox → List UInt8 → List UInt8 → Int32 × Tox
  /-- `tox_add_friend_norequest`. -/
  addFriendNorequest : Tox → List UInt8 → Int32 × Tox
  /-- `tox_del_friend`. -/
  delFriend : Tox → Int32 → Int32 × Tox
  /-- `tox_lossy_packet_registerhandler` and `tox_lossless_packet_registerhandler`. -/
  registerhandler : PacketKind → Tox → Int32 → UInt8 → Tox
  /-- Whether a handler is registered for packets of a friend that start with a byte. -/
  handler : PacketKind → Tox → Int32 → UInt8 → Bool

section

variable {Tox : Type} (lg : Toxcore Tox)

/-- The bytes of `for (uint8_t byte = first; byte <= last; byte++)`. -/
def byteRange (first last : UInt8) : List UInt8 :=
  (List.range' first.toNat (last.toNat + 1 - first.toNat)).map UInt8.ofNat

/-- `new_Tox::register_custom_packet_handlers`. -/
def registerFriendHandlers (tox : Tox) (friendNumber : UInt32) : Tox :=
  let register kind tox byte := lg.registerhandler kind tox friendNumber.toInt32 byte
  let tox := (byteRange 200 254).foldl (register .lossy) tox
  (byteRange 160 191).foldl (register .lossless) tox

/-- `register_custom_packet_handlers`, for all friends. -/
def registerCustomPacketHandlers (tox : Tox) : Tox :=
  (lg.friendlist tox).foldl (fun tox f => registerFriendHandlers lg tox f.toUInt32) tox

/-- `TOX_PROXY_TYPE`. -/
inductive ProxyType where
  | none
  | http
  | socks5
  deriving DecidableEq, Repr

/-- `new_Tox_Options`. -/
structure NewToxOptions where
  ipv6Enabled : Bool
  udpEnabled : Bool
  proxyType : ProxyType
  proxyAddress : Option (List UInt8)
  proxyPort : UInt16
  deriving DecidableEq, Repr

/-- `TOX_ERR_NEW`. -/
inductive ErrNew where
  | ok
  | null
  | malloc
  | portAlloc
  | proxyBadHost
  | proxyBadPort
  | loadEncrypted
  | loadBadFormat
  deriving DecidableEq, Repr

/-- The characters of a C string, up to the first NUL. -/
def cString (bytes : List UInt8) : List UInt8 := bytes.takeWhile (· ≠ 0)

/-- `std::isprint`. -/
def isprint (c : UInt8) : Bool := decide (0x20 ≤ c) && decide (c ≤ 0x7e)

/-- The checks of the proxy options. -/
def checkProxy (options : NewToxOptions) : Except ErrNew Unit :=
  if options.proxyType = .none then .ok ()
  else match options.proxyAddress with
    | none => .error .null
    | some address =>
      if (cString address).any fun c => !isprint c then .error .proxyBadHost
      -- the first character is '\0' or '.'
      else if (cString address).head? ∈ [none, some 46] then .error .proxyBadHost
      else if options.proxyPort = 0 then .error .proxyBadPort
      else .ok ()

def ProxyType.legacy : ProxyType → LegacyProxy
  | .none => .none
  | .socks5 => .socks5
  | .http => .http

/-- The options for the legacy core. -/
def legacyOptions (options : NewToxOptions) : Except ErrNew ToxOptions := do
  checkProxy options
  let opts : ToxOptions :=
    { ipv6enabled := options.ipv6Enabled
      udpDisabled := !options.udpEnabled
      proxyType := options.proxyType.legacy }
  if opts.proxyType = .none then return opts
  else
    return { opts with
      proxyAddress := (cString (options.proxyAddress.getD [])).take (lg.proxyAddressSize - 1)
      proxyPort := options.proxyPort }

/-- The options `tox_new` is called with. -/
def toxNewOptions : Option NewToxOptions → Except ErrNew (Option ToxOptions)
  | none => .ok none
  | some options => some <$> legacyOptions lg options

/-- Loads the save data into a new instance. -/
def loadSaveData (tox : Tox) (data : Option (List UInt8)) (length : ℕ) : Tox × ErrNew :=
  if length = 0 then (tox, .ok)
  else match data with
    | none => (tox, .null)
    | some data =>
      -- the legacy core takes an `uint32_t`
      let (result, tox) := lg.load tox (data.take (length % 2 ^ 32))
      (tox, if result = -1 then .loadBadFormat else if result = 1 then .loadEncrypted else .ok)

/-- `new_tox_new`. When the legacy core makes no instance, `outOfMemory` tells whether `malloc`
    fails as well. -/
def newToxNew (options : Option NewToxOptions) (data : Option (List UInt8)) (length : ℕ)
    (outOfMemory : Bool) : Option Tox × ErrNew :=
  match toxNewOptions lg options with
  | .error e => (none, e)
  | .ok opts =>
    match lg.toxNew opts with
    | none => (none, if outOfMemory then .malloc else .portAlloc)
    | some tox =>
      let tox := registerCustomPacketHandlers lg tox
      let (tox, e) := loadSaveData lg tox data length
      (some tox, e)

/-- `TOX_ERR_FRIEND_ADD`. -/
inductive ErrFriendAdd where
  | ok
  | null
  | tooLong
  | noMessage
  | ownKey
  | alreadySent
  | badChecksum
  | setNewNospam
  | malloc
  deriving DecidableEq, Repr

/-- The results of `tox_add_friend_norequest` that are errors, from `TOX_FAERR_OWNKEY` on. -/
def norequestErrors : List (Int32 × ErrFriendAdd) :=
  [(-3, .ownKey), (-4, .alreadySent), (-6, .badChecksum), (-7, .setNewNospam), (-8, .malloc)]

/-- The results of `tox_add_friend` that are errors. -/
def friendAddErrors : List (Int32 × ErrFriendAdd) :=
  (-1, .tooLong) :: (-2, .noMessage) :: norequestErrors

/-- What both functions do with the result of the legacy function. -/
def friendAdded (errors : List (Int32 × ErrFriendAdd)) (result : Int32 × Tox) :
    (UInt32 × ErrFriendAdd) × Tox :=
  let (friendNumber, tox) := result
  match errors.lookup friendNumber with
  | some e => ((0, e), tox)
  | none => ((friendNumber.toUInt32, .ok), registerFriendHandlers lg tox friendNumber.toUInt32)

/-- `new_tox_friend_add`. -/
def newToxFriendAdd (tox : Tox) (address message : Option (List UInt8)) :
    (UInt32 × ErrFriendAdd) × Tox :=
  match address, message with
  | some address, some message =>
    -- the legacy core takes an `uint16_t`
    friendAdded lg friendAddErrors
      (lg.addFriend tox address (message.take (message.length % 2 ^ 16)))
  | _, _ => ((0, .null), tox)

/-- `new_tox_friend_add_norequest`. -/
def newToxFriendAddNorequest (tox : Tox) (publicKey : List UInt8) :
    (UInt32 × ErrFriendAdd) × Tox :=
  friendAdded lg norequestErrors (lg.addFriendNorequest tox publicKey)

/-- `TOX_ERR_FRIEND_DELETE`. -/
inductive ErrFriendDelete where
  | ok
  | friendNotFound
  deriving DecidableEq, Repr

/-- `new_tox_friend_delete`. -/
def newToxFriendDelete (tox : Tox) (friendNumber : UInt32) :
    Checked ((Bool × ErrFriendDelete) × Tox) :=
  let contained := (lg.friendlist tox).any fun f => f.toUInt32 == friendNumber
  let (result, tox) := lg.delFriend tox friendNumber.toInt32
  if result = 0 then
    if !contained then .ok ((false, .friendNotFound), tox) else .ok ((true, .ok), tox)
  else if result = -1 then .ok ((false, .friendNotFound), tox)
  else .error "false"

/-- A call that changes the friend list. -/
inductive FriendCall where
  | add (address message : Option (List UInt8))
  | addNorequest (publicKey : List UInt8)
  | delete (friendNumber : UInt32)
  deriving DecidableEq, Repr

/-- The instance after a call. -/
def FriendCall.run (tox : Tox) : FriendCall → Checked Tox
  | .add address message => .ok (newToxFriendAdd lg tox address message).2
  | .addNorequest publicKey => .ok (newToxFriendAddNorequest lg tox publicKey).2
  | .delete friendNumber => Prod.snd <$> newToxFriendDelete lg tox friendNumber

def FriendStep (tox : Tox) (call : FriendCall) (tox' : Tox) : Prop := call.run lg tox = .ok tox'

/-- A handler is registered for every custom packet of the friend. -/
def FriendCovered (tox : Tox) (f : Int32) : Prop :=
  (∀ b, 200 ≤ b → b ≤ 254 → lg.handler .lossy tox f b = true) ∧
    ∀ b, 160 ≤ b → b ≤ 191 → lg.handler .lossless tox f b = true

/-- A handler is registered for every custom packet of every friend. -/
def FriendsCovered (tox : Tox) : Prop := ∀ f ∈ lg.friendlist tox, FriendCovered lg tox f

/-- The friends `tox_load` restores into a new instance. -/
def restoredFriends (tox : Tox) (data : Option (List UInt8)) (length : ℕ) : List Int32 :=
  if length = 0 then []
  else match data with
    | none => []
    | some data => lg.friendlist (lg.load tox (data.take (length % 2 ^ 32))).2

end

namespace Toxcore

variable {Tox : Type}

/-- The handlers of a friend are still registered. -/
def Kept (lg : Toxcore Tox) (f : Int32) (tox tox' : Tox) : Prop :=
  ∀ kind b, lg.handler kind tox f b = true → lg.handler kind tox' f b = true

/-- An added friend has the number returned, and the others keep their handlers. -/
structure Adds (lg : Toxcore Tox) (tox : Tox) (result : Int32 × Tox) : Prop where
  friendlist : ∀ f ∈ lg.friendlist result.2, f ∈ lg.friendlist tox ∨ f = result.1 ∧ 0 ≤ f
  kept : ∀ f ∈ lg.friendlist tox, lg.Kept f tox result.2

/-- What the legacy core is known to do. It registers no handlers by itself, and clears those of
    a friend only when that friend is deleted. -/
structure Documented (lg : Toxcore Tox) : Prop where
  new_friendlist : ∀ opts tox, lg.toxNew opts = some tox → lg.friendlist tox = []
  new_handler : ∀ opts tox, lg.toxNew opts = some tox → ∀ kind f b,
    lg.handler kind tox f b = false
  load_handler : ∀ tox data kind f b, lg.handler kind (lg.load tox data).2 f b = true →
    lg.handler kind tox f b = true
  register_friendlist : ∀ kind tox f b,
    lg.friendlist (lg.registerhandler kind tox f b) = lg.friendlist tox
  register_kept : ∀ kind tox f b f', lg.Kept f' tox (lg.registerhandler kind tox f b)
  register_lossy : ∀ tox b, 200 ≤ b → b ≤ 254 → ∀ f ∈ lg.friendlist tox,
    lg.handler .lossy (lg.registerhandler .lossy tox f b) f b = true
  register_lossless : ∀ tox b, 160 ≤ b → b ≤ 191 → ∀ f ∈ lg.friendlist tox,
    lg.handler .lossless (lg.registerhandler .lossless tox f b) f b = true
  addFriend : ∀ tox address message, lg.Adds tox (lg.addFriend tox address message)
  addFriendNorequest : ∀ tox publicKey, lg.Adds tox (lg.addFriendNorequest tox publicKey)
  delFriend : ∀ tox f, ∀ f' ∈ lg.friendlist (lg.delFriend tox f).2,
    f' ∈ lg.friendlist tox ∧ lg.Kept f' tox (lg.delFriend tox f).2

end Toxcore

/-- The friends, and the handlers registered for them. -/
structure FriendTable where
  friends : List Int32 := []
  handlers : List (PacketKind × Int32 × UInt8) := []
  deriving DecidableEq, Repr

namespace FriendTable

/-- Adds a friend under the first number that is free. -/
def addFriend (tox : FriendTable) : Int32 × FriendTable :=
  let numbers := (List.range (tox.friends.length + 1)).map Int32.ofNat
  match numbers.find? fun r => decide (0 ≤ r) && !tox.friends.contains r with
  | none => (-8, tox)
  | some r => (r, { tox with friends := tox.friends ++ [r] })

/-- The bytes a handler may be registered for. -/
def customByte : PacketKind → UInt8 → Bool
  | .lossy, b => decide (200 ≤ b) && decide (b ≤ 254)
  | .lossless, b => decide (160 ≤ b) && decide (b ≤ 191)

def registerhandler (kind : PacketKind) (tox : FriendTable) (f : Int32) (b : UInt8) :
    FriendTable :=
  if tox.friends.contains f && customByte kind b then
    { tox with handlers := (kind, f, b) :: tox.handlers }
  else tox

def delFriend (tox : FriendTable) (f : Int32) : Int32 × FriendTable :=
  if tox.friends.contains f then
    (0, { friends := tox.friends.filter (· ≠ f), handlers := tox.handlers.filter (·.2.1 ≠ f) })
  else (-1, tox)

/-- A legacy core with such instances; save data has one byte for each friend. -/
def core : Toxcore FriendTable where
  proxyAddressSize := 256
  toxNew _ := some {}
  load tox data := (0, { tox with friends := (List.range data.length).map Int32.ofNat })
  friendlist := friends
  addFriend tox _ message := if message.isEmpty then (-2, tox) else tox.addFriend
  addFriendNorequest tox _ := tox.addFriend
  delFriend := delFriend
  registerhandler := registerhandler
  handler kind tox f b := tox.handlers.contains (kind, f, b)

end FriendTable

end Tox4j.Adapter
