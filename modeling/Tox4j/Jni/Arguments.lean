import Tox4j.Adapter.ErrorCodes
import Tox4j.Jni.Arrays

/-!
# Keys, ports and chunks on their way from Java

The methods of `ToxCoreImpl` and `ToxOptions` check some of their arguments. The native methods
assert what they rely on, and call the adapter, which relies on more.
-/

namespace Tox4j.Adapter

/-- The ordinal of a `ToxProxyType`, which is the value of the `TOX_PROXY_TYPE` it is cast to. -/
def ProxyType.ordinal : ProxyType → Int32
  | .none => 0
  | .http => 1
  | .socks5 => 2

end Tox4j.Adapter

namespace Tox4j.Jni

open Tox4j.Misc Tox4j.Adapter Tox4j.Instances

/-- What stops the program inside a native method. -/
inductive Fault where
  /-- An assertion about the size of an array, a port or a length. -/
  | argument (condition : String)
  /-- A legacy function reads through a null pointer. -/
  | nullRead (function : String)
  /-- An assertion about an instance, or about what the legacy core returned. -/
  | state (condition : String)
  deriving DecidableEq, Repr

/-- A native method that returns, or is stopped. -/
abbrev NativeRun (α : Type) := Except Fault α

/-- `assert (condition)`, for a condition on the arguments. -/
def assertArgument (condition : Bool) (text : String) : NativeRun Unit :=
  if condition then .ok () else .error (.argument text)

/-- `assert (!array || data.size () == size)`. -/
def assertSize (array : Option (JavaArray Int8)) (size : ℕ) (text : String) : NativeRun Unit :=
  assertArgument (array.isNone || (ByteArray.mk array).size == UInt64.ofNat size) text

/-- Calls a legacy function that reads what it gets a pointer to. -/
def readPointer {α : Type} (function : String) (f : List UInt8 → α) :
    Option (List UInt8) → NativeRun α
  | none => .error (.nullRead function)
  | some bytes => .ok (f bytes)

/-- The data and the size, passed on together. -/
def ByteArray.buffer (self : ByteArray) : Buffer :=
  match self.data with
  | none => .null self.size
  | some bytes => .bytes bytes

/-- `TOX_PUBLIC_KEY_SIZE`. -/
def toxPublicKeySize : ℕ := 32

/-- `TOX_ADDRESS_SIZE`: a key, a nospam and a checksum. -/
def toxAddressSize : ℕ := toxPublicKeySize + 4 + 2

/-- What the methods call. The functions of the legacy core depend on the object they are called
    on. -/
structure CoreFunctions (Tox : Type) where
  lg : Toxcore Tox
  legacy : Tox → Legacy
  newTox : Tox → NewTox
  toxBootstrapFromAddress : Tox → List UInt8 → UInt16 → List UInt8 → Int32
  toxAddTcpRelay : Tox → List UInt8 → UInt16 → List UInt8 → Int32
  toxGetFriendNumber : Tox → List UInt8 → Int32

section

variable {Tox Events Mutex α : Type}

/-- `with_instance`: throws, or runs the function on the object of a live instance. -/
def withInstance (manager : InstanceManager Tox Events Mutex) (instanceNumber : Int32)
    (func : Tox → NativeRun α) : NativeRun (Except Throwable α) :=
  match manager.withInstance instanceNumber with
  | .error condition => .error (.state condition)
  | .ok (.ran (some tox), _) => .ok <$> func tox
  | .ok (.threw exception, _) => .ok (.error exception)
  -- `with_instance` replies nothing else
  | .ok (_, _) => .error (.state "tox")

variable (manager : InstanceManager Tox Events Mutex) (instanceNumber : Int32)

/-- `toxBootstrapLike`. -/
def toxBootstrapLike (function : Tox → List UInt8 → UInt16 → List UInt8 → Int32)
    (address : Option (List UInt8)) (port : Int32) (publicKey : Option (JavaArray Int8)) :
    NativeRun (Except Throwable (Outcome ErrBootstrap Bool)) := do
  assertArgument (0 ≤ port) "port >= 0"
  assertArgument (port ≤ 65535) "port <= 65535"
  assertSize publicKey toxPublicKeySize "!publicKey || public_key.size() == TOX_PUBLIC_KEY_SIZE"
  withInstance manager instanceNumber fun tox =>
    .ok (bootstrapLike (function tox) address port.toUInt32.toUInt16 (ByteArray.mk publicKey).data)

/-- `toxFriendAdd`. -/
def toxFriendAdd (core : CoreFunctions Tox) (address message : Option (JavaArray Int8)) :
    NativeRun (Except Throwable ((UInt32 × ErrFriendAdd) × Tox)) := do
  assertSize address toxAddressSize "!address || addressData.size() == TOX_ADDRESS_SIZE"
  withInstance manager instanceNumber fun tox =>
    .ok (newToxFriendAdd core.lg tox (ByteArray.mk address).data (ByteArray.mk message).data)

/-- `toxFriendAddNorequest`. The key goes to the legacy core as it is. -/
def toxFriendAddNorequest (core : CoreFunctions Tox) (publicKey : Option (JavaArray Int8)) :
    NativeRun (Except Throwable ((UInt32 × ErrFriendAdd) × Tox)) := do
  assertSize publicKey toxPublicKeySize "!publicKey || public_key.size() == TOX_PUBLIC_KEY_SIZE"
  withInstance manager instanceNumber fun tox =>
    readPointer "tox_add_friend_norequest" (newToxFriendAddNorequest core.lg tox)
      (ByteArray.mk publicKey).data

/-- `toxFriendByPublicKey`. -/
def toxFriendByPublicKey (core : CoreFunctions Tox) (publicKey : Option (JavaArray Int8)) :
    NativeRun (Except Throwable (Outcome ErrFriendByPublicKey UInt32)) := do
  assertSize publicKey toxPublicKeySize "!publicKey || public_key.size() == TOX_PUBLIC_KEY_SIZE"
  withInstance manager instanceNumber fun tox =>
    .ok (newToxFriendByPublicKey (core.toxGetFriendNumber tox) (ByteArray.mk publicKey).data)

/-- What an assertion of `new_tox_file_send_chunk` is about: the one for an empty chunk is about
    its length. -/
def chunkFault (data : Buffer) (condition : String) : Fault :=
  if data.length = 0 then .argument condition else .state condition

/-- `toxFileSendChunk`. -/
def toxFileSendChunk (core : CoreFunctions Tox) (friendNumber fileNumber : Int32)
    (chunk : Option (JavaArray Int8)) :
    NativeRun (Except Throwable (ErrFileSendChunk × NewTox × List Action)) :=
  let data := (ByteArray.mk chunk).buffer
  withInstance manager instanceNumber fun tox =>
    (newToxFileSendChunk (core.legacy tox) (core.newTox tox) friendNumber.toUInt32
      fileNumber.toUInt32 data).mapError (chunkFault data)

end

/-- The assertions of `toxNew`, and the arguments it goes on with. `optionsAllocated` and
    `outOfMemory` tell how its allocations end. -/
def toxNewArguments (saveData : Option (JavaArray Int8)) (ipv6Enabled udpEnabled : Bool)
    (proxyType : ProxyType) (proxyAddress : Option (List UInt8)) (proxyPort : Int32)
    (optionsAllocated outOfMemory : Bool) : NativeRun NewArgs := do
  assertArgument (0 ≤ proxyType.ordinal) "proxyType >= 0"
  assertArgument (0 ≤ proxyPort) "proxyPort >= 0"
  assertArgument (proxyPort ≤ 65535) "proxyPort <= 65535"
  return {
    saveData := (ByteArray.mk saveData).data
    options := {
      ipv6Enabled, udpEnabled, proxyType, proxyAddress,
      proxyPort := proxyPort.toUInt32.toUInt16 }
    optionsAllocated, outOfMemory }

/-- What a Java method throws. -/
inductive JavaException where
  | illegalArgument (message : String)
  | nullPointer
  /-- A `ToxNewException`. -/
  | toxNew (code : ErrNew)
  | native (exception : NativeException)
  deriving DecidableEq, Repr

/-- `ToxOptions`. A `ToxProxyType` may be null. -/
structure JavaToxOptions where
  ipv6Enabled : Bool := true
  udpEnabled : Bool := true
  proxyType : Option ProxyType := some .none
  proxyAddress : Option (List UInt8) := none
  proxyPort : Int32 := 0
  deriving DecidableEq, Repr

namespace JavaToxOptions

/-- `ToxOptions.enableProxy`. -/
def enableProxy (self : JavaToxOptions) (type : Option ProxyType) (address : Option (List UInt8))
    (port : Int32) : Except JavaException JavaToxOptions :=
  if port < 0 then .error (.toxNew .proxyBadPort)
  else if 65535 < port then .error (.toxNew .proxyBadPort)
  else .ok { self with proxyType := type, proxyAddress := address, proxyPort := port }

/-- `ToxOptions.disableProxy`. -/
def disableProxy (self : JavaToxOptions) : JavaToxOptions :=
  { self with proxyType := some .none, proxyAddress := none, proxyPort := 0 }

/-- A method that changes the options. -/
inductive Call where
  | setIpv6Enabled (ipv6Enabled : Bool)
  | setUdpEnabled (udpEnabled : Bool)
  | enableProxy (type : Option ProxyType) (address : Option (List UInt8)) (port : Int32)
  | disableProxy
  deriving DecidableEq, Repr

/-- The options after a call. A call that throws leaves them as they are. -/
def after (self : JavaToxOptions) : Call → JavaToxOptions
  | .setIpv6Enabled ipv6Enabled => { self with ipv6Enabled }
  | .setUdpEnabled udpEnabled => { self with udpEnabled }
  | .enableProxy type address port =>
    match self.enableProxy type address port with
    | .error _ => self
    | .ok options => options
  | .disableProxy => self.disableProxy

/-- The port is one that `toxNew` takes. -/
def PortInRange (self : JavaToxOptions) : Prop := 0 ≤ self.proxyPort ∧ self.proxyPort ≤ 65535

end JavaToxOptions

/-- `ToxConstants.PUBLIC_KEY_SIZE`. -/
def publicKeySize : ℕ := 32

/-- `ToxConstants.ADDRESS_SIZE`. -/
def addressSize : ℕ := publicKeySize + 4 + 2

/-- `ToxCoreImpl.checkLength`. -/
def checkLength (name : String) (bytes : Option (JavaArray Int8)) (expectedSize : ℕ) :
    Except JavaException Unit :=
  match bytes with
  | none => .ok ()
  | some bytes =>
    let expected := ", must be " ++ toString expectedSize ++ " bytes"
    if bytes.elements.length < expectedSize then
      .error (.illegalArgument (name ++ " too short" ++ expected))
    else if expectedSize < bytes.elements.length then
      .error (.illegalArgument (name ++ " too long" ++ expected))
    else .ok ()

/-- `ToxCoreImpl.checkBootstrapArguments`. -/
def checkBootstrapArguments (port : Int32) (publicKey : Option (JavaArray Int8)) :
    Except JavaException Unit :=
  if port < 0 then .error (.illegalArgument "Ports cannot be negative")
  else if 65535 < port then .error (.illegalArgument "Ports cannot be larger than 65535")
  -- the same checks and messages as those of `checkLength`
  else checkLength "Key" publicKey publicKeySize

/-- Calls a native method after the checks, unless these throw. -/
def checkedCall {α : Type} (check : Except JavaException Unit)
    (method : NativeRun (Except Throwable α)) : NativeRun (Except JavaException α) :=
  match check with
  | .error exception => .ok (.error exception)
  | .ok () => (fun result => result.mapError fun e => .native (.other e)) <$> method

namespace ToxCoreImpl

section

variable {Tox Events Mutex : Type} (core : CoreFunctions Tox)
  (manager : InstanceManager Tox Events Mutex) (instanceNumber : Int32)

def bootstrap (address : Option (List UInt8)) (port : Int32)
    (publicKey : Option (JavaArray Int8)) :
    NativeRun (Except JavaException (Outcome ErrBootstrap Bool)) :=
  checkedCall (checkBootstrapArguments port publicKey)
    (toxBootstrapLike manager instanceNumber core.toxBootstrapFromAddress address port publicKey)

def addTcpRelay (address : Option (List UInt8)) (port : Int32)
    (publicKey : Option (JavaArray Int8)) :
    NativeRun (Except JavaException (Outcome ErrBootstrap Bool)) :=
  checkedCall (checkBootstrapArguments port publicKey)
    (toxBootstrapLike manager instanceNumber core.toxAddTcpRelay address port publicKey)

def addFriend (address message : Option (JavaArray Int8)) :
    NativeRun (Except JavaException ((UInt32 × ErrFriendAdd) × Tox)) :=
  checkedCall (checkLength "Friend Address" address addressSize)
    (toxFriendAdd manager instanceNumber core address message)

def addFriendNoRequest (publicKey : Option (JavaArray Int8)) :
    NativeRun (Except JavaException ((UInt32 × ErrFriendAdd) × Tox)) :=
  checkedCall (checkLength "Public Key" publicKey publicKeySize)
    (toxFriendAddNorequest manager instanceNumber core publicKey)

/-- No check is made. -/
def getFriendByPublicKey (publicKey : Option (JavaArray Int8)) :
    NativeRun (Except JavaException (Outcome ErrFriendByPublicKey UInt32)) :=
  checkedCall (.ok ()) (toxFriendByPublicKey manager instanceNumber core publicKey)

/-- No check is made. -/
def fileSendChunk (friendNumber fileNumber : Int32) (data : Option (JavaArray Int8)) :
    NativeRun (Except JavaException (ErrFileSendChunk × NewTox × List Action)) :=
  checkedCall (.ok ()) (toxFileSendChunk manager instanceNumber core friendNumber fileNumber data)

end

/-- The constructor. The ordinal of a null proxy type cannot be taken. -/
def create {Tox Events Mutex : Type} (core : CoreFunctions Tox) (s : Native Tox Events Mutex)
    (options : JavaToxOptions) (data : Option (JavaArray Int8))
    (optionsAllocated outOfMemory grows : Bool) (events : Events) (mutex : Mutex) :
    NativeRun (Except JavaException Int32) :=
  match options.proxyType with
  | none => .ok (.error .nullPointer)
  | some proxyType => do
    let args ← toxNewArguments data options.ipv6Enabled options.udpEnabled proxyType
      options.proxyAddress options.proxyPort optionsAllocated outOfMemory
    match toxNew core.lg s args events mutex grows with
    | .error condition => .error (.state condition)
    | .ok returned =>
      match returned.exception with
      | some exception => return .error (.native exception)
      | none => return .ok returned.number

end ToxCoreImpl

/-- A call of a method that takes a key, an address, a port or a chunk. An instance is created
    with options on which other methods were called before. -/
inductive ArgumentCall (Events Mutex : Type) where
  | bootstrap (address : Option (List UInt8)) (port : Int32) (publicKey : Option (JavaArray Int8))
  | addTcpRelay (address : Option (List UInt8)) (port : Int32)
      (publicKey : Option (JavaArray Int8))
  | addFriend (address message : Option (JavaArray Int8))
  | addFriendNoRequest (publicKey : Option (JavaArray Int8))
  | getFriendByPublicKey (publicKey : Option (JavaArray Int8))
  | fileSendChunk (friendNumber fileNumber : Int32) (data : Option (JavaArray Int8))
  | create (calls : List JavaToxOptions.Call) (data : Option (JavaArray Int8))
      (optionsAllocated outOfMemory grows : Bool) (events : Events) (mutex : Mutex)

/-- Whether a call that is not stopped throws. -/
def pending {α : Type} (x : NativeRun (Except JavaException α)) :
    NativeRun (Option JavaException) :=
  (fun result => match result with
    | .error exception => some exception
    | .ok _ => none) <$> x

section

variable {Tox Events Mutex : Type}

/-- A call on the object with an instance number. -/
def ArgumentCall.run (core : CoreFunctions Tox) (s : Native Tox Events Mutex)
    (instanceNumber : Int32) : ArgumentCall Events Mutex → NativeRun (Option JavaException)
  | .bootstrap address port publicKey =>
    pending (ToxCoreImpl.bootstrap core s.manager instanceNumber address port publicKey)
  | .addTcpRelay address port publicKey =>
    pending (ToxCoreImpl.addTcpRelay core s.manager instanceNumber address port publicKey)
  | .addFriend address message =>
    pending (ToxCoreImpl.addFriend core s.manager instanceNumber address message)
  | .addFriendNoRequest publicKey =>
    pending (ToxCoreImpl.addFriendNoRequest core s.manager instanceNumber publicKey)
  | .getFriendByPublicKey publicKey =>
    pending (ToxCoreImpl.getFriendByPublicKey core s.manager instanceNumber publicKey)
  | .fileSendChunk friendNumber fileNumber data =>
    pending (ToxCoreImpl.fileSendChunk core s.manager instanceNumber friendNumber fileNumber data)
  | .create calls data optionsAllocated outOfMemory grows events mutex =>
    pending (ToxCoreImpl.create core s (calls.foldl JavaToxOptions.after {}) data optionsAllocated
      outOfMemory grows events mutex)

/-- Every assertion about the arguments holds, and no legacy function reads through null. -/
def ArgumentsHold {α : Type} (x : NativeRun α) : Prop :=
  ∀ fault, x = .error fault → ∃ condition, fault = .state condition

/-- The instance with a number is live. -/
def Live (manager : InstanceManager Tox Events Mutex) (instanceNumber : Int32) : Prop :=
  0 < instanceNumber ∧ ∃ inst, manager.slot instanceNumber = .ok inst ∧ inst.live = true

/-- The arguments are those that the layers below can take. -/
def ArgumentCall.Takes (live : Prop) : ArgumentCall Events Mutex → Prop
  | .getFriendByPublicKey publicKey =>
    ∀ key, publicKey = some key → key.elements.length = toxPublicKeySize
  | .addFriendNoRequest publicKey => live → publicKey ≠ none
  | .fileSendChunk _ _ data => live → JavaArray.length data ≠ 0
  | .bootstrap .. | .addTcpRelay .. | .addFriend .. | .create .. => True

end

end Tox4j.Jni
