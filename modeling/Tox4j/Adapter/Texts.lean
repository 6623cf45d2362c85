import Tox4j.Adapter.ErrorCodes

/-!
# `core.cpp`, `core_private.h`, `clientinfo.cpp`: name and status message

The legacy core has no empty texts: an empty one is stored as a single null byte, and a single
null byte is read as an empty one. The legacy core is not part of the repository, and what its
functions do is an argument here.
-/

namespace Tox4j.Adapter

open Tox4j.Misc

/-- The functions of the legacy core for one of the texts. -/
structure LegacyText (σ : Type) where
  /-- `tox_set_name` or `tox_set_status_message`. -/
  set : σ → List UInt8 → Int32 × σ
  /-- `tox_get_self_name_size` or `tox_get_self_status_message_size`. -/
  size : σ → Int32
  /-- What `tox_get_self_name` or `tox_get_self_status_message` writes. Only the second is told
      how many bytes to write. -/
  get : σ → UInt64 → List UInt8
  /-- The text with which the legacy core of a friend calls back. -/
  sent : σ → List UInt8

/-- The functions of the legacy core for both texts. -/
structure LegacyTexts (σ : Type) where
  toxSetName : σ → List UInt8 → Int32 × σ
  toxGetSelfNameSize : σ → Int32
  toxGetSelfName : σ → List UInt8
  nameSent : σ → List UInt8
  toxSetStatusMessage : σ → List UInt8 → Int32 × σ
  toxGetSelfStatusMessageSize : σ → Int32
  toxGetSelfStatusMessage : σ → UInt64 → List UInt8
  statusMessageSent : σ → List UInt8

def LegacyTexts.name {σ : Type} (core : LegacyTexts σ) : LegacyText σ where
  set := core.toxSetName
  size := core.toxGetSelfNameSize
  get st _ := core.toxGetSelfName st
  sent := core.nameSent

def LegacyTexts.statusMessage {σ : Type} (core : LegacyTexts σ) : LegacyText σ where
  set := core.toxSetStatusMessage
  size := core.toxGetSelfStatusMessageSize
  get := core.toxGetSelfStatusMessage
  sent := core.statusMessageSent

section

variable {σ : Type}

/-- The body of both set functions: `setInfo` with the state of the legacy core. -/
def setText (maxLength : UInt64) (core : LegacyText σ) (st : σ) (info : Buffer) :
    Outcome ErrSetInfo Bool × σ :=
  if maxLength < info.length then (.report .tooLong false, st)
  else if 0 < info.length ∧ info.isNull then (.report .null false, st)
  else
    let contents := if info.length = 0 then [0] else info.contents
    let (result, st) := core.set st contents
    if result = -1 then (.report .null false, st)
    else (.report .ok true, st)

/-- The body of both size functions. -/
def getTextSize (core : LegacyText σ) (st : σ) : UInt64 :=
  let size := UInt64.ofInt (core.size st).toInt
  if size = 1 then
    if (core.get st 1).head? = some 0 then 0 else size
  else size

/-- Bytes written to the start of a buffer. -/
def overlay (bytes buffer : List UInt8) : List UInt8 := bytes ++ buffer.drop bytes.length

/-- The body of both get functions: the buffer afterwards. -/
def getText (core : LegacyText σ) (st : σ) (buffer : List UInt8) : List UInt8 :=
  let length := getTextSize core st
  if length ≠ 0 then overlay (core.get st length) buffer else buffer

/-- The body of both functions of the JNI library. `none` is the null reference. -/
def getTextArray (size : UInt64) (get : List UInt8 → List UInt8) : Option (List UInt8) :=
  if size = 0 then none
  else some (get (List.replicate size.toNat 0))

/-- `notNull` of `ToxCoreImpl`. -/
def notNull (bytes : Option (List UInt8)) : List UInt8 := bytes.getD []

/-- The body of both callbacks: what the callback of the client gets. -/
def textChange (text : Buffer) : Buffer :=
  if text.length = 1 ∧ text.contents.head? = some 0 then .null 0 else text

end

section

variable {σ : Type}

namespace Info

/-- `new_tox_self_set_name`. -/
def newToxSelfSetName (core : LegacyTexts σ) (st : σ) (name : Buffer) :
    Outcome ErrSetInfo Bool × σ :=
  setText 128 core.name st name

/-- `new_tox_self_get_name_size`. -/
def newToxSelfGetNameSize (core : LegacyTexts σ) (st : σ) : UInt64 := getTextSize core.name st

/-- `new_tox_self_get_name`. -/
def newToxSelfGetName (core : LegacyTexts σ) (st : σ) (name : List UInt8) : List UInt8 :=
  getText core.name st name

/-- `new_tox_self_set_status_message`. -/
def newToxSelfSetStatusMessage (core : LegacyTexts σ) (st : σ) (status : Buffer) :
    Outcome ErrSetInfo Bool × σ :=
  setText 1007 core.statusMessage st status

/-- `new_tox_self_get_status_message_size`. -/
def newToxSelfGetStatusMessageSize (core : LegacyTexts σ) (st : σ) : UInt64 :=
  getTextSize core.statusMessage st

/-- `new_tox_self_get_status_message`. -/
def newToxSelfGetStatusMessage (core : LegacyTexts σ) (st : σ) (status : List UInt8) :
    List UInt8 :=
  getText core.statusMessage st status

/-- `toxSelfGetName`. -/
def toxSelfGetName (core : LegacyTexts σ) (st : σ) : Option (List UInt8) :=
  getTextArray (newToxSelfGetNameSize core st) (newToxSelfGetName core st)

/-- `toxSelfGetStatusMessage`. -/
def toxSelfGetStatusMessage (core : LegacyTexts σ) (st : σ) : Option (List UInt8) :=
  getTextArray (newToxSelfGetStatusMessageSize core st) (newToxSelfGetStatusMessage core st)

/-- `new_Tox::CB::name_change`. -/
def nameChange (newname : Buffer) : Buffer := textChange newname

/-- `new_Tox::CB::status_message`. -/
def statusMessage (newstatus : Buffer) : Buffer := textChange newstatus

end Info

/-- The name or the status message. -/
inductive TextKind where
  | name
  | statusMessage
  deriving DecidableEq, Repr

namespace TextKind

/-- `TOX_MAX_NAME_LENGTH` and `TOX_MAX_STATUS_MESSAGE_LENGTH`. -/
def maxLength : TextKind → UInt64
  | .name => 128
  | .statusMessage => 1007

def set (core : LegacyTexts σ) (st : σ) (info : Buffer) :
    TextKind → Outcome ErrSetInfo Bool × σ
  | .name => Info.newToxSelfSetName core st info
  | .statusMessage => Info.newToxSelfSetStatusMessage core st info

def size (core : LegacyTexts σ) (st : σ) : TextKind → UInt64
  | .name => Info.newToxSelfGetNameSize core st
  | .statusMessage => Info.newToxSelfGetStatusMessageSize core st

def get (core : LegacyTexts σ) (st : σ) (buffer : List UInt8) : TextKind → List UInt8
  | .name => Info.newToxSelfGetName core st buffer
  | .statusMessage => Info.newToxSelfGetStatusMessage core st buffer

/-- `getName` and `getStatusMessage` of `ToxCoreImpl`. -/
def getJava (core : LegacyTexts σ) (st : σ) : TextKind → List UInt8
  | .name => notNull (Info.toxSelfGetName core st)
  | .statusMessage => notNull (Info.toxSelfGetStatusMessage core st)

/-- What the callback of a friend reports. -/
def reported (core : LegacyTexts σ) (st : σ) : TextKind → Buffer
  | .name => Info.nameChange (.bytes (core.nameSent st))
  | .statusMessage => Info.statusMessage (.bytes (core.statusMessageSent st))

end TextKind

/-- The buffer is the text. -/
structure Buffer.Holds (buffer : Buffer) (text : List UInt8) : Prop where
  length : buffer.length.toNat = text.length
  contents : buffer.contents = text

/-- The legacy core has stored a text and transmits it. -/
structure LegacyText.Has (core : LegacyText σ) (st : σ) (text : List UInt8) : Prop where
  size : (core.size st).toInt = text.length
  get : core.get st (UInt64.ofNat text.length) = text
  sent : core.sent st = text

/-- The legacy core stores and transmits all texts that are not empty. Their length is a
    `uint16_t`. -/
def LegacyText.Keeps (core : LegacyText σ) : Prop :=
  ∀ st text, text ≠ [] → text.length < 2 ^ 16 → (core.set st text).1 ≠ -1 →
    core.Has (core.set st text).2 text

/-- What is read back and what a friend is told is the text. -/
structure TextKind.RoundTrips (core : LegacyTexts σ) (st : σ) (kind : TextKind)
    (text : List UInt8) : Prop where
  size : (kind.size core st).toNat = text.length
  get : ∀ buffer, buffer.length = text.length → kind.get core st buffer = text
  java : kind.getJava core st = text
  reported : (kind.reported core st).Holds text

/-- Two states that look the same here and to a friend. -/
structure TextKind.Confused (core : LegacyTexts σ) (st st' : σ) (kind : TextKind) : Prop where
  size : kind.size core st = kind.size core st'
  get : ∀ buffer, buffer.length = (kind.size core st).toNat →
    kind.get core st buffer = kind.get core st' buffer
  java : kind.getJava core st = kind.getJava core st'
  reported : kind.reported core st = kind.reported core st'

end

/-- A legacy core that keeps both texts. -/
def LegacyTexts.plain : LegacyTexts (List UInt8 × List UInt8) where
  toxSetName st name := (0, name, st.2)
  toxGetSelfNameSize st := Int32.ofNat st.1.length
  toxGetSelfName st := st.1
  nameSent st := st.1
  toxSetStatusMessage st status := (0, st.1, status)
  toxGetSelfStatusMessageSize st := Int32.ofNat st.2.length
  toxGetSelfStatusMessage st _ := st.2
  statusMessageSent st := st.2

end Tox4j.Adapter
