import Tox4j.Adapter.Av
import Tox4j.Misc.Mirror
import Tox4j.Misc.Run

/-!
# The calls of one `new_ToxAV`

A run is made of calls of the client and of the callbacks by which the legacy library reports
what happens to a call. The library has calls of its own, known by their index: an index is free
again after its call has ended, and a call comes to be by `toxav_call` or by an invitation.
-/

namespace Tox4j.Adapter

open Tox4j.Misc

/-- How the legacy library reports the end of a call. -/
inductive CallEnd where
  | cancel
  | reject
  | ended
  | requestTimeout
  | peerTimeout
  deriving DecidableEq, Repr

/-- A `new_ToxAV`, and the friends that the calls of the legacy library are with. -/
structure AvSession where
  av : NewToxAv := {}
  current : Int32 → Option UInt32 := fun _ => none

inductive AvLabel where
  /-- `new_toxav_call`, and what the legacy `toxav_call` returns. -/
  | call (friendNumber audioBitRate videoBitRate : UInt32) (result callIndex : Int32)
  /-- `new_toxav_answer`, and what the legacy `toxav_answer` returns. -/
  | answer (friendNumber audioBitRate videoBitRate : UInt32) (result : Int32)
  | invite (callIdx : Int32) (peerId : UInt32)
  | ringing (callIdx : Int32)
  | start (callIdx : Int32)
  | ended (how : CallEnd) (callIdx : Int32)
  deriving DecidableEq, Repr

/-- The callback for the end of a call. -/
def CallEnd.callback : CallEnd → NewToxAv → Int32 → Checked (NewToxAv × List AvAction)
  | .cancel => CB.callstateOnCancel
  | .reject => CB.callstateOnReject
  | .ended => CB.callstateOnEnd
  | .requestTimeout => CB.callstateOnRequestTimeout
  | .peerTimeout => CB.callstateOnPeerTimeout

namespace AvSession

def setCurrent (s : AvSession) (callIdx : Int32) (peer : Option UInt32) : AvSession :=
  { s with current := fun i => if i = callIdx then peer else s.current i }

/-- What the legacy library can do: a new call has an index that no current call has, and the
    other callbacks are about current calls. -/
def Possible (s : AvSession) : AvLabel → Prop
  | .call _ _ _ result callIndex => result = 0 → s.current callIndex = none
  | .answer .. => True
  | .invite callIdx _ => s.current callIdx = none
  | .ringing callIdx | .start callIdx | .ended _ callIdx => (s.current callIdx).isSome

/-- The state after a step. -/
def run (defaultSettings : AvCSettings) (s : AvSession) : AvLabel → Checked AvSession
  | .call friendNumber audioBitRate videoBitRate result callIndex => do
    let (_, av, _) ← newToxavCall s.av defaultSettings friendNumber audioBitRate videoBitRate
      result callIndex
    return { s with av }.setCurrent callIndex (some friendNumber)
  | .answer friendNumber audioBitRate videoBitRate result => do
    let (_, av, _) ← newToxavAnswer s.av defaultSettings friendNumber audioBitRate videoBitRate
      result
    return { s with av }
  | .invite callIdx peerId => do
    let (av, _) ← CB.callstateOnInvite s.av callIdx peerId
    return { s with av }.setCurrent callIdx (some peerId)
  | .ringing callIdx => do
    let (av, _) ← CB.callstateOnRinging s.av callIdx
    return { s with av }
  | .start callIdx => do
    let (av, _) ← CB.callstateOnStart s.av callIdx
    return { s with av }
  | .ended how callIdx => do
    let (av, _) ← how.callback s.av callIdx
    return { s with av }.setCurrent callIdx none

end AvSession

/-- A step of the session. It can end in a failed assertion, and then there are no more steps. -/
def AvStep (defaultSettings : AvCSettings) (x : Checked AvSession) (l : AvLabel)
    (x' : Checked AvSession) : Prop :=
  ∃ s, x = .ok s ∧ s.Possible l ∧ x' = s.run defaultSettings l

/-- One of the tables has an entry for the call. -/
def NewToxAv.Mentions (av : NewToxAv) (callIdx : Int32) : Prop :=
  av.callToFriend[callIdx]?.isSome ∨
    ∃ (f : UInt32) (call : AvCall), av.friendToCall[f]? = some call ∧ call.index = callIdx

/-- No assertion has failed, the tables are inverse, and they have no entry for a call that is
    over. -/
def TablesKept (x : Checked AvSession) : Prop :=
  ∃ s, x = .ok s ∧ Mirrors s.av.callToFriend s.av.friendToCall AvCall.index ∧
    ∀ callIdx, s.current callIdx = none → ¬ s.av.Mentions callIdx

/-- The steps that keep the tables: a friend that has an entry is not called and does not call,
    the legacy library accepts calls and answers, no call is started in the state it is in, and
    none ends. -/
def AvSession.Keeps (s : AvSession) : AvLabel → Prop
  | .call friendNumber _ _ result _ => s.av.friendToCall[friendNumber]? = none ∧ result = 0
  | .answer friendNumber _ _ result => s.av.friendToCall[friendNumber]?.isSome → result = 0
  | .invite _ peerId => s.av.friendToCall[peerId]? = none
  | .ringing _ => True
  | .start callIdx => ∀ (f : UInt32) (call : AvCall), s.av.callToFriend[callIdx]? = some f →
      s.av.friendToCall[f]? = some call →
        ∃ state, CB.startedState call.settings.callType = .ok state ∧ call.state ≠ state
  | .ended .. => False

/-- The steps that meet the condition. -/
def AvStepKeeps (defaultSettings : AvCSettings) :
    Checked AvSession → AvLabel → Checked AvSession → Prop :=
  Guarded (fun x l => ∀ s, x = .ok s → s.Keeps l) (AvStep defaultSettings)

/-- The steps after which the tables are as they should be. -/
def AvStepKept (defaultSettings : AvCSettings) (x : Checked AvSession) (l : AvLabel)
    (x' : Checked AvSession) : Prop :=
  AvStep defaultSettings x l x' ∧ TablesKept x'

end Tox4j.Adapter
