import Tox4j.Adapter.Av

/-!
# What a call carries

Each side of a call chooses its bit rates, and a bit rate of 0 turns the medium off. The `call`
event tells the callee what the caller is going to send, and the first `call_state` event tells
each side what it sends itself.
-/

namespace Tox4j.Adapter

open Tox4j.Misc

/-- The bit rates given to `new_toxav_call` and to `new_toxav_answer`. -/
structure BitRates where
  callAudio : UInt32
  callVideo : UInt32
  answerAudio : UInt32
  answerVideo : UInt32
  deriving DecidableEq, Repr

/-- The state that is documented for a side with these bit rates. -/
def sendingState (audioBitRate videoBitRate : UInt32) : CallState :=
  if audioBitRate = 0 then
    if videoBitRate = 0 then .sendingNone else .sendingV
  else
    if videoBitRate = 0 then .sendingA else .sendingAV

/-- Two adapters, and what each legacy library knows the call by: `peer` is the callee at the
    caller, `self` the caller at the callee. -/
structure CallEnds where
  caller : NewToxAv := {}
  callee : NewToxAv := {}
  peer : UInt32 := 0
  self : UInt32 := 0
  outgoing : Int32 := 0
  incoming : Int32 := 0

/-- No side has a call with the other, and the index of the invitation is not in use. -/
structure CallEnds.Idle (ends : CallEnds) : Prop where
  caller : ends.caller.friendToCall[ends.peer]? = none
  callee : ends.callee.friendToCall[ends.self]? = none
  incoming : ends.callee.callToFriend[ends.incoming]? = none

/-- What the client is told by the invitation, and on each side when the call starts. -/
structure MediaReports where
  invited : List AvAction
  callerStarted : List AvAction
  calleeStarted : List AvAction

/-- A call from its invitation to its start, with both legacy libraries at work. Whether the
    caller is told that it is ringing makes no difference. -/
def CallEnds.place (ends : CallEnds) (defaultSettings : AvCSettings) (rates : BitRates)
    (ringing : Bool) : Checked MediaReports := do
  let (_, caller, _) ← newToxavCall ends.caller defaultSettings ends.peer rates.callAudio
    rates.callVideo 0 ends.outgoing
  let (callee, invited) ← CB.callstateOnInvite ends.callee ends.incoming ends.self
  let (caller, _) ←
    if ringing then CB.callstateOnRinging caller ends.outgoing else .ok (caller, [])
  let (_, callee, _) ← newToxavAnswer callee defaultSettings ends.self rates.answerAudio
    rates.answerVideo 0
  let (_, callerStarted) ← CB.callstateOnStart caller ends.outgoing
  let (_, calleeStarted) ← CB.callstateOnStart callee ends.incoming
  return { invited, callerStarted, calleeStarted }

/-- Both sides are told what the bit rates say. -/
structure MediaReports.Right (reports : MediaReports) (ends : CallEnds) (rates : BitRates) :
    Prop where
  invited : reports.invited =
    [.callEvent ends.self (rates.callAudio != 0) (rates.callVideo != 0)]
  callerStarted : reports.callerStarted =
    [.prepareTransmission ends.outgoing,
      .callStateEvent ends.peer (sendingState rates.callAudio rates.callVideo)]
  calleeStarted : reports.calleeStarted =
    [.prepareTransmission ends.incoming,
      .callStateEvent ends.self (sendingState rates.answerAudio rates.answerVideo)]

/-- The call starts, and both sides are told what the bit rates say. -/
def CallEnds.Agree (ends : CallEnds) (defaultSettings : AvCSettings) (rates : BitRates)
    (ringing : Bool) : Prop :=
  ∃ reports, ends.place defaultSettings rates ringing = .ok reports ∧ reports.Right ends rates

end Tox4j.Adapter
