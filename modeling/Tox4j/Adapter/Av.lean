import Tox4j.Misc.Checked
import Std.Data.ExtTreeMap.Lemmas

/-!
# `av.cpp`: setting up calls

`new_ToxAV` has a table of calls by friend, and one that leads from the call indices of the
legacy library to friends. The legacy library is not part of the repository: what its functions
return is an argument here, and so are its default settings.
-/

namespace Tox4j.Adapter

open Tox4j.Misc

/-- `call_type`, by the values that `av.cpp` tells apart: 0, which is no `ToxAvCallType`,
    `av_TypeAudio`, `av_TypeVideo`, and all others. -/
inductive CallType where
  | zero
  | audio
  | video
  | other (callType : Int32)
  deriving DecidableEq, Repr

/-- `ToxAvCSettings`. -/
structure AvCSettings where
  callType : CallType := .zero
  videoBitrate : UInt32 := 0
  maxVideoWidth : UInt16 := 0
  maxVideoHeight : UInt16 := 0
  audioBitrate : UInt32 := 0
  audioFrameDuration : UInt16 := 0
  audioSampleRate : UInt32 := 0
  audioChannels : UInt32 := 0
  deriving DecidableEq, Repr

/-- `TOXAV_CALL_STATE`. -/
inductive CallState where
  | ringing
  | sendingNone
  | sendingA
  | sendingV
  | sendingAV
  | paused
  | ended
  | error
  deriving DecidableEq, Repr

/-- `av_call`. -/
structure AvCall where
  index : Int32
  settings : AvCSettings := {}
  state : CallState := .ended
  audioEventPending : Bool := false
  videoEventPending : Bool := false
  deriving DecidableEq, Repr

/-- The tables of `new_ToxAV`. -/
structure NewToxAv where
  callToFriend : Std.ExtTreeMap Int32 UInt32 := ∅
  friendToCall : Std.ExtTreeMap UInt32 AvCall := ∅

/-- What the adapter does that others can see: a callback of the client, or a call of the legacy
    library that succeeded. -/
inductive AvAction where
  | callEvent (friendNumber : UInt32) (audioEnabled videoEnabled : Bool)
  | callStateEvent (friendNumber : UInt32) (state : CallState)
  | call (friendNumber : UInt32) (settings : AvCSettings)
  | answer (callIndex : Int32) (settings : AvCSettings)
  | prepareTransmission (callIndex : Int32)
  deriving DecidableEq, Repr

namespace NewToxAv

/-- `new_ToxAV::get_call`. -/
def getCall (av : NewToxAv) (friendNumber : UInt32) : Checked AvCall :=
  match av.friendToCall[friendNumber]? with
  | none => .error "found != friend_to_call.end ()"
  | some call => .ok call

/-- `new_ToxAV::CB::get_friend_number`. -/
def getFriendNumber (av : NewToxAv) (callIdx : Int32) : Checked UInt32 :=
  match av.callToFriend[callIdx]? with
  | none => .error "found != self->call_to_friend.end ()"
  | some friendNumber => .ok friendNumber

/-- An assignment to the fields of an existing call. -/
def setCall (av : NewToxAv) (friendNumber : UInt32) (call : AvCall) : NewToxAv :=
  { av with friendToCall := av.friendToCall.insert friendNumber call }

/-- The entries for a new call. An index that is in use gets the new friend, but a friend that has
    a call keeps it. -/
def addCall (av : NewToxAv) (friendNumber : UInt32) (call : AvCall) : NewToxAv where
  callToFriend := av.callToFriend.insert call.index friendNumber
  friendToCall := av.friendToCall.insertIfNew friendNumber call

end NewToxAv

namespace CB

/-- The switch of `callstate_OnInvite`: `audio_enabled` and `video_enabled`. -/
def enabledMedia : CallType → Checked (Bool × Bool)
  | .zero => .ok (false, false)
  | .audio => .ok (true, false)
  | .video => .ok (true, true)
  | .other _ => .error "false"

/-- The switch of `callstate_OnStart`. -/
def startedState : CallType → Checked CallState
  | .zero => .ok .sendingNone
  | .audio => .ok .sendingA
  | .video => .ok .sendingAV
  | .other _ => .error "false"

/-- `callstate_OnInvite`; `peerId` is what `toxav_get_peer_id` returns. -/
def callstateOnInvite (self : NewToxAv) (callIdx : Int32) (peerId : UInt32) :
    Checked (NewToxAv × List AvAction) := do
  Checked.assert self.callToFriend[callIdx]?.isNone "found == self->call_to_friend.end ()"
  let self := self.addCall peerId { index := callIdx }
  let call ← self.getCall peerId
  let (audioEnabled, videoEnabled) ← enabledMedia call.settings.callType
  return (self, [.callEvent peerId audioEnabled videoEnabled])

/-- `callstate_OnRinging`. -/
def callstateOnRinging (self : NewToxAv) (callIdx : Int32) :
    Checked (NewToxAv × List AvAction) := do
  let friendNumber ← self.getFriendNumber callIdx
  let call ← self.getCall friendNumber
  return (self.setCall friendNumber { call with state := .ringing },
    [.callStateEvent friendNumber .ringing])

/-- `callstate_OnStart`. -/
def callstateOnStart (self : NewToxAv) (callIdx : Int32) :
    Checked (NewToxAv × List AvAction) := do
  let friendNumber ← self.getFriendNumber callIdx
  let call ← self.getCall friendNumber
  let state ← startedState call.settings.callType
  Checked.assert (call.state != state) "call.state != state"
  -- codecs are prepared whether or not anything is sent right now
  return (self.setCall friendNumber { call with state },
    [.prepareTransmission callIdx, .callStateEvent friendNumber state])

/-- The callbacks that are not written yet. -/
def unimplemented (_self : NewToxAv) (_callIdx : Int32) : Checked (NewToxAv × List AvAction) :=
  .error "false"

def callstateOnCancel := unimplemented
def callstateOnReject := unimplemented
def callstateOnEnd := unimplemented
def callstateOnRequestTimeout := unimplemented
def callstateOnPeerTimeout := unimplemented

end CB

/-- `make_settings`. -/
def makeSettings (defaultSettings : AvCSettings) (audioBitRate videoBitRate : UInt32) :
    AvCSettings :=
  let settings := defaultSettings
  let settings :=
    if audioBitRate ≠ 0 then { settings with
      callType := .audio
      audioBitrate := audioBitRate * 1000
      audioFrameDuration := 60
      audioSampleRate := 8000
      audioChannels := 1 }
    else settings
  if videoBitRate ≠ 0 then { settings with
    callType := .video
    videoBitrate := videoBitRate
    maxVideoWidth := 640
    maxVideoHeight := 480 }
  else settings

/-- `TOXAV_ERR_CALL`. -/
inductive ErrCall where
  | ok
  | malloc
  | friendNotFound
  | friendNotConnected
  | friendAlreadyInCall
  | invalidBitRate
  deriving DecidableEq, Repr

/-- `TOXAV_ERR_ANSWER`. -/
inductive ErrAnswer where
  | ok
  | malloc
  | friendNotFound
  | friendNotCalling
  | invalidBitRate
  deriving DecidableEq, Repr

/-- `new_toxav_call`. The legacy `toxav_call` returns `result`, and the index of the new call when
    that is 0. -/
def newToxavCall (av : NewToxAv) (defaultSettings : AvCSettings)
    (friendNumber audioBitRate videoBitRate : UInt32) (result callIndex : Int32) :
    Checked (ErrCall × NewToxAv × List AvAction) := do
  let settings := makeSettings defaultSettings audioBitRate videoBitRate
  Checked.assert av.friendToCall[friendNumber]?.isNone
    "av->friend_to_call.find (friend_number) == av->friend_to_call.end ()"
  Checked.assert (result = 0) "false"
  return (.ok, av.addCall friendNumber { index := callIndex, settings },
    [.call friendNumber settings])

/-- `new_toxav_answer`. The legacy `toxav_answer` returns `result`. -/
def newToxavAnswer (av : NewToxAv) (defaultSettings : AvCSettings)
    (friendNumber audioBitRate videoBitRate : UInt32) (result : Int32) :
    Checked (ErrAnswer × NewToxAv × List AvAction) :=
  match av.friendToCall[friendNumber]? with
  | none => .ok (.friendNotCalling, av, [])
  | some call => do
    let settings := makeSettings defaultSettings audioBitRate videoBitRate
    let av := av.setCall friendNumber { call with settings }
    Checked.assert (result = 0) "false"
    return (.ok, av, [.answer call.index settings])

end Tox4j.Adapter
