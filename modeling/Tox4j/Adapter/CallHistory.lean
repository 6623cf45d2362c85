import Mathlib.Logic.Function.Basic
import Tox4j.Adapter.Log

/-!
# The history of calls

The tables of `new_ToxAV` do not say whether a call came in, went out or has been answered. The
history does: for the calls of the legacy library, by their index, and for the call that each
friend has in the tables. A friend that has a call keeps it, whatever calls come after it.
-/

namespace Tox4j.Adapter

inductive CallKind where
  | incoming
  | outgoing
  | answered
  deriving DecidableEq, Repr

/-- A `new_ToxAV` with the history of its calls. -/
structure CallHistory where
  av : NewToxAv := {}
  /-- The calls of the legacy library. -/
  calls : Int32 → Option CallKind := fun _ => none
  /-- The first call with each friend. -/
  friends : UInt32 → Option CallKind := fun _ => none
  /-- The friends with whom a call has started. -/
  started : UInt32 → Bool := fun _ => false

namespace CallHistory

/-- A new call. -/
def add (s : CallHistory) (friendNumber : UInt32) (callIdx : Int32) (kind : CallKind) :
    CallHistory :=
  { s with
    calls := Function.update s.calls callIdx (some kind)
    friends := Function.update s.friends friendNumber ((s.friends friendNumber).or (some kind)) }

/-- An answer that the legacy library accepts, for the call under that index. -/
def answer (s : CallHistory) (friendNumber : UInt32) (callIdx : Int32) : CallHistory :=
  { s with
    calls := Function.update s.calls callIdx (some .answered)
    friends := Function.update s.friends friendNumber (some .answered) }

/-- The call under that index starts. -/
def start (s : CallHistory) (callIdx : Int32) : CallHistory :=
  match s.av.callToFriend[callIdx]? with
  | none => s
  | some friendNumber => { s with started := Function.update s.started friendNumber true }

/-- The client is in a call with the friend: there is one that was answered or has started. -/
def InCall (s : CallHistory) (friendNumber : UInt32) : Prop :=
  s.friends friendNumber = some .answered ∨ s.started friendNumber = true

/-- The history after a call that has returned and left the tables `av`. -/
def after (s : CallHistory) (av : NewToxAv) : AvApiCall → CallHistory
  | .call friendNumber _ _ _ callIndex => { s with av }.add friendNumber callIndex .outgoing
  | .callback (.invite callIdx peerId) => { s with av }.add peerId callIdx .incoming
  | .callback (.start callIdx) => { s.start callIdx with av }
  | .answer friendNumber _ _ _ =>
    match s.av.friendToCall[friendNumber]? with
    | none => { s with av }
    | some call => { s with av }.answer friendNumber call.index
  | .callback _ | .afterToxavDo | .sendAudioFrame .. | .sendVideoFrame _ => { s with av }

/-- What the legacy library can do: a new call has an index that no call has, and `toxav_answer`
    fails for a call that is not an unanswered incoming one. -/
def Possible (s : CallHistory) : AvApiCall → Prop
  | .call _ _ _ result callIndex => result = 0 → s.calls callIndex = none
  | .callback (.invite callIdx _) => s.calls callIdx = none
  | .answer friendNumber _ _ result => ∀ call, s.av.friendToCall[friendNumber]? = some call →
      s.calls call.index ≠ some .incoming → result ≠ 0
  | .callback _ | .afterToxavDo | .sendAudioFrame .. | .sendVideoFrame _ => True

/-- The state after a call, with the answers of the legacy library. -/
def run (defaultSettings : AvCSettings) (s : CallHistory) (l : Toxav × AvApiCall) :
    Misc.Checked CallHistory := do
  let (av, _) ← l.2.run defaultSettings l.1 s.av
  return s.after av l.2

/-- A step of the history. A call that fails an assertion ends the process and is none. -/
def Step (defaultSettings : AvCSettings) (s : CallHistory) (l : Toxav × AvApiCall)
    (s' : CallHistory) : Prop :=
  s.Possible l.2 ∧ s.run defaultSettings l = .ok s'

/-- An answer succeeds only for an incoming call that was not answered yet. -/
def AnswersIncoming (defaultSettings : AvCSettings) (s : CallHistory) (f a v : UInt32)
    (result : Int32) : Prop :=
  ∀ av' actions, newToxavAnswer s.av defaultSettings f a v result = .ok (.ok, av', actions) →
    s.friends f = some .incoming

/-- Misuse is reported with its error code, and nothing changes: calling a friend that has an
    entry, answering what is not an unanswered incoming call, and sending audio to a friend that
    is not in a call. -/
def MisuseReported (defaultSettings : AvCSettings) (lg : Toxav) (s : CallHistory) :
    AvApiCall → Prop
  | .call f a v result callIndex => s.av.friendToCall[f]?.isSome →
      newToxavCall s.av defaultSettings f a v result callIndex =
        .ok (.friendAlreadyInCall, s.av, [])
  | .answer f a v result => s.AnswersIncoming defaultSettings f a v result ∧
      (s.friends f ≠ some .incoming →
        newToxavAnswer s.av defaultSettings f a v result = .ok (.friendNotCalling, s.av, []))
  | .sendAudioFrame f frame => ¬ s.InCall f →
      newToxavSendAudioFrame lg s.av f frame = .ok (.friendNotInCall, s.av, [])
  | .callback _ | .afterToxavDo | .sendVideoFrame _ => True

/-- The calls that are no misuse, and the one kind of misuse that is checked for: answering a
    friend with which there is no call. -/
def MisuseChecked (s : CallHistory) : AvApiCall → Prop
  | .call friendNumber .. => s.av.friendToCall[friendNumber]? = none
  | .answer friendNumber .. =>
      s.friends friendNumber = none ∨ s.friends friendNumber = some .incoming
  | .sendAudioFrame friendNumber _ => s.InCall friendNumber
  | .callback _ | .afterToxavDo | .sendVideoFrame _ => True

end CallHistory

end Tox4j.Adapter
