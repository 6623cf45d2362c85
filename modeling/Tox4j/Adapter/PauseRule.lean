import Tox4j.Adapter.FileApi

/-!
# Who has a file transfer paused

`core.h` describes pausing as a rule with two sides: each side pauses and resumes a transfer for
itself, and the transfer runs while neither side has it paused. The receiving side starts with
the transfer paused. `Pausers` is that rule, and `Follows` says that the adapter answers and
records what the rule says.
-/

namespace Tox4j.Adapter

open Tox4j.Misc

/-- A control of the client, or one that the friend sent. -/
inductive PauseCall where
  | pause
  | resume
  | friendAccept
  | friendPause
  deriving DecidableEq, Repr

/-- The sides that have a transfer paused. -/
structure Pausers where
  self : Bool
  friend : Bool
  deriving DecidableEq, Repr

namespace Pausers

/-- A new transfer is paused by the side that receives it. -/
def start (receiving : Bool) : Pausers := { self := receiving, friend := !receiving }

def isPaused (who : Pausers) : Bool := who.self || who.friend

def after (who : Pausers) : PauseCall → Pausers
  | .pause => { who with self := true }
  | .resume => { who with self := false }
  | .friendAccept => { who with friend := false }
  | .friendPause => { who with friend := true }

/-- The answer to a control of the client. -/
def answer (who : Pausers) : PauseCall → Option ErrFileControl
  | .pause => some (if who.self then .alreadyPaused else .ok)
  | .resume => some (if who.self then .ok else if who.friend then .denied else .notPaused)
  | .friendAccept | .friendPause => none

end Pausers

/-- A friend that exists and is connected. -/
def Legacy.Online (lg : Legacy) (friendNumber : UInt32) : Prop :=
  lg.friendExists friendNumber = true ∧ lg.friendConnectionStatus friendNumber = 1

/-- The file number of a transfer that is received or sent under a legacy number. -/
def transferNumber (receiving : Bool) (filenumber : UInt8) : UInt32 :=
  FileTransfer.newFileNumber (!receiving) filenumber

/-- What the client is answered, and the state afterwards. -/
def PauseCall.run (lg : Legacy) (tox : NewTox) (friendNumber : UInt32) (receiving : Bool)
    (filenumber : UInt8) : PauseCall → Checked (Option ErrFileControl × NewTox)
  | .pause => do
    let (error, tox, _) ←
      newToxFileControl lg tox friendNumber (transferNumber receiving filenumber) .pause
    return (some error, tox)
  | .resume => do
    let (error, tox, _) ←
      newToxFileControl lg tox friendNumber (transferNumber receiving filenumber) .resume
    return (some error, tox)
  | .friendAccept => do
    let (tox, _) ←
      CB.fileControl tox friendNumber (if receiving then 0 else 1) filenumber .accept
    return (none, tox)
  | .friendPause => do
    let (tox, _) ←
      CB.fileControl tox friendNumber (if receiving then 0 else 1) filenumber .pause
    return (none, tox)

/-- Every call is answered as the rule says, and after it the transfer is recorded as paused
    exactly when one side has it paused. -/
def Follows (friendNumber : UInt32) (receiving : Bool) (filenumber : UInt8) :
    Pausers → NewTox → List (Legacy × PauseCall) → Prop
  | _, _, [] => True
  | who, tox, (lg, call) :: calls => ∃ tox' transfer,
      call.run lg tox friendNumber receiving filenumber = .ok (who.answer call, tox') ∧
      tox'.getTransfer friendNumber (transferNumber receiving filenumber) = some transfer ∧
      (transfer.state = .paused ↔ (who.after call).isPaused = true) ∧
      Follows friendNumber receiving filenumber (who.after call) tox' calls

/-- The calls on a new transfer that are answered and recorded as the rule says. -/
def PauseRuleKept : Bool → List PauseCall → Prop
  | true, calls => ∀ call ∈ calls, call = .pause
  | false, [] => True
  | false, call :: calls =>
      call = .friendAccept ∧ ∀ call ∈ calls, call = .friendAccept ∨ call = .resume

end Tox4j.Adapter
