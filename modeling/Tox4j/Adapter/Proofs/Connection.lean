import Tox4j.Adapter.Proofs.Log
import Tox4j.Misc.Changes

/-!
# Changes of the connection

`new_tox_iteration` compares what `tox_isconnected` says with what it said in the iteration before.
A client is told about every change, and about nothing else.
-/

namespace Tox4j.Adapter

open Tox4j.Misc

/-- What an iteration learns from `tox_isconnected`. -/
def connectionSample : Legacy × Call → Option Bool
  | (lg, .afterToxDo) => some lg.isconnected
  | (_, .fileSend ..) | (_, .fileSendChunk ..) | (_, .fileControl ..) | (_, .callback _) => none

/-- A `connection_status` callback of the client. -/
def connectionReport : Call × Action → Option Connection
  | (_, .event (.connectionStatus status)) => some status
  | _ => none

/-- How a connection is reported. -/
def Connection.ofBool (connected : Bool) : Connection := if connected then .udp4 else .none

theorem Connection.ofBool_injective : Function.Injective Connection.ofBool := by
  intro a b
  cases a <;> cases b <;> simp [Connection.ofBool]

section

variable {lg : Legacy} {tox tox' : NewTox} {call : Call} {actions : List Action}

/-- The check of an iteration reports a change and remembers it. -/
theorem checkConnection_spec (lg : Legacy) (tox : NewTox) :
    (checkConnection lg tox).1.connected = lg.isconnected ∧
      (checkConnection lg tox).2 = if tox.connected ≠ lg.isconnected then
        [.event (.connectionStatus (.ofBool lg.isconnected))] else [] := by
  unfold checkConnection
  cases hlg : lg.isconnected <;> cases htox : tox.connected <;> simp [Connection.ofBool, htox]

theorem connectionReport_requestChunks (lg : Legacy) (tox : NewTox) (call : Call) :
    ((requestChunks lg tox).2.map (Prod.mk call)).filterMap connectionReport = [] := by
  rw [List.filterMap_map]
  refine List.filterMap_eq_nil_iff.mpr fun a ha => ?_
  obtain ⟨f, n, t, -, -, rfl⟩ := mem_requestChunks.mp ha
  rfl

/-- An iteration reports a change of the connection. -/
theorem connectionReport_afterToxDo (lg : Legacy) (tox : NewTox) :
    (afterToxDo lg tox).1.connected = lg.isconnected ∧
      ((afterToxDo lg tox).2.map (Prod.mk Call.afterToxDo)).filterMap connectionReport =
        if tox.connected ≠ lg.isconnected then [.ofBool lg.isconnected] else [] := by
  obtain ⟨hconnected, hreport⟩ := checkConnection_spec lg tox
  rw [afterToxDo_eq]
  refine ⟨hconnected, ?_⟩
  rw [List.map_append, List.filterMap_append, connectionReport_requestChunks, List.append_nil,
    hreport]
  split <;> rfl

/-- No other call has to do with the connection. -/
theorem connectionReport_other (heffect : call.Effect lg tox tox' actions)
    (hcall : connectionSample (lg, call) = none) :
    tox'.connected = tox.connected ∧
      (actions.map (Prod.mk call)).filterMap connectionReport = [] := by
  cases heffect with
  | unchanged hclient hcontrols =>
    refine ⟨rfl, ?_⟩
    rw [List.filterMap_map]
    refine List.filterMap_eq_nil_iff.mpr fun a ha => ?_
    obtain ⟨f, sr, n, control, -, rfl⟩ := hcontrols a ha
    rfl
  | opened | offered | accepted | finished => exact ⟨rfl, rfl⟩
  | sent | received =>
    refine ⟨rfl, ?_⟩
    split <;> rfl
  | asked => cases hcall

end

/-- In every session the client is told exactly the changes of what `tox_isconnected` says from one
    iteration to the next; so what it is told alternates, and comes first when there is a
    connection. -/
theorem connection_changes_reported {ls : List (Legacy × Call)} {s : Logged}
    (h : Run LoggedStep {} ls s) :
    s.log.filterMap connectionReport =
        (changes false (ls.filterMap connectionSample)).map Connection.ofBool ∧
      s.tox.connected = latest false (ls.filterMap connectionSample) ∧
        (.none :: s.log.filterMap connectionReport).IsChain (· ≠ ·) := by
  have hreported : s.log.filterMap connectionReport =
        (changes false (ls.filterMap connectionSample)).map Connection.ofBool ∧
      s.tox.connected = latest false (ls.filterMap connectionSample) := by
    induction h with
    | nil => exact ⟨rfl, rfl⟩
    | @snoc ls s s' l _ hs ih =>
      obtain ⟨lg, call⟩ := l
      obtain ⟨hlog, hconnected⟩ := ih
      simp only [LoggedStep, Logged.run, Checked.bind_eq_ok, Checked.pure_eq_ok,
        Prod.exists] at hs
      obtain ⟨tox, actions, hrun, rfl⟩ := hs
      rw [List.filterMap_append, List.filterMap_append, hlog]
      cases hsample : connectionSample (lg, call) with
      | none =>
        obtain ⟨hsame, hnone⟩ := connectionReport_other (Call.run_effect hrun) hsample
        rw [List.filterMap_cons, hsample, hnone, hsame, hconnected]
        simp
      | some connected =>
        cases call with
        | afterToxDo =>
          obtain ⟨rfl, rfl⟩ := Call.run_afterToxDo hrun
          obtain ⟨hnew, hreport⟩ := connectionReport_afterToxDo lg s.tox
          rw [List.filterMap_cons, hsample, hreport, hnew, hconnected]
          cases hsample
          rw [List.filterMap_nil, changes_concat, latest_concat, List.map_append]
          refine ⟨?_, rfl⟩
          split <;> rfl
        | _ => cases hsample
  refine ⟨hreported.1, hreported.2, ?_⟩
  rw [hreported.1]
  have hchain := changes_isChain false (ls.filterMap connectionSample)
  have hmap : (Connection.none :: (changes false (ls.filterMap connectionSample)).map
      Connection.ofBool) = (false :: changes false (ls.filterMap connectionSample)).map
        Connection.ofBool := rfl
  rw [hmap, List.isChain_map]
  exact hchain.imp fun a b hne heq => hne (Connection.ofBool_injective heq)

/-- The connection comes, stays, and is lost. -/
def connectionLost : List (Legacy × Call) :=
  [(.oneFriend, .afterToxDo), (.oneFriend, .afterToxDo),
    ({ Legacy.oneFriend with isconnected := false }, .afterToxDo)]

theorem connection_changes_reported_connectionLost : ∃ s, Run LoggedStep {} connectionLost s ∧
    s.log.filterMap connectionReport = [.udp4, .none] ∧ s.tox.connected = false ∧
      (.none :: s.log.filterMap connectionReport).IsChain (· ≠ ·) := by
  have hexec : (do
      let s ← connectionLost.foldlM Logged.run {}
      return (s.log.filterMap connectionReport, s.tox.connected)) =
      (.ok ([.udp4, .none], false) : Checked _) := by
    decide +kernel
  simp only [Checked.bind_eq_ok, Checked.pure_eq_ok, Prod.mk.injEq] at hexec
  obtain ⟨s, hrun, hlog, hconnected⟩ := hexec
  have h : Run LoggedStep {} connectionLost s := Run.of_foldlM hrun
  exact ⟨s, h, hlog, hconnected, (connection_changes_reported h).2.2⟩

end Tox4j.Adapter
