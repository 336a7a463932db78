import Switchboard.Session.Operation
import Switchboard.Trial.Engine

/-!
# Scripts of trials

A script is a list of steps: operations of a session with the engine for trials, and changes of the
engine from outside. After the last step everything is let go of. Each step has a report.
-/

namespace Switchboard.Trial

/-- A step of a script. -/
inductive Step
  | operation (op : Operation)
  /-- A message arrives at the engine. -/
  | push
  /-- The engine gets other settings. -/
  | adjust (a : Adjustment)

/-- What a step did: its result, what the engine was asked, what was written to the log, and how
many handles, live messages, pending messages and double frees there are afterwards. -/
structure Report where
  result : Except Refusal Answer
  events : List Event
  notices : List Notice
  handles : Nat
  live : Nat
  pending : Nat
  doubleFrees : Nat

/-- Changes the engine from outside. -/
def outside {α : Type} (f : State → α × State) : Action State α := fun s =>
  let (x, engine) := f s.engine
  ⟨x, {}, { s with engine }⟩

/-- Carries a step out with a given engine. -/
def Step.run (E : Engine State) : Step → Action State (Except Refusal Answer)
  | .operation op => op.run E
  | .push => do pure (.ok (.number (← outside State.push)))
  | .adjust a => do
    outside fun e => ((), { e with settings := e.settings.adjust a })
    pure (.ok .nothing)

/-- Carries something out and reports on it. The events of the engine are those since then. -/
def report (action : Action State (Except Refusal Answer)) (s : Session State) :
    Report × Session State :=
  let d := action { s with engine := { s.engine with events := [] } }
  let e := d.session.engine
  (⟨d.value, e.events.reverse, d.trace.notices, e.handles.length, e.live.length, e.pending.length,
    e.doubleFrees⟩, d.session)

/-- Carries steps out from a session; the last report is on letting go of everything. -/
def reports (E : Engine State) : List Step → Session State → List Report
  | [], s => [(report (do closeAll E; pure (.ok .nothing)) s).1]
  | step :: steps, s =>
    let (r, s) := report (step.run E) s
    r :: reports E steps s

end Switchboard.Trial
