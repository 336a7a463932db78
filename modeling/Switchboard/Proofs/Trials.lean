import Switchboard.Proofs.Simulation
import Switchboard.Trial.Script

/-!
# Trials as runs

A step of a script is a move of a run (`Trial.Step.step_move`), so what holds of all runs holds of
all trials. The engine for trials changes from outside in two ways only, which gives an induction of
its own (`Trial.history_induction`).
-/

namespace Switchboard.Trial

open History

/-- A step as a move of a run. -/
def Step.move : Step → Move State
  | .operation op => .operation op
  | .push => .outside fun e => e.push.2
  | .adjust a => .outside fun e => { e with settings := e.settings.adjust a }

/-- The move of a step does what the step does. -/
theorem Step.step_move (E : Engine State) (h : History State) (step : Step) :
    (h.step E step.move).trace = h.trace.append (step.run E h.session).trace ∧
      (h.step E step.move).session = (step.run E h.session).session := by
  cases step with
  | operation op => exact ⟨rfl, rfl⟩
  | push => simp [move, run, outside, History.step]
  | adjust a => simp [move, run, outside, History.step]

/-- The run that steps make with an engine that has some settings and follows a script. -/
def history (settings : Settings) (script : List Bool) (steps : List Step) : History State :=
  (start { settings, script }).run engine (steps.map Step.move)

variable {settings : Settings} {script : List Bool} {steps : List Step}

theorem reached_history : Reached engine (history settings script steps) := ⟨_, _, rfl⟩

/-- What holds at the start of a trial and is kept by every effect, by the arrival of a message and
by other settings, holds after the trial. -/
theorem history_induction {P : Trace → List Transfer → Holding State → Prop}
    (begin : P {} [] (start { settings, script }).session.holding)
    (effect : ∀ {t l H t₁ l₁ H₁}, P t l H → Effect engine H t₁ l₁ H₁ →
      P (t.append t₁) (l ++ l₁) H₁)
    (push : ∀ {t l H}, P t l H → P t l { H with engine := H.engine.push.2 })
    (adjust : ∀ {t l H} a, P t l H →
      P t l { H with engine := { H.engine with settings := H.engine.settings.adjust a } }) :
    P (history settings script steps).trace (history settings script steps).transfers
      (history settings script steps).session.holding := by
  refine (effect_induction (sound_start _) begin (fun _ h he => effect h he) ?_).2
  intro t l H f hf h
  obtain ⟨step, -, hm⟩ := List.mem_map.1 hf
  cases step with
  | operation op => cases hm
  | push =>
    cases hm
    exact push h
  | adjust a =>
    cases hm
    exact adjust a h

end Switchboard.Trial
