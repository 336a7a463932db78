import Switchboard.Trial.Polling

/-!
# The polling program from the command line

Runs the polling program with the words of the command line and the environment. The libraries it
finds are those of the folder for trials. Three variables steer their engine: `TRIAL_SUPPORTED` is
the greatest version it has, `TRIAL_REJECT`, if set, makes it refuse greater ones, and
`TRIAL_SCRIPT` lets a message arrive at each get call for which it has an `m`.
-/

open Switchboard in
/-- Runs the program and prints what it leaves. -/
def main (words : List String) : IO UInt32 := do
  let supported ← IO.getEnv "TRIAL_SUPPORTED"
  let trial : Trial.Polling :=
    { words
      environment := (← IO.getEnv "OPAL_LIBRARY_PATH").map Path.ofString
      filter := ← IO.getEnv "RUST_LOG"
      supported := Trial.Polling.readSupported supported
      reject := (← IO.getEnv "TRIAL_REJECT").isSome
      script := (← IO.getEnv "TRIAL_SCRIPT").getD "" }
  let outcome := trial.outcome
  outcome.out.forM IO.println
  outcome.err.forM IO.eprintln
  return outcome.code
