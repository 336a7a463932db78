import Switchboard.PollLoop
import Switchboard.Trial.Folder

/-!
# Trials of the polling program

The polling program in the folder for trials. A script of characters lets a message arrive at each
get call for which it has an `m`; past its end none arrives, so the program is watched for long
enough when it is watched for as many polls as the script has characters and the limit adds.
-/

namespace Switchboard.Trial

/-- What a trial of the program is run with. -/
structure Polling where
  words : List String
  /-- The path of the library that the environment gives. -/
  environment : Option Path := none
  /-- The log filter that the environment gives. -/
  filter : Option String := none
  /-- The greatest version of the engine. -/
  supported : UInt32 := 33
  /-- Whether the engine refuses greater versions. -/
  reject : Bool := false
  script : String := ""

namespace Polling

/-- The greatest version of an engine for which a text is given: a number of 32 bits. Without such a
number it is 33. -/
def readSupported (text : Option String) : UInt32 :=
  match text.map (CommandLine.readInteger 0 (UInt32.size - 1)) with
  | some (.ok n) => UInt32.ofNat n.toNat
  | _ => 33

/-- The engine at the start. -/
def state (t : Polling) : State where
  settings := { supported := t.supported, rejectDowngrade := t.reject }
  script := t.script.toList.map (· = 'm')

/-- For how many polls a run is watched. -/
def polls (t : Polling) (a : PollLoop.Arguments) : Nat :=
  t.script.toList.length + a.idleLimit.toNat + 1

/-- Runs the program. -/
def outcome (t : Polling) : PollLoop.Outcome :=
  PollLoop.program
    { opener := folder
      os := "linux"
      environment := t.environment
      filter := t.filter
      words := t.words
      polls := t.polls } t.state

end Polling

end Switchboard.Trial
