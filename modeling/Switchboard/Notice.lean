import Switchboard.Path
import Switchboard.Text.Numeral

/-!
# Notices

What is written to the log. A notice is kept as the event it reports; its level, the part of the
program it comes from, and its text are functions of the event.
-/

namespace Switchboard

/-- How much a notice matters, the most important level first. -/
inductive Level
  | error
  | warn
  | info
  | debug
  | trace
  deriving DecidableEq, Repr

namespace Level

/-- The rank of a level, from 1 for the most important. -/
def rank : Level → Nat
  | .error => 1
  | .warn => 2
  | .info => 3
  | .debug => 4
  | .trace => 5

def name : Level → String
  | .error => "ERROR"
  | .warn => "WARN"
  | .info => "INFO"
  | .debug => "DEBUG"
  | .trace => "TRACE"

end Level

/-- An address as diagnostics show it. -/
def addressText (a : Nat) : String :=
  "0x" ++ Numeral.hex a

/-- A message as diagnostics show it. -/
def messageText (a : Nat) : String :=
  "Message(" ++ addressText a ++ ")"

/-- An event that is written to the log. -/
inductive Notice
  /-- A library was loaded. -/
  | loaded (path : Path)
  /-- The engine left another version than the one requested. -/
  | downgraded (requested negotiated : UInt32)
  | initialised (version : UInt32) (options : String)
  | shuttingDown (version : UInt32)
  | received (message : Nat)
  | sent (message response : Nat)
  | freeing (message : Nat)
  /-- The polling program starts to poll. -/
  | running (version : UInt32)
  /-- The polling program got a message. -/
  | polled (message : Nat)
  /-- The polling program gives up after a number of polls without a message. -/
  | idle (polls : UInt32)
  /-- A poll failed in another way than by having no message. -/
  | pollFailed (reason : String)
  deriving DecidableEq, Repr

namespace Notice

def level : Notice → Level
  | .loaded _ | .initialised .. | .shuttingDown _ => .debug
  | .received _ | .sent .. | .freeing _ => .trace
  | .downgraded .. | .running _ | .polled _ | .idle _ => .info
  | .pollFailed _ => .warn

/-- The part of the program that a notice comes from. -/
def target : Notice → String
  | .loaded _ => "opal::api"
  | .downgraded .. | .initialised .. | .shuttingDown _ | .received _ | .sent .. => "opal::instance"
  | .freeing _ => "opal::message"
  | .running _ | .polled _ | .idle _ | .pollFailed _ => "message_loop"

def text : Notice → String
  | .loaded path => "Loaded OPAL library from " ++ path.quoted
  | .downgraded requested negotiated =>
    "OPAL engine downgraded API version from " ++ Numeral.decimal requested.toNat ++ " to " ++
      Numeral.decimal negotiated.toNat
  | .initialised version options =>
    "Initialised OPAL instance (API version " ++ Numeral.decimal version.toNat ++ ", options " ++
      Text.Style.terminated.quote options ++ ")"
  | .shuttingDown version =>
    "Shutting down OPAL instance (API version " ++ Numeral.decimal version.toNat ++ ")"
  | .received message => "Received OPAL message " ++ addressText message
  | .sent message response =>
    "Sent OPAL message " ++ addressText message ++ ", response " ++ addressText response
  | .freeing message => "Freeing OPAL message " ++ addressText message
  | .running version => "OPAL engine running, API version " ++ Numeral.decimal version.toNat
  | .polled message => "Message " ++ messageText message
  | .idle polls => "No message after " ++ Numeral.decimal polls.toNat ++ " polls, stopping"
  | .pollFailed reason => "Polling failed: " ++ reason

/-- The line of a notice in the output of a program. -/
def line (n : Notice) : String :=
  n.level.name ++ " " ++ n.target ++ ": " ++ n.text

end Notice

end Switchboard
