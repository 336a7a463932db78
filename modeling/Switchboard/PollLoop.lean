import Switchboard.CommandLine.Help
import Switchboard.Launch
import Switchboard.LogFilter
import Switchboard.Session.Operation

/-!
# The polling program

A program that launches an engine and polls it for messages. Every message is shown and freed before
the next poll. The program stops after a number of polls in a row without a message, and shuts the
engine down; a limit of zero means that it never stops for that reason. The number of polls in a row
is kept in 32 bits. The program fails when it leaves them, and what it holds is let go of.

A run may go on for ever, so it is given a number of polls after which we stop watching it.
-/

namespace Switchboard.PollLoop

variable {σ : Type}

/-! ## Arguments -/

/-- The flags that tell how to launch an engine. -/
def launchGrammar : CommandLine.Grammar :=
  ⟨[.library, .endpoint, .traceLevel, .traceFile], false⟩

/-- The flags of the program. -/
def grammar : CommandLine.Grammar :=
  ⟨launchGrammar.flags ++ [.timeout, .idleLimit, .listConstants], true⟩

/-- What the program says of itself. -/
def about : CommandLine.About where
  command := "message_loop"
  purpose := "Poll an OPAL engine for messages"
  package := "opal"
  version := "0.1.0"

/-- What the command line asks for. -/
structure Arguments where
  launch : Launch := {}
  /-- How long a poll waits, in milliseconds. -/
  timeout : UInt64 := 1000
  /-- The number of polls without a message after which the program stops; zero for never. -/
  idleLimit : UInt32 := 0
  /-- Whether the constants are listed and nothing else is done. -/
  listConstants : Bool := false
  deriving DecidableEq, Repr

/-- Follows one setting. -/
def Arguments.set (a : Arguments) : CommandLine.Setting → Arguments
  | .library path => { a with launch := { a.launch with library := some path } }
  | .endpoint p => { a with launch := { a.launch with prefixes := a.launch.prefixes ++ [p] } }
  | .traceLevel level => { a with launch := { a.launch with traceLevel := some level } }
  | .traceFile path => { a with launch := { a.launch with traceFile := some path } }
  | .timeout millis => { a with timeout := millis }
  | .idleLimit polls => { a with idleLimit := polls }
  | .listConstants => { a with listConstants := true }

/-- Reads a command line. -/
def Arguments.parse (g : CommandLine.Grammar) (words : List String) :
    Except CommandLine.Fault Arguments :=
  (CommandLine.parse g words).map (·.foldl set {})

/-! ## The loop -/

/-- How a run of the loop ended. -/
inductive Ending
  /-- There were enough polls without a message, or a poll failed. -/
  | stopped
  /-- The number of polls in a row without a message left its bits. -/
  | overflowed
  /-- The loop goes on, but we stop watching. -/
  | running
  deriving DecidableEq, Repr

/-- The slot of the message that was polled. -/
def messageSlot : String := "message"

/-- The slot of the instance. -/
def instanceSlot : String := "instance"

/-- Shows a message and lets go of it. -/
def handle (E : Engine σ) (m : Message) : Action σ Unit := do
  storeMessage E messageSlot m
  Action.notice (.polled m.address)
  match ← takeMessage messageSlot with
  | some m => m.discard E
  | none => pure ()

/-- One more than a count; `none` if that does not fit into its bits. -/
def next? (idle : UInt32) : Option UInt32 :=
  if idle.toNat + 1 < UInt32.size then some (idle + 1) else none

theorem next?_of_lt {idle : UInt32} (h : idle.toNat + 1 < UInt32.size) :
    ∃ next, next? idle = some next ∧ next.toNat = idle.toNat + 1 := by
  refine ⟨idle + 1, if_pos h, ?_⟩
  rw [UInt32.toNat_add]
  exact Nat.mod_eq_of_lt h

theorem next?_of_full {idle : UInt32} (h : idle.toNat + 1 = UInt32.size) : next? idle = none :=
  if_neg (Nat.not_lt.2 (Nat.le_of_eq h.symm))

/-- Polls at most `polls` times. `idle` is the number of polls in a row without a message. -/
def loop (E : Engine σ) (i : Instance) (wait : Duration) (limit : UInt32) :
    (polls : Nat) → (idle : UInt32) → Action σ Ending
  | 0, _ => pure .running
  | polls + 1, idle => do
    match ← i.getMessage E wait with
    | .ok m =>
      handle E m
      loop E i wait limit polls 0
    | .error .noMessage =>
      match next? idle with
      | none => pure .overflowed
      | some idle =>
        if limit ≠ 0 ∧ limit ≤ idle then
          Action.notice (.idle idle)
          pure .stopped
        else loop E i wait limit polls idle
    | .error e =>
      Action.notice (.pollFailed e.message)
      pure .stopped

/-- Polls, and shuts the engine down afterwards; a program that fails lets go of its instance. -/
def pollAndShutDown (E : Engine σ) (i : Instance) (a : Arguments) (polls : Nat) :
    Action σ (Except Error Ending) := do
  storeInstance E instanceSlot i
  Action.notice (.running i.context.version)
  match ← loop E i (Duration.ofMillis a.timeout) a.idleLimit polls 0 with
  | .running => pure (.ok .running)
  | .overflowed =>
    match ← takeInstance instanceSlot with
    | none => pure (.ok .overflowed)
    | some i =>
      i.discard E
      pure (.ok .overflowed)
  | .stopped =>
    match ← takeInstance instanceSlot with
    | none => pure (.ok .stopped)
    | some i =>
      match ← i.shutDown E with
      | .error e => pure (.error e)
      | .ok () => pure (.ok .stopped)

/-- Launches an engine and polls it. -/
def run (opener : Opener σ) (os : String) (environment : Option Path) (a : Arguments)
    (polls : Nat) : Action σ (Except Error Ending) := do
  match ← a.launch.start opener os environment with
  | .error e => pure (.error e)
  | .ok (E, i) => pollAndShutDown E i a polls

/-! ## The program -/

/-- The constants of the interface, a line each. -/
def constants : List String :=
  ("API version: " ++ Numeral.decimal interfaceVersion.toNat) ::
    EntryPoint.all.map (fun e => "function: " ++ e.text) ++
    Prefix.all.map (fun p => "prefix: " ++ p.name ++ " = " ++ p.text) ++
    ["all prefixes: " ++ Prefix.allText]

/-- What a run of the program leaves: its exit code, its lines of output and of errors, and the
calls of the engine. -/
structure Outcome where
  code : UInt32
  out : List String
  err : List String
  calls : List Call
  deriving DecidableEq, Repr

/-- What the program is run with. -/
structure Setup (σ : Type) where
  opener : Opener σ
  /-- The operating system. -/
  os : String
  /-- The path of the library that the environment gives. -/
  environment : Option Path
  /-- The log filter that the environment gives. -/
  filter : Option String
  words : List String
  /-- For how many polls the run is watched. -/
  polls : Arguments → Nat

/-- What a program says that fails because a count left its bits. -/
def overflowMessage : String := "attempt to add with overflow"

/-- What a run leaves, if some notices are shown and some directives of the filter were ignored. -/
def Outcome.ofRun (filter : LogFilter) (ignored : List String) (d : Done σ (Except Error Ending)) :
    Outcome :=
  let out := (d.trace.notices.filter filter.shows).map Notice.line
  match d.value with
  | .ok .overflowed => ⟨101, out, ignored ++ [overflowMessage], d.trace.calls⟩
  | .ok _ => ⟨0, out, ignored, d.trace.calls⟩
  | .error e => ⟨1, out, ignored ++ ["Error: " ++ e.detail], d.trace.calls⟩

theorem Outcome.calls_ofRun (filter : LogFilter) (ignored : List String)
    (d : Done σ (Except Error Ending)) : (ofRun filter ignored d).calls = d.trace.calls := by
  rw [ofRun]
  split <;> rfl

theorem Outcome.ofRun_of_overflowed (filter : LogFilter) (ignored : List String)
    {d : Done σ (Except Error Ending)} (h : d.value = .ok .overflowed) :
    ofRun filter ignored d = ⟨101, (d.trace.notices.filter filter.shows).map Notice.line,
      ignored ++ [overflowMessage], d.trace.calls⟩ := by
  rw [ofRun, h]

/-- Runs the program with an engine in some state. -/
def program (setup : Setup σ) (engine : σ) : Outcome :=
  let (filter, ignored) := LogFilter.read (setup.filter.getD "")
  match Arguments.parse grammar setup.words with
  | .error .help => ⟨0, about.help grammar, ignored, []⟩
  | .error .version => ⟨0, [about.versionLine], ignored, []⟩
  | .error fault => ⟨2, [], ignored ++ ["error: " ++ fault.message], []⟩
  | .ok a =>
    if a.listConstants then ⟨0, constants, ignored, []⟩
    else
      .ofRun filter ignored <|
        run setup.opener setup.os setup.environment a (setup.polls a) { engine }

end Switchboard.PollLoop
