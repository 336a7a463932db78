import Switchboard.Duration
import Switchboard.Options.Token
import Switchboard.Session.Lifecycle

/-!
# Starting an engine and exchanging messages

The calls that answer something new: a handle, or a message. A null answer is an error and makes
nothing; any other answer makes one reference, which is not yet in a slot.
-/

namespace Switchboard

variable {σ : Type}

/-- Initialises an engine. A text of options with a zero byte is refused before the engine is
called, since the engine takes a zero-terminated string. -/
def Instance.initialise (E : Engine σ) (version : UInt32) (options : String) :
    Action σ (Except Error Instance) :=
  match NulFault.find? (Utf8.encode options.toList) with
  | some fault => pure (.error (.nulInText fault))
  | none => do
    let answer ← Action.call (E.initialise version options) (.initialise version options)
    if answer.handle = 0 then
      pure (.error (.initialiseFailed version answer.version))
    else
      if answer.version ≠ version then
        Action.notice (.downgraded version answer.version)
      Action.notice (.initialised answer.version options)
      let s ← Action.read
      Action.change fun s => { s with made := s.made + 1 }
      pure (.ok ⟨⟨s.made, answer.handle, answer.version⟩⟩)

section Initialise

variable {E : Engine σ} {s : Session σ} {version : UInt32} {options : String} {answer : Opening}
  {engine : σ}

theorem Instance.initialise_of_nul {fault : NulFault}
    (h : NulFault.find? (Utf8.encode options.toList) = some fault) :
    Instance.initialise E version options s = ⟨.error (.nulInText fault), {}, s⟩ := by
  simp [Instance.initialise, h]

theorem Instance.initialise_of_null (h : NulFault.find? (Utf8.encode options.toList) = none)
    (call : E.initialise version options s.engine = (answer, engine)) (eq : answer.handle = 0) :
    Instance.initialise E version options s =
      ⟨.error (.initialiseFailed version answer.version),
        ⟨[.initialise version options answer], []⟩, { s with engine }⟩ := by
  simp [Instance.initialise, h, call, eq]

theorem Instance.initialise_of_handle (h : NulFault.find? (Utf8.encode options.toList) = none)
    (call : E.initialise version options s.engine = (answer, engine)) (ne : answer.handle ≠ 0) :
    Instance.initialise E version options s =
      ⟨.ok ⟨⟨s.made, answer.handle, answer.version⟩⟩,
        ⟨[.initialise version options answer],
          (if answer.version ≠ version then [.downgraded version answer.version] else []) ++
            [.initialised answer.version options]⟩,
        { s with engine, made := s.made + 1 }⟩ := by
  by_cases hv : answer.version = version <;>
    simp [Instance.initialise, h, call, ne, hv, Trace.append]

end Initialise

/-- Initialises an engine with options, at the version of this library. -/
def Instance.initialiseWith (E : Engine σ) (options : Options) : Action σ (Except Error Instance) :=
  match options.render with
  | .error e => pure (.error e)
  | .ok text => Instance.initialise E interfaceVersion text

/-- Waits for the next message. -/
def Instance.getMessage (E : Engine σ) (i : Instance) (wait : Duration) :
    Action σ (Except Error Message) := do
  let c := i.context
  let timeout := wait.timeout
  let answer ← Action.call (E.getMessage c.handle timeout) (.getMessage c.number c.handle timeout)
  if answer = 0 then pure (.error .noMessage)
  else
    Action.notice (.received answer)
    pure (.ok ⟨c, answer⟩)

/-- Sends the message at an address, which stays the property of whoever owns it. -/
def Instance.sendAddress (E : Engine σ) (i : Instance) (message : Address) :
    Action σ (Except Error Message) := do
  let c := i.context
  let answer ← Action.call (E.sendMessage c.handle message) (.sendMessage c.number c.handle message)
  if answer = 0 then pure (.error .sendFailed)
  else
    Action.notice (.sent message answer)
    pure (.ok ⟨c, answer⟩)

section Answers

variable {E : Engine σ} {i : Instance} {s : Session σ} {wait : Duration} {message a : Address}
  {engine : σ}

theorem Instance.getMessage_of_null
    (call : E.getMessage i.context.handle wait.timeout s.engine = (0, engine)) :
    i.getMessage E wait s = ⟨.error .noMessage,
      ⟨[.getMessage i.context.number i.context.handle wait.timeout 0], []⟩, { s with engine }⟩ := by
  simp [Instance.getMessage, call]

theorem Instance.getMessage_of_message
    (call : E.getMessage i.context.handle wait.timeout s.engine = (a, engine)) (ne : a ≠ 0) :
    i.getMessage E wait s = ⟨.ok ⟨i.context, a⟩,
      ⟨[.getMessage i.context.number i.context.handle wait.timeout a], [.received a]⟩,
      { s with engine }⟩ := by
  simp [Instance.getMessage, call, ne, Trace.append]

theorem Instance.sendAddress_of_null
    (call : E.sendMessage i.context.handle message s.engine = (0, engine)) :
    i.sendAddress E message s = ⟨.error .sendFailed,
      ⟨[.sendMessage i.context.number i.context.handle message 0], []⟩, { s with engine }⟩ := by
  simp [Instance.sendAddress, call]

theorem Instance.sendAddress_of_message
    (call : E.sendMessage i.context.handle message s.engine = (a, engine)) (ne : a ≠ 0) :
    i.sendAddress E message s = ⟨.ok ⟨i.context, a⟩,
      ⟨[.sendMessage i.context.number i.context.handle message a], [.sent message a]⟩,
      { s with engine }⟩ := by
  simp [Instance.sendAddress, call, ne, Trace.append]

end Answers

/-- Sends a message and waits for the response. The message stays where it is. -/
def Instance.send (E : Engine σ) (i : Instance) (m : Message) : Action σ (Except Error Message) :=
  i.sendAddress E m.address

/-- Takes charge of a message that was given away before. -/
def Message.takeBack (i : Instance) (address : Address) : Except Error Message :=
  if address = 0 then .error (.other "Cannot take ownership of a null message.")
  else .ok ⟨i.context, address⟩

/-- Gives a message away: its hold on the context ends, but it is not freed. -/
def Message.giveAway (E : Engine σ) (m : Message) : Action σ Address := do
  Message.discard E { m with address := 0 }
  pure m.address

end Switchboard
