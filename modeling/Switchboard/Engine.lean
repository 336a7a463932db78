import Switchboard.EntryPoint

/-!
# Engines

An engine is known by its five entry points only. It has a state of its own, of any type, and each
entry point may change it and answer as it likes. A null answer, the address 0, means that there is
no handle or no message. `Call` is one call of an entry point with its answer; the calls a session
makes are its trace at the seam to the engine.
-/

namespace Switchboard

/-- An address that an engine hands out: a handle or a message. Zero is the null address. -/
abbrev Address := Nat

/-- The answer to an initialise call: a handle, and the version as the engine leaves it. -/
structure Opening where
  handle : Address
  version : UInt32
  deriving DecidableEq, Repr

/-- The entry points of an engine whose state is a `σ`. -/
structure Engine (σ : Type) where
  /-- Takes the requested version and the text of the options. -/
  initialise : UInt32 → String → σ → Opening × σ
  /-- Takes a handle. -/
  shutDown : Address → σ → σ
  /-- Takes a handle and a number of milliseconds. -/
  getMessage : Address → UInt32 → σ → Address × σ
  /-- Takes a handle and the message to send. -/
  sendMessage : Address → Address → σ → Address × σ
  /-- Takes a message. -/
  freeMessage : Address → σ → σ

/-- A call of an entry point. All but the first are made on behalf of a context, whose number is
kept beside the arguments; the engine does not see it. -/
inductive Call
  | initialise (requested : UInt32) (options : String) (answer : Opening)
  | shutDown (context : Nat) (handle : Address)
  | getMessage (context : Nat) (handle : Address) (timeout : UInt32) (answer : Address)
  | sendMessage (context : Nat) (handle message : Address) (answer : Address)
  | freeMessage (context : Nat) (message : Address)
  deriving DecidableEq, Repr

end Switchboard
