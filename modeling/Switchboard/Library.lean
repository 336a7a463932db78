import Switchboard.Session.Basic

/-!
# Libraries

An engine lives in a shared library, which exports functions under symbols. `Library.table` looks
the five entry points up by their names (`Library.key`), in the order of an engine's life, and stops
at the first name that is missing. The names are the symbols of the entry points (`key_eq_symbol`).
The table of functions that it finds is used as an engine, each call of which goes on to a function
of the table. `load` does all of it for a path: it opens the library, resolves the entry points and
writes a notice.

How a path is opened is left to the system: it is a function from paths to libraries or faults.
-/

namespace Switchboard

/-- The type of the function at an entry point. -/
def EntryPoint.Signature (σ : Type) : EntryPoint → Type
  | .initialise => UInt32 → String → σ → Opening × σ
  | .shutDown => Address → σ → σ
  | .getMessage => Address → UInt32 → σ → Address × σ
  | .sendMessage => Address → Address → σ → Address × σ
  | .freeMessage => Address → σ → σ

/-- What a library has under a symbol. A loader knows names only, so the function can be taken for
that of any entry point, whichever it was written for. -/
def Code (σ : Type) : Type :=
  (e : EntryPoint) → e.Signature σ

/-- A library: a partial map from symbols to functions. -/
structure Library (σ : Type) where
  lookup? : String → Option (Code σ)

/-- The functions of a library that are used, as they were found. -/
structure FunctionTable (σ : Type) where
  initialise : EntryPoint.Signature σ .initialise
  shutDown : EntryPoint.Signature σ .shutDown
  getMessage : EntryPoint.Signature σ .getMessage
  sendMessage : EntryPoint.Signature σ .sendMessage
  freeMessage : EntryPoint.Signature σ .freeMessage

/-- A table of functions as an engine: each call goes on to its function. -/
def FunctionTable.engine {σ : Type} (t : FunctionTable σ) : Engine σ where
  initialise version options e := t.initialise version options e
  shutDown handle e := t.shutDown handle e
  getMessage handle timeout e := t.getMessage handle timeout e
  sendMessage handle message e := t.sendMessage handle message e
  freeMessage message e := t.freeMessage message e

/-- The function of an engine at an entry point. -/
def Engine.entry {σ : Type} (E : Engine σ) : (e : EntryPoint) → e.Signature σ
  | .initialise => E.initialise
  | .shutDown => E.shutDown
  | .getMessage => E.getMessage
  | .sendMessage => E.sendMessage
  | .freeMessage => E.freeMessage

/-- The function at an entry point of something that does nothing. -/
def EntryPoint.inert {σ : Type} : (e : EntryPoint) → e.Signature σ
  | .initialise => fun version _ s => (⟨0, version⟩, s)
  | .shutDown => fun _ s => s
  | .getMessage => fun _ _ s => (0, s)
  | .sendMessage => fun _ _ s => (0, s)
  | .freeMessage => fun _ s => s

/-- The function of an engine at an entry point as a library has it. It is of no use if it is taken
for another one. -/
def Engine.code {σ : Type} (E : Engine σ) (e : EntryPoint) : Code σ :=
  fun f => if e = f then E.entry f else f.inert

namespace Library

variable {σ : Type}

/-- The library that exports some of the entry points of an engine. -/
def ofEngine (E : Engine σ) (exported : EntryPoint → Bool) : Library σ where
  lookup? name := (EntryPoint.all.find? fun e => e.symbol = name && exported e).map E.code

/-- The name by which the function at an entry point is looked up. -/
def key : EntryPoint → String
  | .initialise => "OpalInitialise"
  | .shutDown => "OpalShutDown"
  | .getMessage => "OpalGetMessage"
  | .sendMessage => "OpalSendMessage"
  | .freeMessage => "OpalFreeMessage"

/-- What is looked up is what a library exports. -/
theorem key_eq_symbol (e : EntryPoint) : key e = e.symbol := by
  cases e <;> rfl

/-- The function at an entry point; the name that was looked up if it is missing. -/
def function (L : Library σ) (e : EntryPoint) : Except String (e.Signature σ) :=
  match L.lookup? (key e) with
  | some code => .ok (code e)
  | none => .error (key e)

/-- The functions that a library exports; the first missing name if it does not export all. -/
def table (L : Library σ) : Except String (FunctionTable σ) := do
  let initialise ← L.function .initialise
  let shutDown ← L.function .shutDown
  let getMessage ← L.function .getMessage
  let sendMessage ← L.function .sendMessage
  let freeMessage ← L.function .freeMessage
  pure { initialise, shutDown, getMessage, sendMessage, freeMessage }

/-- The engine that a library exports. -/
def resolve (L : Library σ) : Except String (Engine σ) :=
  L.table.map FunctionTable.engine

end Library

/-! ## Loading -/

/-- A way to open paths as libraries. -/
abbrev Opener (σ : Type) := Path → Except OpenFault (Library σ)

/-- The path that the system is given. It takes a zero-terminated string, so a zero byte may stand
at the end only, where it is the terminator. -/
def terminated (path : Path) : Except LoadFault Path :=
  if path.bytes.getLast? = some 0 then
    match NulFault.find? path.bytes.dropLast with
    | none => .ok ⟨path.bytes.dropLast⟩
    | some fault => .error (.nulBeforeEnd fault.position)
  else
    match NulFault.find? path.bytes with
    | none => .ok path
    | some fault => .error (.nulInside fault)

/-- The engine in the library at a path. -/
def openEngine {σ : Type} (opener : Opener σ) (path : Path) : Except LoadFault (Engine σ) :=
  match terminated path with
  | .error fault => .error fault
  | .ok path =>
    match opener path with
    | .error why => .error (.notOpened path why)
    | .ok L =>
      match L.resolve with
      | .error missing => .error (.noSymbol path missing)
      | .ok E => .ok E

/-- Loads the engine in the library at a path. -/
def load {σ : Type} (opener : Opener σ) (path : Path) : Action σ (Except Error (Engine σ)) :=
  match openEngine opener path with
  | .error fault => pure (.error (.loading fault))
  | .ok E => do
    Action.notice (.loaded path)
    pure (.ok E)

end Switchboard
