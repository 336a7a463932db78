/-!
# Entry points

The five functions of the engine, the symbols by which a library exports them, and the texts by
which a program shows them (`text_eq_symbol`).
-/

namespace Switchboard

/-- A function of the engine. -/
inductive EntryPoint
  | initialise
  | shutDown
  | getMessage
  | sendMessage
  | freeMessage
  deriving DecidableEq, Repr

namespace EntryPoint

/-- The entry points in the order of an engine's life. -/
def all : List EntryPoint :=
  [.initialise, .shutDown, .getMessage, .sendMessage, .freeMessage]

/-- The symbol of an entry point without the mark that all of them share. -/
def name : EntryPoint → String
  | .initialise => "Initialise"
  | .shutDown => "ShutDown"
  | .getMessage => "GetMessage"
  | .sendMessage => "SendMessage"
  | .freeMessage => "FreeMessage"

/-- The symbol that a library exports. -/
def symbol : EntryPoint → String
  | .initialise => "OpalInitialise"
  | .shutDown => "OpalShutDown"
  | .getMessage => "OpalGetMessage"
  | .sendMessage => "OpalSendMessage"
  | .freeMessage => "OpalFreeMessage"

/-- The text of an entry point. -/
def text : EntryPoint → String
  | .initialise => "OpalInitialise"
  | .shutDown => "OpalShutDown"
  | .getMessage => "OpalGetMessage"
  | .sendMessage => "OpalSendMessage"
  | .freeMessage => "OpalFreeMessage"

theorem mem_all (e : EntryPoint) : e ∈ all := by
  cases e <;> decide

/-- Different entry points have different symbols. -/
theorem symbol_injective {e f : EntryPoint} (h : e.symbol = f.symbol) : e = f := by
  cases e <;> cases f <;> first | rfl | exact absurd h (by decide)

/-- What is shown is what a library exports. -/
theorem text_eq_symbol (e : EntryPoint) : e.text = e.symbol := by
  cases e <;> rfl

end EntryPoint

/-- The version of the engine's interface that this library asks for. -/
def interfaceVersion : UInt32 := 33

end Switchboard
