import Switchboard.Library
import Switchboard.Platform
import Switchboard.Session.Exchange

/-!
# Launching an engine

From what a user asks for to a running engine: find the library, load it, and initialise its engine
with options.
-/

namespace Switchboard

/-- What a user asks for. -/
structure Launch where
  /-- The library, if not the usual one. -/
  library : Option Path := none
  /-- The endpoints as given, repeats included. -/
  prefixes : List Prefix := []
  traceLevel : Option UInt32 := none
  traceFile : Option Path := none
  deriving DecidableEq, Repr

namespace Launch

/-- The options of the engine; each endpoint once, in the order of first mention. -/
def options (l : Launch) : Options :=
  let o : Options := ({} : Options).addAll l.prefixes
  let o := l.traceLevel.elim o o.withTraceLevel
  l.traceFile.elim o o.withTraceFile

/-- The library to load: the given one, or the one that the environment or the platform gives. -/
def libraryPath (l : Launch) (os : String) (environment : Option Path) : Path :=
  l.library.getD (Platform.libraryPath os environment)

/-- Loads the library and initialises its engine. -/
def start {σ : Type} (l : Launch) (opener : Opener σ) (os : String) (environment : Option Path) :
    Action σ (Except Error (Engine σ × Instance)) := do
  match ← load opener (l.libraryPath os environment) with
  | .error e => pure (.error e)
  | .ok E =>
    match ← Instance.initialiseWith E l.options with
    | .error e => pure (.error e)
    | .ok i => pure (.ok (E, i))

/-- Launches an engine and lets go of it at once. The result is the negotiated version. -/
def probe {σ : Type} (l : Launch) (opener : Opener σ) (os : String) (environment : Option Path) :
    Action σ (Except Error UInt32) := do
  match ← l.start opener os environment with
  | .error e => pure (.error e)
  | .ok (E, i) =>
    i.discard E
    pure (.ok i.context.version)

end Launch

end Switchboard
