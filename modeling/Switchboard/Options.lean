import Switchboard.Path
import Switchboard.Prefix

/-!
# Options

What an application asks of its engine at the start: the endpoints to create, how much the engine
writes about itself, and where. Options are built up by edits. Adding an endpoint that is already
there changes nothing; the other edits set their field.
-/

namespace Switchboard

/-- Options of an engine. -/
structure Options where
  /-- The endpoints to create; none leaves the choice to the engine. -/
  prefixes : List Prefix := []
  /-- How much the engine traces. -/
  traceLevel : Option UInt32 := none
  /-- The file that the engine traces to. -/
  traceFile : Option Path := none
  /-- Whether the trace is added to the end of its file. -/
  traceAppend : Bool := false
  deriving DecidableEq, Repr

namespace Options

/-! ## Edits -/

/-- Adds an endpoint at the end, unless it is there already. -/
def add (o : Options) (p : Prefix) : Options :=
  if p ∈ o.prefixes then o else { o with prefixes := o.prefixes ++ [p] }

/-- Adds endpoints one after another. -/
def addAll (o : Options) (ps : List Prefix) : Options :=
  ps.foldl add o

def withTraceLevel (o : Options) (level : UInt32) : Options :=
  { o with traceLevel := some level }

def withTraceFile (o : Options) (file : Path) : Options :=
  { o with traceFile := some file }

def withTraceAppend (o : Options) (append : Bool) : Options :=
  { o with traceAppend := append }

/-- One step of building options. -/
inductive Edit
  | add (p : Prefix)
  | addAll (ps : List Prefix)
  | traceLevel (level : UInt32)
  | traceFile (file : Path)
  | traceAppend (append : Bool)
  deriving DecidableEq, Repr

def edit (o : Options) : Edit → Options
  | .add p => o.add p
  | .addAll ps => o.addAll ps
  | .traceLevel level => o.withTraceLevel level
  | .traceFile file => o.withTraceFile file
  | .traceAppend append => o.withTraceAppend append

/-- Makes edits one after another. -/
def editAll (o : Options) (es : List Edit) : Options :=
  es.foldl edit o

/-! ## Sameness -/

/-- Whether two trace files are both absent, or have the same components. -/
def sameFile : Option Path → Option Path → Bool
  | none, none => true
  | some p, some q => p.sameAs q
  | _, _ => false

/-- Whether two options ask for the same. Trace files count by their components, all else as it is.
-/
def sameAs (a b : Options) : Bool :=
  a.prefixes = b.prefixes && a.traceLevel = b.traceLevel && sameFile a.traceFile b.traceFile &&
    a.traceAppend = b.traceAppend

end Options

end Switchboard
