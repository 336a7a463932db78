import Switchboard.Json.Value
import Switchboard.Options

/-!
# Fields of options in JSON

Options are a JSON object with four fields, or a list with their values in the order of `Field.all`.
A field that is missing keeps its default. Here are the names, what each value may be, and the
wording of a refusal; how the values are found is up to the readers.
-/

namespace Switchboard.Options

/-- A field of options. -/
inductive Field
  | prefixes
  | traceLevel
  | traceFile
  | traceAppend
  deriving DecidableEq, Repr

namespace Field

/-- The fields in their order in a list. -/
def all : List Field :=
  [.prefixes, .traceLevel, .traceFile, .traceAppend]

def name : Field → String
  | .prefixes => "prefixes"
  | .traceLevel => "trace_level"
  | .traceFile => "trace_file"
  | .traceAppend => "trace_append"

def ofName? (s : String) : Option Field :=
  all.find? fun f => f.name = s

end Field

/-- A field with its value. -/
inductive Setting
  | prefixes (ps : List Prefix)
  | traceLevel (level : Option UInt32)
  | traceFile (file : Option Path)
  | traceAppend (append : Bool)
  deriving DecidableEq, Repr

/-- Sets a field to a value. -/
def set (o : Options) : Setting → Options
  | .prefixes ps => { o with prefixes := ps }
  | .traceLevel level => { o with traceLevel := level }
  | .traceFile file => { o with traceFile := file }
  | .traceAppend append => { o with traceAppend := append }

/-! ## What is wanted -/

/-- What options are called when something else was found. -/
def wantedOptions : String := "struct InitOptions"

def wantedList : String := "a sequence"

def wantedText : String := "a string"

def wantedLevel : String := "u32"

def wantedPath : String := "path string"

def wantedBool : String := "a boolean"

/-! ## Scalars -/

/-- The prefix that a text spells. -/
def prefixOf (s : String) : Except Json.Error Prefix :=
  match Prefix.ofText s with
  | .ok p => .ok p
  | .error e => Json.misfit (.refused e.message)

/-- A number as a trace level. -/
def levelOf (n : Json.Number) : Except Json.Error UInt32 :=
  match n with
  | .natural k =>
    if k.toNat < UInt32.size then .ok (UInt32.ofNat k.toNat)
    else Json.misfit (.range n.found wantedLevel)
  | .negative _ => Json.misfit (.range n.found wantedLevel)
  | .real _ => Json.misfit (.kind n.found wantedLevel)

end Switchboard.Options
