import Switchboard.Json.Printer
import Switchboard.Options.Field

/-!
# Options as JSON

Options are written as an object with all four fields in their order. A trace file that is not UTF-8
cannot be written.
-/

namespace Switchboard.Options

/-- A prefix as a value: its word. -/
def valueOfPrefix (p : Prefix) : Json.Value :=
  .string p.text

/-- A trace file as a value. -/
def valueOfFile : Option Path → Except Json.Error Json.Value
  | none => .ok .null
  | some file =>
    match file.text? with
    | some s => .ok (.string s)
    | none => Json.misfit (.refused "path contains invalid UTF-8 characters")

/-- The members of the object, in the order of the fields. -/
def toMembers (o : Options) : Except Json.Error (List (String × Json.Value)) :=
  (valueOfFile o.traceFile).map fun file =>
    [(Field.prefixes.name, .list (o.prefixes.map valueOfPrefix)),
      (Field.traceLevel.name, o.traceLevel.elim .null fun n => .ofNat n.toNat),
      (Field.traceFile.name, file),
      (Field.traceAppend.name, .bool o.traceAppend)]

/-- The JSON text of options. -/
def print (o : Options) : Except Json.Error String :=
  o.toMembers.map fun ms => (Json.Value.object ms).print

end Switchboard.Options
