import Switchboard.Options.Field

/-!
# Options from JSON values

`Options.ofValue` reads options from a value. The members of an object come in ascending order of
their names, so of several faulty ones the first in that order gives the error; members that are no
field are passed over.
-/

namespace Switchboard.Options

/-- The error of finding a value of another kind. -/
def notWanted {α : Type} (wanted : String) (v : Json.Value) : Except Json.Error α :=
  Json.misfit (.kind v.found wanted)

/-- Reads one prefix. -/
def prefixOfValue : Json.Value → Except Json.Error Prefix
  | .string s => prefixOf s
  | v => notWanted wantedText v

/-- Reads a list of prefixes, the first fault first. -/
def prefixesOfValues : List Json.Value → Except Json.Error (List Prefix)
  | [] => .ok []
  | v :: vs => do
    let p ← prefixOfValue v
    let ps ← prefixesOfValues vs
    pure (p :: ps)

/-- Reads the value of a field. -/
def Field.ofValue (f : Field) (v : Json.Value) : Except Json.Error Setting :=
  match f, v with
  | .prefixes, .list vs => (prefixesOfValues vs).map .prefixes
  | .prefixes, v => notWanted wantedList v
  | .traceLevel, .null => .ok (.traceLevel none)
  | .traceLevel, .number n => (levelOf n).map (.traceLevel <| some ·)
  | .traceLevel, v => notWanted wantedLevel v
  | .traceFile, .null => .ok (.traceFile none)
  | .traceFile, .string s => .ok (.traceFile (some (.ofString s)))
  | .traceFile, v => notWanted wantedPath v
  | .traceAppend, .bool b => .ok (.traceAppend b)
  | .traceAppend, v => notWanted wantedBool v

/-- Sets the fields among the members of an object. -/
def ofMembers (o : Options) : List (String × Json.Value) → Except Json.Error Options
  | [] => .ok o
  | (name, v) :: ms =>
    match Field.ofName? name with
    | none => ofMembers o ms
    | some f => do
      let s ← f.ofValue v
      ofMembers (o.set s) ms

/-- Sets fields in their order from the items of a list, and tells how many items are left over. -/
def ofItems (o : Options) : List Field → List Json.Value → Except Json.Error (Options × Nat)
  | f :: fs, v :: vs => do
    let s ← f.ofValue v
    ofItems (o.set s) fs vs
  | _, vs => .ok (o, vs.length)

/-- Reads options from a value. -/
def ofValue (v : Json.Value) : Except Json.Error Options :=
  match v with
  | .object members => ofMembers {} members
  | .list items => do
    let (o, left) ← ofItems {} Field.all items
    if left = 0 then pure o else Json.misfit (.tooManyItems items.length)
  | v => notWanted wantedOptions v

end Switchboard.Options
