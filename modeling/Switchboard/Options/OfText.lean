import Switchboard.Json.Skip
import Switchboard.Options.Field

/-!
# Options from JSON texts

`Options.parse` reads options straight from a text, so that whatever is wrong first in the text
gives the error, be it the text or a value. Fields may come in any order, each once.
-/

namespace Switchboard.Options

/-- Reads one prefix. -/
def prefixAt (s : List Char) : Except Json.Error (Prefix × List Char) :=
  match s with
  | '\x22' :: rest => do
    let (name, rest) ← Json.string rest
    let p ← prefixOf name
    pure (p, rest)
  | s => Json.notWanted wantedText s

/-- Reads a value that may be null. -/
def orNull {α : Type} (read : List Char → Except Json.Error (α × List Char)) (s : List Char) :
    Except Json.Error (Option α × List Char) :=
  match s with
  | 'n' :: rest => (Json.literal ['u', 'l', 'l'] rest).map fun rest => (none, rest)
  | s => (read s).map fun (x, rest) => (some x, rest)

/-- Reads a trace level. -/
def levelAt (s : List Char) : Except Json.Error (UInt32 × List Char) :=
  match s with
  | [] => Json.notWanted wantedLevel []
  | c :: rest =>
    if c = '-' ∨ (Numeral.digit? c).isSome then do
      let (n, rest) ← Json.number (c :: rest)
      let level ← levelOf n
      pure (level, rest)
    else Json.notWanted wantedLevel (c :: rest)

/-- Reads a path. -/
def pathAt (s : List Char) : Except Json.Error (Path × List Char) :=
  match s with
  | '\x22' :: rest => (Json.string rest).map fun (name, rest) => (.ofString name, rest)
  | s => Json.notWanted wantedPath s

/-- Reads a truth value. -/
def boolAt (s : List Char) : Except Json.Error (Bool × List Char) :=
  match s with
  | 't' :: rest => (Json.literal ['r', 'u', 'e'] rest).map fun rest => (true, rest)
  | 'f' :: rest => (Json.literal ['a', 'l', 's', 'e'] rest).map fun rest => (false, rest)
  | s => Json.notWanted wantedBool s

/-- Reads a list of prefixes. -/
def prefixesAt (s : List Char) : Except Json.Error (List Prefix × List Char) :=
  match s with
  | '[' :: rest => Json.items prefixAt true rest
  | s => Json.notWanted wantedList s

/-- Reads the value of a field. -/
def Field.readAt (f : Field) (s : List Char) : Except Json.Error (Setting × List Char) :=
  match f with
  | .prefixes => (prefixesAt s).map fun (ps, rest) => (.prefixes ps, rest)
  | .traceLevel => (orNull levelAt s).map fun (level, rest) => (.traceLevel level, rest)
  | .traceFile => (orNull pathAt s).map fun (file, rest) => (.traceFile file, rest)
  | .traceAppend => (boolAt s).map fun (append, rest) => (.traceAppend append, rest)

/-- Reads the fields of a list in their order, from after its opening bracket, up to and including
its closing one. -/
def listAt (o : Options) (first : Bool) : List Field → List Char →
    Except Json.Error (Options × List Char)
  | [], s => (Json.closeList s).map fun rest => (o, rest)
  | f :: fs, s =>
    match Json.nextItem first s with
    | .error e => .error e
    | .ok (.closed rest) => .ok (o, rest)
    | .ok (.more s) => do
      let (x, rest) ← f.readAt s
      listAt (o.set x) false fs rest

/-- Reads one member of an object, from the opening quote of its name. `seen` are the fields read
before; the member is `none` if it is no field. -/
def memberAt (seen : List Field) (s : List Char) :
    Except Json.Error (Option (Field × Setting) × List Char) := do
  let (name, rest) ← Json.string s.tail
  match Field.ofName? name with
  | none => (Json.skipValue (← Json.colon rest)).map fun rest => (none, rest)
  | some f =>
    if f ∈ seen then Json.misfit (.repeatedField f.name)
    else do
      let (x, rest) ← f.readAt (Json.skipBlanks (← Json.colon rest))
      pure (some (f, x), rest)

/-- Reads the members of an object, from after its opening bracket, up to and including its closing
one. -/
def membersAt (o : Options) (seen : List Field) (first : Bool) (s : List Char) :
    Except Json.Error (Options × List Char) :=
  match Json.nextMember first s with
  | .error e => .error e
  | .ok (.closed rest) => .ok (o, rest)
  | .ok (.more t) =>
    match memberAt seen t with
    | .error e => .error e
    | .ok (m, rest) =>
      if _h : rest.length < s.length then
        match m with
        | none => membersAt o seen false rest
        | some (f, x) => membersAt (o.set x) (f :: seen) false rest
      else Json.malformed .endInObject
termination_by s.length

/-- Reads options at some place of a text. -/
def readAt (s : List Char) : Except Json.Error (Options × List Char) :=
  match s with
  | '[' :: rest => listAt {} true Field.all rest
  | '\x7B' :: rest => membersAt {} [] true rest
  | s => Json.notWanted wantedOptions s

/-- Reads a text as options. -/
def parse (text : String) : Except Json.Error Options := do
  let (o, rest) ← readAt (Json.skipBlanks text.toList)
  Json.atEnd rest
  pure o

end Switchboard.Options
