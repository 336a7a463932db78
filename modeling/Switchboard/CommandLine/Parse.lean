import Switchboard.CommandLine.Flag

/-!
# Parsing a command line

`parse` reads the words of a command line as settings. A value is only looked at when the next flag
comes or the line ends, so a word that has no place is reported before a wrong value to its left.
-/

namespace Switchboard.CommandLine

/-- What a program accepts. -/
structure Grammar where
  flags : List Flag
  /-- Whether the program tells its version. -/
  hasVersion : Bool
  deriving DecidableEq, Repr

/-- The state of reading a line: the settings so far, the latest first, the flags they are for, and
the flag that waits for its value or for the check of its value. -/
structure Progress where
  settings : List Setting := []
  seen : List Flag := []
  waiting : Option (Flag × Option String) := none
  deriving DecidableEq, Repr

/-- Adds a flag with its value. -/
def Progress.store (p : Progress) (f : Flag) (value : String) : Except Fault Progress :=
  if f ∈ p.seen ∧ !f.isRepeatable then .error (.repeated f)
  else do
    let s ← f.read value
    pure { p with settings := s :: p.settings, seen := f :: p.seen }

/-- Checks the flag that waits. -/
def Progress.settle (p : Progress) : Except Fault Progress :=
  match p.waiting with
  | none => .ok p
  | some (f, none) => .error (.noValue f)
  | some (f, some value) => Progress.store { p with waiting := none } f value

/-- The part of a word before its first equals sign, and the part after it. -/
def splitEquals : List Char → List Char × Option (List Char)
  | [] => ([], none)
  | c :: cs =>
    if c = '=' then ([], some cs)
    else
      let (name, value) := splitEquals cs
      (c :: name, value)

/-- A word with two dashes, without the dashes. -/
def Progress.long (g : Grammar) (p : Progress) (word : List Char) : Except Fault Progress :=
  let (name, value) := splitEquals word
  let name := String.ofList name
  let value := value.map String.ofList
  match g.flags.find? (fun f => f.name = name), value with
  | some f, none =>
    match f.valueName? with
    | some _ => p.settle.map fun p => { p with waiting := some (f, none) }
    | none => p.settle.bind fun p => p.store f ""
  | some f, some v =>
    match f.valueName? with
    | some _ => p.settle.bind fun p => p.store f v
    | none => .error (.needlessValue name v)
  | none, value =>
    if name = "help" ∨ (name = "version" ∧ g.hasVersion) then
      match value with
      | some v => .error (.needlessValue name v)
      | none => p.settle.bind fun _ => .error (if name = "help" then .help else .version)
    else .error (.unexpected ("--" ++ name))

/-- A word with one dash, without the dash: letters, of which the first one decides. -/
def Progress.short (g : Grammar) (p : Progress) (c : Char) : Except Fault Progress :=
  if c = 'h' then p.settle.bind fun _ => .error .help
  else if c = 'V' ∧ g.hasVersion then p.settle.bind fun _ => .error .version
  else .error (.unexpected (String.ofList ['-', c]))

/-- Any other word: the value of the flag that waits for one. -/
def Progress.plain (p : Progress) (word : String) : Except Fault Progress :=
  match p.waiting with
  | some (f, none) => .ok { p with waiting := some (f, some word) }
  | _ => .error (.unexpected word)

/-- Reads the words from the first to the last. After two dashes alone no word has a place. -/
def Progress.words (g : Grammar) (p : Progress) : List String → Except Fault Progress
  | [] => p.settle
  | word :: rest =>
    match word.toList with
    | ['-', '-'] =>
      match rest with
      | [] => p.settle
      | w :: _ => .error (.unexpected w)
    | '-' :: '-' :: cs => (p.long g cs).bind fun p => p.words g rest
    | '-' :: c :: _ => (p.short g c).bind fun p => p.words g rest
    | _ => (p.plain word).bind fun p => p.words g rest

/-- The settings of a command line, in their order. -/
def parse (g : Grammar) (words : List String) : Except Fault (List Setting) :=
  (Progress.words g {} words).map fun p => p.settings.reverse

end Switchboard.CommandLine
