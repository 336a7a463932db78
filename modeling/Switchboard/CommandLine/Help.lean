import Switchboard.CommandLine.Parse

/-!
# Help

What a program says of itself: its flags, a line each, when it is asked for help, and its version.
The lines have two columns. On the left is how a flag is written, on the right what it is for.
-/

namespace Switchboard.CommandLine

/-! ## Flags -/

/-- What a flag is for. -/
def Flag.purpose : Flag → String
  | .library =>
    "Path to the OPAL shared library. Defaults to OPAL_LIBRARY_PATH or the platform library name"
  | .endpoint => "Endpoint prefixes to create (e.g. `pc`, `sip`, `h323`)"
  | .traceLevel => "Native trace level"
  | .traceFile => "Native trace file"
  | .timeout => "Milliseconds to wait for each message"
  | .idleLimit => "Stop after this many consecutive polls without a message (0 = never)"
  | .listConstants => "Print the constant table and exit"

/-- The number that stands for a flag which is not given, if there is one. -/
def Flag.default? : Flag → Option Nat
  | .timeout => some 1000
  | .idleLimit => some 0
  | _ => none

/-- A line of help. -/
structure Entry where
  /-- The letter that may be written in place of the flag. -/
  letter : Option Char
  /-- How the flag is written. -/
  usage : String
  purpose : String
  deriving DecidableEq, Repr

/-- The line of a flag. -/
def Flag.entry (f : Flag) : Entry :=
  ⟨none, f.usage,
    match f.default? with
    | some n => f.purpose ++ " [default: " ++ Numeral.decimal n ++ "]"
    | none => f.purpose⟩

/-- The lines of all that a program accepts. Help comes after the flags, the version last. -/
def Grammar.entries (g : Grammar) : List Entry :=
  g.flags.map Flag.entry ++ [⟨some 'h', "--help", "Print help"⟩] ++
    if g.hasVersion then [⟨some 'V', "--version", "Print version"⟩] else []

/-! ## Columns -/

/-- The left column of a line. A flag without a letter has a gap where the letter would be. -/
def Entry.left (e : Entry) : String :=
  match e.letter with
  | some c => "  -" ++ c.toString ++ ", " ++ e.usage
  | none => "      " ++ e.usage

/-- A line whose right column begins at least two blanks after a left column of `width`. -/
def Entry.line (width : Nat) (e : Entry) : String :=
  e.left ++ String.ofList (List.replicate (width + 2 - e.left.length) ' ') ++ e.purpose

/-- Lines with their right columns below one another. -/
def Entry.lines (es : List Entry) : List String :=
  es.map (line ((es.map (·.left.length)).foldl max 0))

/-! ## Programs -/

/-- What a program says of itself. -/
structure About where
  /-- The name by which it is called. -/
  command : String
  purpose : String
  /-- The name that has a version. -/
  package : String
  version : String
  deriving DecidableEq, Repr

/-- The help of a program. -/
def About.help (a : About) (g : Grammar) : List String :=
  [a.purpose, "", "Usage: " ++ a.command ++ " [OPTIONS]", "", "Options:"] ++ Entry.lines g.entries

/-- The version of a program. -/
def About.versionLine (a : About) : String :=
  a.package ++ " " ++ a.version

end Switchboard.CommandLine
