import Switchboard.Text.Numeral

/-!
# Atoms of patterns

The smallest parts of a pattern: characters, kinds of characters such as the digits, and edges such
as the start of the text. What is allowed hangs on the switches that are on.

There are no tables of Unicode here. With the switch `unicode` on, cases and kinds of characters
would need them, so they are refused. With it off, a pattern is about bytes; the text is UTF-8 all
the same, so whatever would match a byte beyond ASCII on its own is refused.
-/

namespace Switchboard.Pattern

/-- Switches of a pattern. -/
structure Switches where
  /-- Letters stand for both cases. -/
  caseless : Bool := false
  /-- The pattern is about characters and not about bytes. -/
  unicode : Bool := true
  /-- Blanks and comments in the pattern count for nothing. -/
  spaced : Bool := false
  deriving DecidableEq, Repr

namespace Switches

/-- The letters of all switches. Some have no say in whether a pattern is well formed. -/
def letters : List Char := ['i', 'm', 's', 'U', 'u', 'R', 'x']

/-- Turns switches on, and those after a minus sign off. -/
def set (w : Switches) (marks : List Char) : Switches :=
  let on := marks.takeWhile (· ≠ '-')
  let off := marks.dropWhile (· ≠ '-')
  let value (mark : Char) (old : Bool) : Bool :=
    if mark ∈ on then true else if mark ∈ off then false else old
  ⟨value 'i' w.caseless, value 'u' w.unicode, value 'x' w.spaced⟩

/-- Whether a character may stand on its own. `byte` says that two digits gave it. -/
def allowsChar (w : Switches) (c : Char) (byte : Bool) : Bool :=
  if w.unicode then !w.caseless else !byte || c.toNat < 0x80

/-- Whether a character may stand in a set. -/
def allowsMember (w : Switches) (c : Char) : Bool :=
  if w.unicode then !w.caseless else c.toNat < 0x80

/-- Whether a kind of characters may stand anywhere. -/
def allowsKind (w : Switches) (negated : Bool) : Bool :=
  !w.unicode && !negated

/-- Whether a set in ASCII may stand by its name in a set. -/
def allowsNamedSet (w : Switches) (negated : Bool) : Bool :=
  if w.unicode then !w.caseless else !negated

/-- Whether a set may be negated. -/
def allowsNegation (w : Switches) : Bool :=
  w.unicode

/-- Whether a dot may stand for any character. -/
def allowsDot (w : Switches) : Bool :=
  w.unicode

end Switches

/-- The smallest part of a pattern. -/
inductive Atom
  /-- A character; `byte` says that two digits gave it. -/
  | char (c : Char) (byte : Bool)
  /-- A kind of characters, or all that are not of the kind. -/
  | kind (negated : Bool)
  /-- A place between characters; `word` says that it is an edge of words. -/
  | edge (word : Bool)
  deriving DecidableEq, Repr

/-! ## Escapes -/

/-- What a backslash and a character begin. -/
inductive Escape
  | atom (a : Atom)
  /-- A code point in a fixed number of hexadecimal digits. -/
  | digits (count : Nat)
  deriving DecidableEq, Repr

/-- Characters that a backslash makes into others. -/
def controls : List (Char × Char) :=
  [('a', '\x07'), ('f', '\x0C'), ('t', '\t'), ('n', '\n'), ('r', '\r'), ('v', '\x0B')]

/-- Whether a backslash leaves a character as it is: ASCII without letters, digits and angles. -/
def standsForItself (c : Char) : Bool :=
  c.toNat < 0x80 && !c.isAlphanum && c != '<' && c != '>'

/-- Reads the character after a backslash; `next` comes after it. Properties of characters and edges
with a name in braces are never well formed here. -/
def escape? (c : Char) (next : Option Char) : Option Escape :=
  if standsForItself c then some (.atom (.char c false))
  else
    match controls.lookup c with
    | some d => some (.atom (.char d false))
    | none =>
      match c with
      | 'x' => some (.digits 2)
      | 'u' => some (.digits 4)
      | 'U' => some (.digits 8)
      | 'd' | 's' | 'w' => some (.atom (.kind false))
      | 'D' | 'S' | 'W' => some (.atom (.kind true))
      | 'A' | 'z' => some (.atom (.edge false))
      | 'B' | '<' | '>' => some (.atom (.edge true))
      | 'b' => if next = some '\x7B' then none else some (.atom (.edge true))
      | _ => none

/-- The names of the sets in ASCII. -/
def setNames : List String :=
  ["alnum", "alpha", "ascii", "blank", "cntrl", "digit", "graph", "lower", "print", "punct",
    "space", "upper", "word", "xdigit"]

/-- Reads a set by its name after an opening bracket: whether it is negated, and how many characters
were read. -/
def namedSet? : List Char → Option (Bool × Nat)
  | ':' :: cs =>
    let negated := cs.head? = some '^'
    let cs := if negated then cs.drop 1 else cs
    let name := cs.takeWhile (· ≠ ':')
    if (cs.drop name.length).take 2 = [':', ']'] ∧ String.ofList name ∈ setNames then
      some (negated, name.length + if negated then 4 else 3)
    else none
  | _ => none

end Switchboard.Pattern
