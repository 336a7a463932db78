import Switchboard.Pattern.Atom
import Switchboard.Pattern.Depth
import Switchboard.Text.Alphanumeric
import Switchboard.Text.Blank

/-!
# Well-formed patterns

A pattern is a regular expression. `fault?` tells whether a text is a pattern that can be made into
an automaton, and if not, why. The text is read from left to right, one character a step; where
several open things nest, the state keeps them from the innermost to the outermost.
-/

namespace Switchboard.Pattern

/-- Why a text is no pattern. -/
inductive Fault
  /-- It is not well formed, too deep, or asks for what there are no tables for. -/
  | malformed
  /-- It asks for edges of words in Unicode, which an automaton does not know. -/
  | wordEdge
  deriving DecidableEq, Repr

def Fault.message : Fault → String
  | .malformed => "error building NFA"
  | .wordEdge =>
    "unsupported regex feature for DFAs: cannot build DFAs for regexes with Unicode word " ++
      "boundaries; switch to ASCII word boundaries, or heuristically enable Unicode word " ++
      "boundaries or use a different regex engine"

/-! ## The state of reading -/

/-- What an escape is read for. -/
inductive Purpose
  /-- A part outside of sets. -/
  | part
  /-- A member of a set, or the lower bound of a range. -/
  | member
  /-- The upper bound of a range. -/
  | upper (lower : Atom)
  deriving DecidableEq, Repr

/-- What the next character is read as. -/
inductive Mode
  /-- A part outside of sets. -/
  | part
  /-- The same after a repetition, which a question mark makes reluctant. -/
  | repeated
  /-- The beginning of a group. -/
  | opened
  /-- The name of a group; its characters so far, the last one first. -/
  | name (seen : List Char)
  /-- Switches of a group; their letters so far, the last one first. -/
  | switches (seen : List Char)
  /-- The character after a backslash. -/
  | escape (purpose : Purpose)
  /-- A digit of a code point: how many are still to come, and whether there are two in all. -/
  | digit (purpose : Purpose) (byte : Bool) (left value : Nat)
  /-- The beginning of a set, where a caret negates. -/
  | setOpened
  /-- The first members of a set, among which a dash stands for itself; so does a bracket, if there
  is no member yet. -/
  | setFirst (empty : Bool)
  /-- A member of a set. -/
  | set
  /-- What follows a member of a set, which may begin a range. -/
  | member (a : Atom)
  /-- The upper bound of a range. -/
  | upper (lower : Atom)
  deriving DecidableEq, Repr

/-- Whether blanks and comments may stand before the character that is read. -/
def Mode.skips : Mode → Bool
  | .name _ | .switches _ | .escape _ => false
  | _ => true

/-- A pattern as far as it was read. -/
structure State where
  mode : Mode := .part
  switches : Switches := {}
  /-- What the innermost open group holds. -/
  level : Level := {}
  /-- What was around the open groups, with the switches there. -/
  outer : List (Switches × Level) := []
  /-- The open sets. -/
  brackets : List Bracket := []
  /-- The names of groups so far. -/
  names : List (List Char) := []
  comment : Bool := false
  /-- How many of the next characters were read ahead. -/
  ahead : Nat := 0
  /-- Whether there is an edge of words in Unicode. -/
  wordEdge : Bool := false

namespace State

/-! ## Groups -/

def openGroup (s : State) : State :=
  { s with mode := .part, outer := (s.switches, s.level) :: s.outer, level := {} }

/-- Closes the innermost group. The switches are again what they were before it. -/
def closeGroup (s : State) : Option State :=
  match s.outer with
  | [] => none
  | (switches, level) :: outer =>
    some { s with mode := .part, switches, level := level.add (s.level.depth + 1), outer }

/-- Whether a character may stand in the name of a group. -/
def mayName (first : Bool) (c : Char) : Bool :=
  c == '_' || if first then Text.isLetter c else c ∈ ['.', '[', ']'] || Text.isAlphanumeric c

def nameStep (s : State) (seen : List Char) (c : Char) : Option State :=
  if c = '>' then
    if seen = [] ∨ seen ∈ s.names then none
    else some { s.openGroup with names := seen :: s.names }
  else if mayName (seen = []) c then some { s with mode := .name (c :: seen) }
  else none

/-- Switches end in a colon, which opens a group, or in a parenthesis; then they hold for the rest
of the group around them. -/
def switchesStep (s : State) (seen : List Char) (c : Char) : Option State :=
  let switches := s.switches.set seen.reverse
  if c = ':' ∨ c = ')' then
    if seen.head? = some '-' then none
    else if c = ':' then some { s.openGroup with switches }
    else if seen = [] then none
    else some { s with mode := .part, switches, level := s.level.addMark }
  else if (c = '-' ∨ c ∈ Switches.letters) ∧ c ∉ seen then
    some { s with mode := .switches (c :: seen) }
  else none

/-! ## Atoms and sets -/

/-- Adds an atom outside of sets. -/
def addPart (s : State) (a : Atom) : Option State :=
  let added := { s with mode := .part, level := s.level.add 0 }
  match a with
  | .char c byte => if s.switches.allowsChar c byte then some added else none
  | .kind negated => if s.switches.allowsKind negated then some added else none
  | .edge word => some { added with wordEdge := s.wordEdge || (word && s.switches.unicode) }

/-- Adds a member of some depth to the innermost set. -/
def addDepth (s : State) (depth : Nat) : State :=
  { s with mode := .set, brackets := s.brackets.modifyHead (·.add depth) }

/-- Adds an atom to the innermost set. -/
def addMember (s : State) (a : Atom) : Option State :=
  match a with
  | .char c _ => if s.switches.allowsMember c then some (s.addDepth 0) else none
  | .kind negated => if s.switches.allowsKind negated then some (s.addDepth 0) else none
  | .edge _ => none

/-- Adds a range to the innermost set. -/
def addRange (s : State) (lower upper : Atom) : Option State :=
  match lower, upper with
  | .char c _, .char d _ =>
    if c ≤ d ∧ s.switches.allowsMember c ∧ s.switches.allowsMember d then some (s.addDepth 0)
    else none
  | _, _ => none

/-- Uses an atom for its purpose. -/
def use (s : State) (purpose : Purpose) (a : Atom) : Option State :=
  match purpose with
  | .part => s.addPart a
  | .member => some { s with mode := .member a }
  | .upper lower => s.addRange lower a

def openSet (s : State) : State :=
  { s with mode := .setOpened, brackets := {} :: s.brackets }

/-- Closes the innermost set. It is a member of the set around it, or a part. -/
def closeSet (s : State) : Option State :=
  match s.brackets with
  | [] => none
  | [b] => some { s with mode := .part, level := s.level.add (b.depth + 1), brackets := [] }
  | b :: brackets => some ({ s with brackets }.addDepth (b.depth + 1))

def escapeStep (s : State) (purpose : Purpose) (c : Char) (next : Option Char) : Option State :=
  match escape? c next with
  | none => none
  | some (.atom a) => s.use purpose a
  | some (.digits count) => some { s with mode := .digit purpose (count = 2) count 0 }

def digitStep (s : State) (purpose : Purpose) (byte : Bool) (left value : Nat) (c : Char) :
    Option State :=
  match Numeral.hexDigit? c with
  | none => none
  | some d =>
    let value := value * 16 + d
    if left ≤ 1 then
      if value.isValidChar then s.use purpose (.char (Char.ofNat value) byte) else none
    else some { s with mode := .digit purpose byte (left - 1) value }

/-! ## Steps -/

/-- Reads a character outside of sets. Counted repetitions are never well formed here. -/
def partStep (s : State) (c : Char) : Option State :=
  match c with
  | '(' => some { s with mode := .opened }
  | ')' => s.closeGroup
  | '|' => some { s with mode := .part, level := s.level.bar }
  | '[' => some s.openSet
  | '?' | '*' | '+' => s.level.repeated?.map fun level => { s with mode := .repeated, level }
  | '\x7B' => none
  | '\\' => some { s with mode := .escape .part }
  | '.' =>
    if s.switches.allowsDot then some { s with mode := .part, level := s.level.add 0 } else none
  | '^' | '$' => s.addPart (.edge false)
  | c => s.addPart (.char c false)

/-- Reads the first character of a group; `rest` comes after it. -/
def openedStep (s : State) (c : Char) (rest : List Char) : Option State :=
  if c = '?' then
    match rest with
    | 'P' :: '<' :: _ => some { s with mode := .name [], ahead := 2 }
    | '<' :: _ => some { s with mode := .name [], ahead := 1 }
    | _ => some { s with mode := .switches [] }
  else s.openGroup.partStep c

/-- Reads a character of a set; `rest` comes after it. -/
def setStep (s : State) (c : Char) (rest : List Char) : Option State :=
  if c = '[' then
    match namedSet? rest with
    | none => some s.openSet
    | some (negated, length) =>
      if s.switches.allowsNamedSet negated then some { s.addDepth 0 with ahead := length } else none
  else if c = ']' then s.closeSet
  else if c ∈ ['&', '-', '~'] ∧ rest.head? = some c then
    some { s with mode := .set, brackets := s.brackets.modifyHead Bracket.operator, ahead := 1 }
  else if c = '\\' then some { s with mode := .escape .member }
  else some { s with mode := .member (.char c false) }

def setFirstStep (s : State) (empty : Bool) (c : Char) (rest : List Char) : Option State :=
  if c = '-' then (s.addMember (.char c false)).map fun s => { s with mode := .setFirst false }
  else if c = ']' ∧ empty then s.addMember (.char c false)
  else s.setStep c rest

def setOpenedStep (s : State) (c : Char) (rest : List Char) : Option State :=
  if c = '^' then
    if s.switches.allowsNegation then some { s with mode := .setFirst true } else none
  else s.setFirstStep true c rest

/-- The first character that is neither a blank nor the mark of a comment; only one mark counts. -/
def firstSolid (marked : Bool) : List Char → Option Char
  | [] => none
  | c :: cs =>
    if Text.isBlank c then firstSolid marked cs
    else if c = '#' ∧ !marked then firstSolid true cs
    else some c

/-- The character to look at after a dash. -/
def peek (spaced : Bool) (rest : List Char) : Option Char :=
  if spaced then (firstSolid false rest).or rest.head? else rest.head?

/-- Reads what follows a member. A dash begins a range, unless the set ends there or another dash
follows. -/
def memberStep (s : State) (a : Atom) (c : Char) (rest : List Char) : Option State :=
  let next := peek s.switches.spaced rest
  if c = '-' ∧ next ≠ some ']' ∧ next ≠ some '-' then some { s with mode := .upper a }
  else (s.addMember a).bind fun s => s.setStep c rest

def upperStep (s : State) (lower : Atom) (c : Char) : Option State :=
  if c = '\\' then some { s with mode := .escape (.upper lower) }
  else s.addRange lower (.char c false)

/-- Reads a character by the mode. -/
def modeStep (s : State) (c : Char) (rest : List Char) : Option State :=
  match s.mode with
  | .part | .repeated => s.partStep c
  | .opened => s.openedStep c rest
  | .name seen => s.nameStep seen c
  | .switches seen => s.switchesStep seen c
  | .escape purpose => s.escapeStep purpose c rest.head?
  | .digit purpose byte left value => s.digitStep purpose byte left value c
  | .setOpened => s.setOpenedStep c rest
  | .setFirst empty => s.setFirstStep empty c rest
  | .set => s.setStep c rest
  | .member a => s.memberStep a c rest
  | .upper lower => s.upperStep lower c

/-- Reads a character; `rest` comes after it. -/
def step (s : State) (c : Char) (rest : List Char) : Option State :=
  if s.ahead ≠ 0 then some { s with ahead := s.ahead - 1 }
  else if s.comment then some { s with comment := c ≠ '\n' }
  else if s.mode = .repeated ∧ c = '?' then some { s with mode := .part }
  else
    let s := if s.mode = .repeated then { s with mode := .part } else s
    if s.switches.spaced ∧ s.mode.skips ∧ Text.isBlank c then some s
    else if s.switches.spaced ∧ s.mode.skips ∧ c = '#' then some { s with comment := true }
    else s.modeStep c rest

def steps (s : State) : List Char → Option State
  | [] => some s
  | c :: cs => (s.step c cs).bind fun s => s.steps cs

/-- Whether a pattern may end here. -/
def mayEnd (s : State) : Bool :=
  (s.mode = .part || s.mode = .repeated) && s.outer.isEmpty && s.level.depth ≤ maxDepth

end State

/-- Why a text is no pattern, if it is none. -/
def fault? (text : List Char) : Option Fault :=
  match State.steps {} text with
  | none => some .malformed
  | some s =>
    if !s.mayEnd then some .malformed
    else if s.wordEdge then some .wordEdge
    else none

end Switchboard.Pattern
