/-!
# How deep a pattern is

Patterns nest. Each repetition, group and set puts its parts one deeper, and so does each row of two
or more parts: a sequence, a choice, the members of a set. A pattern deeper than `maxDepth` is
refused. The records here follow the depth while a pattern is read from left to right, for the parts
that are open.
-/

namespace Switchboard.Pattern

/-- The greatest depth of a pattern. -/
def maxDepth : Nat := 250

/-- Parts side by side: how many, and the depth of the deepest. -/
structure Run where
  parts : Nat := 0
  deepest : Nat := 0
  deriving DecidableEq, Repr

namespace Run

def add (r : Run) (depth : Nat) : Run :=
  ⟨r.parts + 1, max r.deepest depth⟩

/-- The depth of a run. A single part stands for itself. -/
def depth (r : Run) : Nat :=
  if r.parts ≤ 1 then r.deepest else r.deepest + 1

end Run

/-- What an open group holds so far, or the whole pattern: the branch that is being read and those
before it. -/
structure Level where
  run : Run := {}
  /-- The depth of the part that a repetition would take. -/
  last : Option Nat := none
  /-- The depth of the deepest branch before the last bar. -/
  earlier : Option Nat := none
  deriving DecidableEq, Repr

namespace Level

/-- Adds a part that may be repeated. -/
def add (l : Level) (depth : Nat) : Level :=
  { l with run := l.run.add depth, last := some depth }

/-- Adds a part that may not be repeated. -/
def addMark (l : Level) : Level :=
  { l with run := l.run.add 0, last := none }

/-- Repeats the last part; `none` if there is none to repeat. -/
def repeated? (l : Level) : Option Level :=
  l.last.map fun depth =>
    { l with
      run := { l.run with deepest := max l.run.deepest (depth + 1) }
      last := some (depth + 1) }

/-- Begins another branch. -/
def bar (l : Level) : Level where
  earlier := some (max (l.earlier.getD 0) l.run.depth)

def depth (l : Level) : Nat :=
  match l.earlier with
  | none => l.run.depth
  | some deepest => max deepest l.run.depth + 1

end Level

/-- What an open set holds so far: the members since the last operator, and what is to its left. -/
structure Bracket where
  run : Run := {}
  /-- The depth of what stands to the left of the last operator. -/
  left : Option Nat := none
  deriving DecidableEq, Repr

namespace Bracket

def add (b : Bracket) (depth : Nat) : Bracket :=
  { b with run := b.run.add depth }

/-- Operators group to the left, each with what is on both sides of it. -/
def depth (b : Bracket) : Nat :=
  match b.left with
  | none => b.run.depth
  | some left => max left b.run.depth + 1

/-- An operator after the members so far. -/
def operator (b : Bracket) : Bracket where
  left := some b.depth

end Bracket

end Switchboard.Pattern
