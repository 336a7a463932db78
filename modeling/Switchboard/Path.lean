import Switchboard.Text.Quoted

/-!
# Paths

A path is any list of bytes. Two paths are the same place as far as their spelling tells when they
have the same components: repeated and trailing slashes do not count, nor does a dot that is not the
first component of a relative path.
-/

namespace Switchboard

/-- A path of the file system. -/
structure Path where
  bytes : List UInt8
  deriving DecidableEq, Repr

namespace Path

/-- The path that a text spells. -/
def ofString (s : String) : Path :=
  ⟨Utf8.encode s.toList⟩

/-- The text of a path, if its bytes are UTF-8. -/
def text? (p : Path) : Option String :=
  (Utf8.decode? p.bytes).map String.ofList

/-- A path between quotes. -/
def quoted (p : Path) : String :=
  Text.Style.text.quoteBytes p.bytes

def slash : UInt8 := 0x2F

def dot : UInt8 := 0x2E

/-! ## Components -/

/-- A component of a path: the root, a leading dot, two dots, or a name. -/
inductive Component
  | root
  | here
  | up
  | name (bytes : List UInt8)
  deriving DecidableEq, Repr

/-- The stretches of a byte list between slashes, empty ones included. -/
def stretches : List UInt8 → List (List UInt8)
  | [] => [[]]
  | b :: bs =>
    if b = slash then [] :: stretches bs
    else
      match stretches bs with
      | [] => [[b]]
      | w :: ws => (b :: w) :: ws

/-- What a stretch adds to the components; empty stretches and dots add nothing. -/
def component? (stretch : List UInt8) : Option Component :=
  if stretch = [] ∨ stretch = [dot] then none
  else if stretch = [dot, dot] then some .up
  else some (.name stretch)

/-- How a path begins: at the root, at an explicit dot, or neither. -/
def start? (p : Path) : Option Component :=
  if p.bytes.head? = some slash then some .root
  else if (stretches p.bytes).head? = some [dot] then some .here
  else none

def components (p : Path) : List Component :=
  p.start?.toList ++ (stretches p.bytes).filterMap component?

/-- Whether two paths have the same components. -/
def sameAs (p q : Path) : Bool :=
  p.components = q.components

end Path

end Switchboard
