import Switchboard.LogFilter.FieldValue
import Switchboard.Notice
import Switchboard.Text.Utf8

/-!
# Log filters

Which notices are shown. A filter is a list of directives between commas: a level (`debug`), a
target (`opal`), or both (`opal=debug`). Between the target and the level, brackets may bind a
directive to a span, or braces in brackets may ask for a field. As nothing here runs inside a span,
a directive that is bound to one, or to the value of a field, shows nothing. A directive that asks
for a field is about the notices that have it; every notice has one field, its message.

Among the directives that are about a notice, the one with the longest target decides; of two with
the same target, the one that asks for a field. A filter without directives shows notices from
`info` up.
-/

namespace Switchboard

namespace LogFilter

/-- Why a directive is no directive. -/
inductive Fault
  | directive
  | level
  | value (why : Pattern.Fault)
  deriving DecidableEq, Repr

def Fault.message : Fault → String
  | .directive => "invalid filter directive"
  | .level =>
    "error parsing level filter: expected one of \"off\", \"error\", \"warn\", \"info\", " ++
      "\"debug\", \"trace\", or a number 0-5"
  | .value why => "invalid field filter: " ++ why.message

/-- A directive: the notices of a target, up to a rank. -/
structure Directive where
  target : Option String
  /-- The field that a notice has to have. -/
  field : Option String
  rank : Nat
  /-- Whether the directive holds inside a span only. -/
  bound : Bool
  deriving DecidableEq, Repr

/-! ## Reading -/

/-- The rank of a level by its name, in any case. -/
def rankOfName? (name : String) : Option Nat :=
  if name = "" ∨ name = "error" then some 1
  else if name = "warn" then some 2
  else if name = "info" then some 3
  else if name = "debug" then some 4
  else if name = "trace" then some 5
  else if name = "off" then some 0
  else none

/-- The rank that a text stands for: a number up to 5, or the name of a level. -/
def rank? (s : List Char) : Option Nat :=
  let digits := match s with
    | '+' :: ds => ds
    | ds => ds
  match Numeral.decimal? digits with
  | some n => if n ≤ 5 then some n else none
  | none => rankOfName? (String.ofList (s.map Char.toLower))

/-- Where the reading of a directive is. The numbers are places in its text, in bytes. -/
inductive Stage
  | start
  | word (first : Nat)
  | span (first : Nat)
  | field (first : Nat)
  | fields
  | target
  | level (first : Nat)
  deriving DecidableEq, Repr

/-- A directive as far as it was read. -/
structure Draft where
  stage : Stage := .start
  target : Option (List Char) := none
  field : Option (List Char) := none
  bound : Bool := false

/-- The part of a text from one place up to another. -/
def cut (text : List Char) (first last : Nat) : List Char :=
  Utf8.dropBytes first (Utf8.takeBytes last text)

/-- Whether a directive without a bracket may begin with a character. -/
def mayBegin (c : Char) : Bool :=
  Text.isAlphanumeric c || c == '-' || c == ':' || c == '_'

/-- Takes a field between braces: a name, or a name with a value after an equals sign. Whatever
follows a second equals sign is ignored. -/
def Draft.takeField (p : Draft) (field : List Char) : Except Fault Draft :=
  let name := field.takeWhile (· ≠ '=')
  if field = [] then .error .directive
  else if name = field then .ok { p with stage := .fields, field := some field }
  else
    match valueFault? ((field.drop (name.length + 1)).takeWhile (· ≠ '=')) with
    | some why => .error (.value why)
    | none => .ok { p with stage := .fields, bound := true }

/-- Reads the character at place `i`. -/
def Draft.step (text : List Char) (p : Draft) (i : Nat) (c : Char) : Except Fault Draft :=
  match p.stage with
  | .start =>
    if c = '[' then .ok { p with stage := .span (i + 1) }
    else if mayBegin c then .ok { p with stage := .word i }
    else .error .directive
  | .word n =>
    if c = '=' then .ok { p with target := some (cut text n i), stage := .level (i + 1) }
    else if c = '[' then .ok { p with target := some (cut text n i), stage := .span (i + 1) }
    else .ok p
  | .span n =>
    if c = ']' then .ok { p with stage := .target, bound := true }
    else if c = '\x7B' then
      .ok { p with stage := .field (i + 1), bound := p.bound || cut text n i ≠ [] }
    else .ok p
  | .field n =>
    if c = '\x7D' then p.takeField (cut text n i) else .ok p
  | .fields => if c = ']' then .ok { p with stage := .target } else .error .directive
  | .target => if c = '=' then .ok { p with stage := .level (i + 1) } else .error .directive
  | .level _ => .ok p

/-- Reads characters from place `i` on. -/
def Draft.steps (text : List Char) (p : Draft) (i : Nat) : List Char → Except Fault Draft
  | [] => .ok p
  | c :: cs => do Draft.steps text (← p.step text i c) (i + Utf8.size c) cs

/-- The directive that was read, at the end of its text. A target alone shows everything of it. -/
def Draft.finish (text : List Char) (p : Draft) : Except Fault Directive :=
  let made (target : Option (List Char)) (rank : Nat) : Directive :=
    ⟨target.map String.ofList, p.field.map String.ofList, rank, p.bound⟩
  match p.stage with
  | .word n =>
    let word := Utf8.dropBytes n text
    if word = [] then .ok (made none 5)
    else
      match rank? word with
      | some rank => .ok (made none rank)
      | none => .ok (made (some word) 5)
  | .level n =>
    let word := Utf8.dropBytes n text
    if word = [] then .ok (made p.target 5)
    else
      match rank? word with
      | some rank => .ok (made p.target rank)
      | none => .error .level
  | .target => .ok (made p.target 5)
  | _ => .error .directive

/-- A text without the blanks at its ends. -/
def trim (s : List Char) : List Char :=
  ((s.dropWhile Text.isBlank).reverse.dropWhile Text.isBlank).reverse

/-- Reads one directive. The blanks at its ends are not read, and places are counted from the first
character that is; but they are places in the whole text. After blanks in front, every part is cut
as many bytes to the left of where it was read. -/
def directive (text : List Char) : Except Fault Directive := do
  let p ← Draft.steps text {} 0 (trim text)
  p.finish text

/-- The parts of a text between commas. -/
def parts : List Char → List (List Char)
  | [] => [[]]
  | c :: cs =>
    if c = ',' then [] :: parts cs
    else
      match parts cs with
      | [] => [[c]]
      | w :: ws => (c :: w) :: ws

end LogFilter

/-- Which notices are shown. -/
structure LogFilter where
  directives : List LogFilter.Directive
  deriving DecidableEq, Repr

namespace LogFilter

/-- Reads a filter, with a line for each directive that is ignored. -/
def read (text : String) : LogFilter × List String :=
  let texts := (parts text.toList).filter (· ≠ [])
  let found := texts.map fun t => (t, directive t)
  let good := found.filterMap fun x => x.2.toOption
  let bad := found.filterMap fun x =>
    match x.2 with
    | .ok _ => none
    | .error e => some ("ignoring `" ++ String.ofList x.1 ++ "`: " ++ e.message)
  (⟨if good.isEmpty then [⟨none, none, 3, false⟩] else good⟩, bad)

/-- The field that every notice has. -/
def messageField : String := "message"

/-- Whether a directive is about a notice. -/
def Directive.covers (d : Directive) (n : Notice) : Bool :=
  !d.bound && d.target.all (fun t => t.toList.isPrefixOf n.target.toList) &&
    d.field.all (· = messageField)

/-- How specific a directive is. Any longer target outweighs a field. -/
def Directive.weight (d : Directive) : Nat :=
  2 * d.target.elim 0 (fun t => t.utf8ByteSize + 1) + d.field.elim 0 fun _ => 1

/-- Of two directives the one that decides: the more specific, or else the later. -/
def Directive.stronger (d e : Directive) : Directive :=
  if e.weight < d.weight then d else e

/-- Whether a notice is shown. -/
def shows (f : LogFilter) (n : Notice) : Bool :=
  match f.directives.filter (·.covers n) with
  | [] => false
  | d :: ds => n.level.rank ≤ (ds.foldl Directive.stronger d).rank

end LogFilter

end Switchboard
