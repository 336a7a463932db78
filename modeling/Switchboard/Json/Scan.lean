import Switchboard.Json.Number
import Switchboard.Json.String

/-!
# The structure of JSON texts

Blanks, literals, and the punctuation of lists and objects. A list is walked with `nextItem`, an
object with `nextMember`; both say where the next item or member begins, or what follows the closing
bracket. The items themselves are read by a function that the caller gives (`items`), so a caller
that wants a list of something meets every error in the order of the text.
-/

namespace Switchboard.Json

/-! ## Blanks and literals -/

/-- The blanks of JSON: space, line feed, tab, carriage return. -/
def isBlank (c : Char) : Bool :=
  c == ' ' || c == '\n' || c == '\t' || c == '\r'

/-- The text from its first character that is not blank. -/
def skipBlanks (s : List Char) : List Char :=
  s.dropWhile isBlank

/-- Passes over the rest of a literal. -/
def literal : List Char → List Char → Except Error (List Char)
  | [], s => .ok s
  | _ :: _, [] => malformed .endInValue
  | c :: cs, d :: s => if c = d then literal cs s else malformed .badLiteral

/-- Checks that nothing but blanks is left. -/
def atEnd (s : List Char) : Except Error Unit :=
  match skipBlanks s with
  | [] => .ok ()
  | _ => malformed .extraText

/-! ## Lists and objects -/

/-- Where a list or an object goes on. -/
inductive Next
  /-- At an item, or at the opening quote of a name. -/
  | more (s : List Char)
  /-- After the closing bracket. -/
  | closed (s : List Char)

/-- The next item of a list; `first` tells that none was read yet. -/
def nextItem (first : Bool) (s : List Char) : Except Error Next :=
  match skipBlanks s with
  | [] => malformed .endInList
  | ']' :: rest => .ok (.closed rest)
  | c :: rest =>
    if first then .ok (.more (c :: rest))
    else if c = ',' then
      match skipBlanks rest with
      | [] => malformed .endInValue
      | ']' :: _ => malformed .commaAtEnd
      | s => .ok (.more s)
    else malformed .noListEnd

/-- The start of a name, after a comma or at the beginning of an object. -/
def nameStart : List Char → Except Error Next
  | [] => malformed .endInValue
  | '\x22' :: rest => .ok (.more ('\x22' :: rest))
  | '\x7D' :: _ => malformed .commaAtEnd
  | _ => malformed .keyNotString

/-- The next member of an object; `first` tells that none was read yet. -/
def nextMember (first : Bool) (s : List Char) : Except Error Next :=
  match skipBlanks s with
  | [] => malformed .endInObject
  | '\x7D' :: rest => .ok (.closed rest)
  | c :: rest =>
    if c = ',' ∧ !first then nameStart (skipBlanks rest)
    else if first then nameStart (c :: rest)
    else malformed .noObjectEnd

/-- Passes over the colon between a name and its value. -/
def colon (s : List Char) : Except Error (List Char) :=
  match skipBlanks s with
  | [] => malformed .endInObject
  | ':' :: rest => .ok rest
  | _ => malformed .noColon

/-- Checks that a list of which all wanted items were read ends here. -/
def closeList (s : List Char) : Except Error (List Char) :=
  match skipBlanks s with
  | [] => malformed .endInList
  | ']' :: rest => .ok rest
  | ',' :: rest =>
    match skipBlanks rest with
    | ']' :: _ => malformed .commaAtEnd
    | _ => malformed .extraText
  | _ => malformed .extraText

/-- Reads items up to the closing bracket, from after the opening one. -/
def items {α : Type} (item : List Char → Except Error (α × List Char)) (first : Bool)
    (s : List Char) : Except Error (List α × List Char) :=
  match nextItem first s with
  | .error e => .error e
  | .ok (.closed rest) => .ok ([], rest)
  | .ok (.more t) =>
    match item t with
    | .error e => .error e
    | .ok (x, rest) =>
      if _h : rest.length < s.length then
        match items item false rest with
        | .error e => .error e
        | .ok (xs, rest) => .ok (x :: xs, rest)
      else malformed .endInList
termination_by s.length

/-- Reads a member: its name, from the opening quote, the colon, and its value. -/
def member {α : Type} (value : List Char → Except Error (α × List Char)) (s : List Char) :
    Except Error ((String × α) × List Char) := do
  let (name, rest) ← string s.tail
  let (x, rest) ← value (skipBlanks (← colon rest))
  pure ((name, x), rest)

/-- Reads the members of an object up to the closing bracket, from after the opening one. -/
def members {α : Type} (value : List Char → Except Error (α × List Char)) (first : Bool)
    (s : List Char) : Except Error (List (String × α) × List Char) :=
  match nextMember first s with
  | .error e => .error e
  | .ok (.closed rest) => .ok ([], rest)
  | .ok (.more t) =>
    match member value t with
    | .error e => .error e
    | .ok (m, rest) =>
      if _h : rest.length < s.length then
        match members value false rest with
        | .error e => .error e
        | .ok (ms, rest) => .ok (m :: ms, rest)
      else malformed .endInObject
termination_by s.length

/-! ## Looking at a value that is not the one wanted -/

/-- What stands at some place of a text. Scalars are read to their end, so that their own errors
come first; of a list or an object the opening bracket is enough. -/
def foundAt (s : List Char) : Except Error Found :=
  match s with
  | [] => malformed .endInValue
  | 'n' :: rest => (literal ['u', 'l', 'l'] rest).map fun _ => .null
  | 't' :: rest => (literal ['r', 'u', 'e'] rest).map fun _ => .bool true
  | 'f' :: rest => (literal ['a', 'l', 's', 'e'] rest).map fun _ => .bool false
  | '\x22' :: rest => (string rest).map fun x => .string x.1
  | '[' :: _ => .ok .list
  | '\x7B' :: _ => .ok .object
  | c :: rest =>
    if c = '-' ∨ (Numeral.digit? c).isSome then (number (c :: rest)).map fun x => x.1.found
    else malformed .noValue

/-- The error of finding another kind of value than the one wanted. -/
def notWanted {α : Type} (wanted : String) (s : List Char) : Except Error α :=
  match foundAt s with
  | .error e => .error e
  | .ok found => misfit (.kind found wanted)

end Switchboard.Json
