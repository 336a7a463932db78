import Switchboard.Json.Scan

/-!
# Reading JSON values

`Value.parse` reads a whole text as one value. Lists and objects may be nested to a depth of 127.
-/

namespace Switchboard.Json

/-- Reads a value with at most `depth` brackets around one another. -/
def value (depth : Nat) (s : List Char) : Except Error (Value × List Char) :=
  match s, depth with
  | [], _ => malformed .endInValue
  | 'n' :: rest, _ => (literal ['u', 'l', 'l'] rest).map fun rest => (.null, rest)
  | 't' :: rest, _ => (literal ['r', 'u', 'e'] rest).map fun rest => (.bool true, rest)
  | 'f' :: rest, _ => (literal ['a', 'l', 's', 'e'] rest).map fun rest => (.bool false, rest)
  | '\x22' :: rest, _ => (string rest).map fun x => (.string x.1, x.2)
  | '[' :: _, 0 => malformed .tooDeep
  | '[' :: rest, depth + 1 => (items (value depth) true rest).map fun x => (.list x.1, x.2)
  | '\x7B' :: _, 0 => malformed .tooDeep
  | '\x7B' :: rest, depth + 1 =>
    (members (value depth) true rest).map fun x => (.ofMembers x.1, x.2)
  | c :: rest, _ =>
    if c = '-' ∨ (Numeral.digit? c).isSome then
      (number (c :: rest)).map fun x => (.number x.1, x.2)
    else malformed .noValue

/-- The greatest depth of brackets in a text. -/
def maxDepth : Nat := 127

/-- Reads a text as one value. -/
def Value.parse (text : String) : Except Error Value := do
  let (v, rest) ← value maxDepth (skipBlanks text.toList)
  atEnd rest
  pure v

end Switchboard.Json
