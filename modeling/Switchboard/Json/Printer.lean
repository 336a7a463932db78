import Switchboard.Json.Value

/-!
# Writing JSON values

Values are written without blanks. In strings, only quotes, backslashes and control characters below
the space are escaped; five of the control characters have an escape of one letter.
-/

namespace Switchboard.Json

/-- One character inside a JSON string. -/
def escapeChar (c : Char) : List Char :=
  if c = '\x22' then ['\\', '\x22']
  else if c = '\\' then ['\\', '\\']
  else if c = '\x08' then ['\\', 'b']
  else if c = '\x0C' then ['\\', 'f']
  else if c = '\n' then ['\\', 'n']
  else if c = '\r' then ['\\', 'r']
  else if c = '\t' then ['\\', 't']
  else if c.toNat < 0x20 then '\\' :: 'u' :: Numeral.padded 4 (Numeral.digits 16 c.toNat)
  else [c]

/-- A string between quotes. -/
def printString (s : String) : List Char :=
  '\x22' :: s.toList.flatMap escapeChar ++ ['\x22']

def Number.print : Number → List Char
  | .natural n => Numeral.digits 10 n.toNat
  | .negative n => (Numeral.integer n.toInt).toList
  | .real x => (numberLayout.text x).toList

mutual

/-- The text of a value. -/
def Value.chars : Value → List Char
  | .null => ['n', 'u', 'l', 'l']
  | .bool true => ['t', 'r', 'u', 'e']
  | .bool false => ['f', 'a', 'l', 's', 'e']
  | .number n => n.print
  | .string s => printString s
  | .list vs => '[' :: itemChars vs ++ [']']
  | .object ms => '\x7B' :: memberChars ms ++ ['\x7D']

/-- The items of a list with commas between them. -/
def itemChars : List Value → List Char
  | [] => []
  | [v] => v.chars
  | v :: w :: vs => v.chars ++ ',' :: itemChars (w :: vs)

/-- The members of an object with commas between them. -/
def memberChars : List (String × Value) → List Char
  | [] => []
  | [(name, v)] => printString name ++ ':' :: v.chars
  | (name, v) :: m :: ms => printString name ++ ':' :: v.chars ++ ',' :: memberChars (m :: ms)

end

/-- The text of a value. -/
def Value.print (v : Value) : String :=
  String.ofList v.chars

end Switchboard.Json
