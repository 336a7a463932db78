import Switchboard.Json.Scan

/-!
# Passing over JSON values

A value that nobody wants is only checked for its form: brackets in pairs, commas and colons in
their places, scalars well formed. There is no limit on depth, and neither the size of a number nor
the code points of a string matter. The brackets still open are kept in a list, the innermost first.
-/

namespace Switchboard.Json

inductive Bracket
  | list
  | object
  deriving DecidableEq, Repr

/-- Passes over an exponent, from after its letter. -/
def passExponent (s : List Char) : Except Error (List Char) :=
  match Numeral.spanDigits (exponentSign s).2 with
  | ([], _) => malformed .badNumber
  | (_, rest) => .ok rest

/-- Passes over a number after its sign. -/
def passNumber (s : List Char) : Except Error (List Char) :=
  match Numeral.spanDigits s with
  | ([], _) | (0 :: _ :: _, _) => malformed .badNumber
  | (_, 'e' :: rest) | (_, 'E' :: rest) => passExponent rest
  | (_, '.' :: rest) =>
    match Numeral.spanDigits rest with
    | ([], _) => malformed .badNumber
    | (_, 'e' :: rest) | (_, 'E' :: rest) => passExponent rest
    | (_, rest) => .ok rest
  | (_, rest) => .ok rest

/-- Passes over a scalar; at an opening bracket, gives the bracket. -/
def passScalar (s : List Char) : Except Error (Option Bracket × List Char) :=
  match s with
  | [] => malformed .endInValue
  | 'n' :: rest => (literal ['u', 'l', 'l'] rest).map fun rest => (none, rest)
  | 't' :: rest => (literal ['r', 'u', 'e'] rest).map fun rest => (none, rest)
  | 'f' :: rest => (literal ['a', 'l', 's', 'e'] rest).map fun rest => (none, rest)
  | '\x22' :: rest => (passString rest).map fun rest => (none, rest)
  | '-' :: rest => (passNumber rest).map fun rest => (none, rest)
  | '[' :: rest => .ok (some .list, rest)
  | '\x7B' :: rest => .ok (some .object, rest)
  | c :: rest =>
    if (Numeral.digit? c).isSome then (passNumber (c :: rest)).map fun rest => (none, rest)
    else malformed .noValue

/-- Passes over a name and its colon. -/
def passName (s : List Char) : Except Error (List Char) :=
  match skipBlanks s with
  | [] => malformed .endInObject
  | '\x22' :: rest => do colon (← passString rest)
  | _ => malformed .keyNotString

/-- Goes on to the next value of a bracket: in an object its name comes first. -/
def toValue (b : Bracket) (s : List Char) : Except Error (List Char) :=
  match b with
  | .list => .ok s
  | .object => passName s

/-- After a value, closes brackets until a comma asks for another value. The answer is the brackets
still open and the text at that value; with no bracket open, the text after the whole value. -/
def afterValue : List Bracket → List Char → Except Error (List Bracket × List Char)
  | [], s => .ok ([], s)
  | b :: bs, s =>
    match b, skipBlanks s with
    | .list, [] => malformed .endInList
    | .object, [] => malformed .endInObject
    | .list, ']' :: rest | .object, '\x7D' :: rest => afterValue bs rest
    | b, ',' :: rest => (toValue b rest).map fun rest => (b :: bs, rest)
    | .list, _ => malformed .noListEnd
    | .object, _ => malformed .noObjectEnd

/-- After an opening bracket: it may be closed at once. -/
def afterOpening (b : Bracket) (bs : List Bracket) (s : List Char) :
    Except Error (List Bracket × List Char) :=
  match b, skipBlanks s with
  | .list, [] => malformed .endInList
  | .object, [] => malformed .endInObject
  | .list, ']' :: rest | .object, '\x7D' :: rest => afterValue bs rest
  | b, s => (toValue b s).map fun rest => (b :: bs, rest)

/-- Passes over a value inside the given brackets, and over all that closes them. -/
def skipWithin (outer : List Bracket) (s : List Char) : Except Error (List Char) :=
  match passScalar (skipBlanks s) with
  | .error e => .error e
  | .ok (found, rest) =>
    match found.elim (afterValue outer rest) (afterOpening · outer rest) with
    | .error e => .error e
    | .ok ([], rest) => .ok rest
    | .ok (b :: bs, rest) =>
      if _h : rest.length < s.length then skipWithin (b :: bs) rest else malformed .endInValue
termination_by s.length

/-- Passes over one value. -/
def skipValue (s : List Char) : Except Error (List Char) :=
  skipWithin [] s

end Switchboard.Json
