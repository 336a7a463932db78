import Switchboard.Json.Error

/-!
# Reading JSON strings

Reading functions answer the value and the text after it. A string is read from after its opening
quote up to and including its closing quote. The four digits of a `u` escape are counted in bytes,
so an escape cut short by the end of the text is told from one with a wrong digit.
-/

namespace Switchboard.Json

/-- Reads four hexadecimal digits. -/
def fourDigits (s : List Char) : Except Error (Nat × List Char) :=
  match s with
  | a :: b :: c :: d :: rest =>
    match Numeral.hexDigit? a, Numeral.hexDigit? b, Numeral.hexDigit? c, Numeral.hexDigit? d with
    | some a, some b, some c, some d => .ok (((a * 16 + b) * 16 + c) * 16 + d, rest)
    | _, _, _, _ => malformed .badEscape
  | _ =>
    if (Utf8.encode s).length < 4 then malformed .endInString else malformed .badEscape

/-- Reads the second half of a surrogate pair, from after the digits of the first. -/
def secondSurrogate (high : Nat) (s : List Char) : Except Error (Char × List Char) :=
  match s with
  | [] | ['\\'] => malformed .endInString
  | '\\' :: 'u' :: rest => do
    let (low, rest) ← fourDigits rest
    if 0xDC00 ≤ low ∧ low ≤ 0xDFFF then
      .ok (Char.ofNat (0x10000 + (high - 0xD800) * 0x400 + (low - 0xDC00)), rest)
    else malformed .loneSurrogate
  | _ => malformed .halfSurrogatePair

/-- Reads a `u` escape, from after the letter. -/
def unicodeEscape (s : List Char) : Except Error (Char × List Char) := do
  let (n, rest) ← fourDigits s
  if 0xDC00 ≤ n ∧ n ≤ 0xDFFF then malformed .loneSurrogate
  else if 0xD800 ≤ n ∧ n ≤ 0xDBFF then secondSurrogate n rest
  else .ok (Char.ofNat n, rest)

/-- The escapes of one letter. -/
def letterEscape? : Char → Option Char
  | '\x22' => some '\x22'
  | '\\' => some '\\'
  | '/' => some '/'
  | 'b' => some '\x08'
  | 'f' => some '\x0C'
  | 'n' => some '\n'
  | 'r' => some '\r'
  | 't' => some '\t'
  | _ => none

/-- Reads an escape, from after the backslash. -/
def escape : List Char → Except Error (Char × List Char)
  | [] => malformed .endInString
  | 'u' :: rest => unicodeEscape rest
  | c :: rest =>
    match letterEscape? c with
    | some d => .ok (d, rest)
    | none => malformed .badEscape

/-- Reads the characters of a string and its closing quote. -/
def stringChars (s : List Char) : Except Error (List Char × List Char) :=
  match s with
  | [] => malformed .endInString
  | c :: rest =>
    if c = '\x22' then .ok ([], rest)
    else if c = '\\' then
      match escape rest with
      | .error e => .error e
      | .ok (d, after) =>
        if _h : after.length ≤ rest.length then
          match stringChars after with
          | .error e => .error e
          | .ok (ds, after) => .ok (d :: ds, after)
        else malformed .endInString
    else if c.toNat < 0x20 then malformed .controlInString
    else
      match stringChars rest with
      | .error e => .error e
      | .ok (ds, after) => .ok (c :: ds, after)
termination_by s.length
decreasing_by all_goals (simp only [List.length_cons]; omega)

/-- Reads a string, from after its opening quote. -/
def string (s : List Char) : Except Error (String × List Char) := do
  let (cs, rest) ← stringChars s
  .ok (String.ofList cs, rest)

/-- Passes over an escape, from after the backslash; the code points of `u` escapes do not matter.
-/
def passEscape : List Char → Except Error (List Char)
  | [] => malformed .endInString
  | 'u' :: rest => do
    let (_, rest) ← fourDigits rest
    .ok rest
  | c :: rest => if (letterEscape? c).isSome then .ok rest else malformed .badEscape

/-- Passes over a string, from after its opening quote. -/
def passString (s : List Char) : Except Error (List Char) :=
  match s with
  | [] => malformed .endInString
  | c :: rest =>
    if c = '\x22' then .ok rest
    else if c = '\\' then
      match passEscape rest with
      | .error e => .error e
      | .ok after =>
        if _h : after.length ≤ rest.length then passString after else malformed .endInString
    else if c.toNat < 0x20 then malformed .controlInString
    else passString rest
termination_by s.length
decreasing_by all_goals (simp only [List.length_cons]; omega)

end Switchboard.Json
