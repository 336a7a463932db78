import Switchboard.Json.Value

/-!
# Reading JSON numbers

A number is an optional sign, whole digits, an optional fraction and an optional exponent. Digits
are gathered into a 64-bit significand for as long as they fit; later digits of the whole part only
raise the exponent, later digits of the fraction are dropped. A number without fraction and exponent
whose digits all fit is an integer. Any other is the significand, rounded to a double, times or
divided by a power of ten, so the last bit may differ from that of the nearest double.
-/

namespace Switchboard.Json

/-- The greatest power of ten that a double can hold is `10 ^ 308`. -/
def maxPlace : Int := 308

/-- `10 ^ n` as a double, for `n` up to 308. -/
def tenTo (n : Nat) : Float :=
  Float.ofScientific 1 false n

/-- The double `x · 10 ^ exponent`; `none` when it is too large. Division goes in steps, since the
power itself must be a double. -/
def scale? (x : Float) (exponent : Int) : Option Float :=
  if exponent < -maxPlace then
    if x == 0 then some x else scale? (x / tenTo 308) (exponent + maxPlace)
  else if exponent < 0 then
    some (x / tenTo exponent.natAbs)
  else if exponent ≤ maxPlace then
    let y := x * tenTo exponent.toNat
    if y.isInf then none else some y
  else if x == 0 then some x
  else none
termination_by (-exponent).toNat
decreasing_by simp only [maxPlace] at *; omega

/-- The number with a given sign, significand and exponent. -/
def realNumber (positive : Bool) (significand : Nat) (exponent : Int) : Except Error Number :=
  match scale? (UInt64.ofNat significand).toFloat exponent with
  | none => malformed .numberTooLarge
  | some x => .ok (.real (if positive then x else -x))

/-- Gathers digits into the significand while it stays below 2 ^ 64, and counts those left over. -/
def gather (significand : Nat) : List Nat → Nat × Nat
  | [] => (significand, 0)
  | d :: ds =>
    if significand * 10 + d < UInt64.size then gather (significand * 10 + d) ds
    else (significand, ds.length + 1)

/-- The sign of an exponent and the text after it. -/
def exponentSign : List Char → Bool × List Char
  | '+' :: s => (true, s)
  | '-' :: s => (false, s)
  | s => (true, s)

/-- Reads an exponent, from after its letter. -/
def exponent (positive : Bool) (significand : Nat) (place : Int) (s : List Char) :
    Except Error (Number × List Char) :=
  let (up, s) := exponentSign s
  match s, Numeral.spanDigits s with
  | [], _ => malformed .endInValue
  | _, ([], _) => malformed .badNumber
  | _, (ds, rest) => do
    let e : Nat := ds.foldl (fun n d => n * 10 + d) 0
    let n ← realNumber positive significand (if up then place + (e : Int) else place - e)
    .ok (n, rest)

/-- Reads a fraction, from after its point, and the exponent behind it. -/
def fraction (positive : Bool) (significand : Nat) (place : Int) (s : List Char) :
    Except Error (Number × List Char) :=
  match Numeral.spanDigits s with
  | ([], []) => malformed .endInValue
  | ([], _) => malformed .badNumber
  | (ds, rest) =>
    let (significand, left) := gather significand ds
    let place := place - (ds.length - left : Nat)
    match rest with
    | 'e' :: rest | 'E' :: rest => exponent positive significand place rest
    | _ => do
      let n ← realNumber positive significand place
      .ok (n, rest)

/-- The integer with a given sign; minus zero and integers below -2 ^ 63 become real. -/
def wholeNumber (positive : Bool) (significand : Nat) : Number :=
  if positive then .natural (UInt64.ofNat significand)
  else if significand = 0 ∨ UInt64.size / 2 < significand then
    .real (-(UInt64.ofNat significand).toFloat)
  else .negative (Int64.ofInt (-significand))

/-- What may follow the whole digits. `left` counts the digits that the significand does not hold.
-/
def afterWhole (positive : Bool) (significand left : Nat) (rest : List Char) :
    Except Error (Number × List Char) :=
  match rest with
  | '.' :: rest => fraction positive significand left rest
  | 'e' :: rest | 'E' :: rest => exponent positive significand left rest
  | _ =>
    if left = 0 then .ok (wholeNumber positive significand, rest)
    else do
      let n ← realNumber positive significand left
      .ok (n, rest)

/-- Reads a number after its sign. A leading zero stands alone. -/
def unsignedNumber (positive : Bool) (s : List Char) : Except Error (Number × List Char) :=
  match s, Numeral.spanDigits s with
  | [], _ => malformed .endInValue
  | _, ([], _) => malformed .badNumber
  | _, (0 :: _ :: _, _) => malformed .badNumber
  | _, (ds, rest) =>
    let (significand, left) := gather 0 ds
    afterWhole positive significand left rest

/-- Reads a number. -/
def number : List Char → Except Error (Number × List Char)
  | '-' :: s => unsignedNumber false s
  | s => unsignedNumber true s

end Switchboard.Json
