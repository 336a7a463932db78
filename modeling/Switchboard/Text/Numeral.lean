/-!
# Numerals

Whole numbers as digits and digits as whole numbers. `digits` writes a number without leading zeros;
`decimal?` reads a run of decimal digits.
-/

namespace Switchboard.Numeral

/-- The character of a digit below 16, letters in lower case. -/
def digitChar (d : Nat) : Char :=
  if d < 10 then Char.ofNat (0x30 + d) else Char.ofNat (0x57 + d)

/-- The digits of a number in a base between 2 and 16, without leading zeros; zero is one digit. -/
def digits (base n : Nat) : List Char :=
  if _h : 2 ≤ base ∧ base ≤ n then
    digits base (n / base) ++ [digitChar (n % base)]
  else
    [digitChar n]
termination_by n
decreasing_by exact Nat.div_lt_self (by omega) (by omega)

/-- Fills a numeral up to a width with zeros on the left. -/
def padded (width : Nat) (ds : List Char) : List Char :=
  List.replicate (width - ds.length) '0' ++ ds

/-- A number in decimal. -/
def decimal (n : Nat) : String :=
  String.ofList (digits 10 n)

/-- A whole number in decimal, with a minus sign if it is negative. -/
def integer (n : Int) : String :=
  String.ofList (if n < 0 then '-' :: digits 10 n.natAbs else digits 10 n.natAbs)

/-- A number in hexadecimal, lower case, without a mark. -/
def hex (n : Nat) : String :=
  String.ofList (digits 16 n)

/-- A byte as two hexadecimal digits, lower case. -/
def hexByte (b : UInt8) : List Char :=
  padded 2 (digits 16 b.toNat)

/-- The value of a decimal digit. -/
def digit? (c : Char) : Option Nat :=
  if '0' ≤ c ∧ c ≤ '9' then some (c.toNat - 0x30) else none

/-- The value of a hexadecimal digit of either case. -/
def hexDigit? (c : Char) : Option Nat :=
  if '0' ≤ c ∧ c ≤ '9' then some (c.toNat - 0x30)
  else if 'a' ≤ c ∧ c ≤ 'f' then some (c.toNat - 0x57)
  else if 'A' ≤ c ∧ c ≤ 'F' then some (c.toNat - 0x37)
  else none

/-- Appends decimal digits to the number read so far. -/
def readFrom (n : Nat) : List Char → Option Nat
  | [] => some n
  | c :: cs =>
    match digit? c with
    | some d => readFrom (n * 10 + d) cs
    | none => none

/-- Reads a run of one or more decimal digits. -/
def decimal? : List Char → Option Nat
  | [] => none
  | c :: cs => readFrom 0 (c :: cs)

/-- Splits the leading decimal digits off a text, as values. -/
def spanDigits : List Char → List Nat × List Char
  | [] => ([], [])
  | c :: cs =>
    match digit? c with
    | some d => (d :: (spanDigits cs).1, (spanDigits cs).2)
    | none => ([], c :: cs)

end Switchboard.Numeral
