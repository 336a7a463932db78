import Switchboard.Decimal.Shortest
import Switchboard.Text.Numeral

/-!
# Layout of decimals

How a decimal number is laid out as text: with a point inside or before its digits, with zeros after
them, or with an exponent. A `Layout` says where each form begins.
-/

namespace Switchboard.Decimal

/-- Where positional notation ends. -/
structure Layout where
  /-- The greatest number of digits before the point. -/
  mostWholeDigits : Int
  /-- The greatest number of zeros between the point and the first digit. -/
  mostLeadingZeros : Int
  /-- Whether a positive exponent has a sign. -/
  plusSign : Bool

/-- The exponent part. -/
def Layout.exponentText (l : Layout) (e : Int) : List Char :=
  let sign := if e < 0 then ['-'] else if l.plusSign then ['+'] else []
  'e' :: sign ++ Numeral.digits 10 e.natAbs

/-- A positive decimal. At least one digit stands on either side of a point. -/
def Layout.place (l : Layout) (x : Scientific) : List Char :=
  let ds := Numeral.digits 10 x.significand
  let whole : Int := ds.length + x.exponent
  if 0 ≤ x.exponent ∧ whole ≤ l.mostWholeDigits then
    ds ++ List.replicate x.exponent.toNat '0' ++ ['.', '0']
  else if 0 < whole ∧ whole ≤ l.mostWholeDigits then
    ds.take whole.toNat ++ '.' :: ds.drop whole.toNat
  else if -l.mostLeadingZeros ≤ whole ∧ whole ≤ 0 then
    '0' :: '.' :: List.replicate (-whole).toNat '0' ++ ds
  else
    match ds with
    | [] => []
    | [d] => d :: l.exponentText (whole - 1)
    | d :: more => d :: '.' :: more ++ l.exponentText (whole - 1)

/-- A double-precision number as the shortest decimal that reads back. -/
def Layout.text (l : Layout) (x : Float) : String :=
  if x.isNaN then "NaN"
  else
    let sign := if x.toBits.toNat < UInt64.size / 2 then [] else ['-']
    if x.isInf then String.ofList (sign ++ ['i', 'n', 'f'])
    else
      match (Binary.ofFloat x).shortest? with
      | some s => String.ofList (sign ++ l.place s)
      | none => String.ofList (sign ++ ['0', '.', '0'])

end Switchboard.Decimal
