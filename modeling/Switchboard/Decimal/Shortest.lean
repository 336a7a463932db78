/-!
# Shortest decimals

The shortest decimal that reads back as a given binary number. A finite positive binary number is `m
· 2 ^ q`; the reals that round to it form an interval, whose ends belong to it when `m` is even.
`shortest?` looks at the decimals with one significant digit, then with two, and so on, and takes
the first one that lies in the interval, of two the nearer.

All arithmetic is exact: both sides of a comparison are brought to a common denominator.
-/

namespace Switchboard.Decimal

/-- The number `significand · 10 ^ exponent`. -/
structure Scientific where
  significand : Nat
  exponent : Int
  deriving DecidableEq, Repr

/-- The number `significand · 2 ^ exponent`, and whether the next number below it is only half as
far away as the next one above. -/
structure Binary where
  significand : Nat
  exponent : Int
  narrowBelow : Bool
  deriving DecidableEq, Repr

/-- The magnitude of a finite double-precision number. -/
def Binary.ofFloat (x : Float) : Binary :=
  let bits : Nat := x.toBits.toNat
  let fraction : Nat := bits % Nat.pow 2 52
  let field : Nat := bits / Nat.pow 2 52 % 2048
  if field = 0 then ⟨fraction, -1074, false⟩
  else ⟨fraction + Nat.pow 2 52, (field : Int) - 1075, fraction = 0 && 1 < field⟩

/-- A number `n · 2 ^ (exponent - 2)` beside numbers `c · 10 ^ place`, over a common denominator:
the first is `n * binaryUnit`, the second `c * decimalUnit`. -/
structure Grid where
  binaryUnit : Nat
  decimalUnit : Nat

/-- The grid of the multiples of `10 ^ place`. -/
def Binary.grid (b : Binary) (place : Int) : Grid :=
  let up := Nat.pow 2 (b.exponent - 2).toNat
  let down := Nat.pow 2 (2 - b.exponent).toNat
  ⟨up * Nat.pow 10 (-place).toNat, Nat.pow 10 place.toNat * down⟩

/-- That neighbour of a number on a grid which rounds to the number: of two the nearer, of two
equally near the even one. -/
def Binary.onGrid? (b : Binary) (place : Int) : Option Scientific :=
  let g := b.grid place
  let exact := 4 * b.significand * g.binaryUnit
  let low := (4 * b.significand - if b.narrowBelow then 1 else 2) * g.binaryUnit
  let high := (4 * b.significand + 2) * g.binaryUnit
  let fits (c : Nat) : Bool :=
    let x := c * g.decimalUnit
    if b.significand % 2 = 0 then low ≤ x && x ≤ high else low < x && x < high
  let below := exact / g.decimalUnit
  match fits below, fits (below + 1) with
  | false, false => none
  | true, false => some ⟨below, place⟩
  | false, true => some ⟨below + 1, place⟩
  | true, true =>
    let middle := (2 * below + 1) * g.decimalUnit
    if 2 * exact < middle ∨ (2 * exact = middle ∧ below % 2 = 0) then some ⟨below, place⟩
    else some ⟨below + 1, place⟩

/-- The place of the leading decimal digit of a positive number: the greatest `e` such that `10 ^ e`
is at most the number. The number of bits gives it up to two places. -/
def Binary.leadingPlace (b : Binary) : Int :=
  let guess := ((Nat.log2 b.significand : Int) + b.exponent) * 30103 / 100000
  let reaches (e : Int) : Bool :=
    let g := b.grid e
    g.decimalUnit ≤ 4 * b.significand * g.binaryUnit
  ([2, 1, 0, -1].map (guess + ·)).find? reaches |>.getD (guess - 2)

/-- The shortest decimal that reads back as a positive number; seventeen digits always do. The
search begins one place above the leading digit, where the number may round up to one unit. -/
def Binary.shortest? (b : Binary) : Option Scientific :=
  if b.significand = 0 then none
  else
    let top := b.leadingPlace + 1
    (List.range 18).findSome? fun (k : Nat) => b.onGrid? (top - k)

end Switchboard.Decimal
