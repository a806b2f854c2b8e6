/-!
# The shortest decimal that reads back

A binary fraction stands for every real that rounds to it. Its shortest decimal is the one with the
fewest digits among those reals and, of several with that many digits, the nearest to the value.

The choice is made in exact arithmetic. A `Cell` holds the value and the two ends of the reals that
round to it, all over one denominator. Going from one digit to seventeen, only the value's two
neighbours on the grid of that many digits have to be tried: if any point of a grid lies in the
cell, one of these two does. Seventeen digits always suffice.
-/

namespace GlobalStyles

/-- A decimal `d₁.d₂d₃… · 10 ^ exponent`, where `digits` is `d₁ d₂ d₃ …`. -/
structure Decimal where
  digits : List Char
  exponent : Int

namespace Decimal

/-- How many digits a natural number is written with. -/
def length (n : Nat) : Nat :=
  (Nat.toDigits 10 n).length

/-- The decimal `n · 10 ^ shift`, without the zeros at its end. -/
def ofScaled (n : Nat) (shift : Int) : Decimal where
  digits := ((Nat.toDigits 10 n).reverse.dropWhile (· == '0')).reverse
  exponent := (length n : Int) - 1 + shift

/-! ### The reals that round to a value -/

/-- The reals between `low` and `high`, around `value`; all three are over `unit`. The ends belong
to the cell when `closed`. -/
structure Cell where
  low : Nat
  value : Nat
  high : Nat
  unit : Nat
  closed : Bool

namespace Cell

/-- The cell of `m · 2 ^ q`. Its lower half is half as wide when `m` is the least significand of its
exponent, and the ends round to `m` when `m` is even. -/
def ofBinary (m : Nat) (q : Int) (narrow : Bool) : Cell :=
  let scale := Nat.pow 2 (q - 2).toNat
  { low := (4 * m - if narrow then 1 else 2) * scale
    value := 4 * m * scale
    high := (4 * m + 2) * scale
    unit := Nat.pow 2 (2 - q).toNat
    closed := m % 2 == 0 }

/-- Whether `num / den` lies in the cell. -/
def holds (cell : Cell) (num den : Nat) : Bool :=
  if cell.closed then
    cell.low * den ≤ num * cell.unit && num * cell.unit ≤ cell.high * den
  else
    cell.low * den < num * cell.unit && num * cell.unit < cell.high * den

/-- The exponent of the value's first decimal digit. -/
def firstExponent (cell : Cell) : Int :=
  let guess : Int := (length cell.value : Int) - length cell.unit
  if cell.unit * Nat.pow 10 guess.toNat ≤ cell.value * Nat.pow 10 (-guess).toNat then guess
  else guess - 1

/-- The decimal of `count` digits in the cell that is nearest to the value, the even one of two
that are as near. -/
def nearest? (cell : Cell) (count : Nat) : Option Decimal :=
  let shift := cell.firstExponent - count + 1
  let num := cell.value * Nat.pow 10 (-shift).toNat
  let den := cell.unit * Nat.pow 10 shift.toNat
  let below := num / den
  let inside (n : Nat) : Bool :=
    cell.holds (n * Nat.pow 10 shift.toNat) (Nat.pow 10 (-shift).toNat)
  let twice := 2 * (num % den)
  let preferBelow := twice < den || (twice == den && below % 2 == 0)
  match inside below, inside (below + 1) with
  | true, true => some (ofScaled (if preferBelow then below else below + 1) shift)
  | true, false => some (ofScaled below shift)
  | false, true => some (ofScaled (below + 1) shift)
  | false, false => none

/-- The shortest decimal in the cell. -/
def shortest (cell : Cell) : Decimal :=
  ((List.range 17).findSome? fun k ↦ cell.nearest? (k + 1)).getD ⟨['0'], 0⟩

end Cell

/-- The shortest decimal of the magnitude of a finite fraction. -/
def ofFloat (x : Float) : Decimal :=
  let bits := x.toBits.toNat
  let biased : Nat := bits / Nat.pow 2 52 % Nat.pow 2 11
  let fraction : Nat := bits % Nat.pow 2 52
  if biased = 0 then
    if fraction = 0 then ⟨['0'], 0⟩ else (Cell.ofBinary fraction (-1074) false).shortest
  else
    let narrow := fraction == 0 && biased != 1
    (Cell.ofBinary (Nat.pow 2 52 + fraction) ((biased : Int) - 1075) narrow).shortest

end Decimal

end GlobalStyles
