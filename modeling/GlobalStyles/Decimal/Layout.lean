import GlobalStyles.Decimal.Shortest

/-!
# How a decimal is laid out

Which digits a number has is one question, how they are laid out another. `Layout` answers the
second as data: the exponents that are written positionally, and whether a whole number shows a
point. All other exponents are written after an `e`, with a sign and without padding.
-/

namespace GlobalStyles

/-- A layout of decimals. A bound that is absent does not limit. -/
structure Layout where
  /-- The least exponent of the first digit that is written positionally. -/
  lowest : Option Int
  /-- The greatest exponent of the first digit that is written positionally. -/
  highest : Option Int
  /-- Whether a whole number in positional form ends in `.0`. -/
  showsPoint : Bool

namespace Layout

/-- Whether a first digit of this exponent is written positionally. -/
def isPositional (layout : Layout) (exponent : Int) : Bool :=
  layout.lowest.all (· ≤ exponent) && layout.highest.all (exponent ≤ ·)

/-- The digits with their point in place. -/
def positional (layout : Layout) (d : Decimal) : List Char :=
  if d.exponent < 0 then
    '0' :: '.' :: List.replicate (-d.exponent - 1).toNat '0' ++ d.digits
  else
    let whole := d.exponent.toNat + 1
    let fraction := d.digits.drop whole
    let padded := d.digits.take whole ++ List.replicate (whole - d.digits.length) '0'
    if fraction.isEmpty then
      if layout.showsPoint then padded ++ ['.', '0'] else padded
    else padded ++ '.' :: fraction

/-- One digit before the point and the exponent after an `e`. -/
def scientific (d : Decimal) : List Char :=
  let mantissa := match d.digits with
    | first :: second :: rest => first :: '.' :: second :: rest
    | short => short
  let sign := if d.exponent < 0 then '-' else '+'
  mantissa ++ 'e' :: sign :: Nat.toDigits 10 d.exponent.natAbs

/-- The text of a fraction. -/
def text (layout : Layout) (x : Float) : String :=
  if x.isNaN then "NaN"
  else
    let sign := if x.toBits.toNat ≥ Nat.pow 2 63 then "-" else ""
    if x.isInf then sign ++ "inf"
    else
      let d := Decimal.ofFloat x
      let magnitude :=
        if layout.isPositional d.exponent then layout.positional d else scientific d
      sign ++ String.ofList magnitude

end Layout

end GlobalStyles
