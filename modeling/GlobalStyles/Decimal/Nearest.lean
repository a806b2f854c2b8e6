/-!
# The binary fraction nearest to a quotient

`BinaryFormat.nearest` rounds a quotient of natural numbers to the nearest value of a binary format,
a tie to the even significand, in exact arithmetic. The formats are those of `Float` and `Float32`.

Powers are written `Nat.pow`, here and wherever numbers are read or written, so that they mean the
same whichever instances of `^` an importing module brings along.
-/

namespace GlobalStyles

/-- A binary format with an implicit leading bit, whose subnormal values go on below the least
exponent. -/
structure BinaryFormat where
  /-- The bits of a significand, the leading one included. -/
  precision : Nat
  /-- The exponent of the last bit of a subnormal value. -/
  least : Int
  /-- The bits of the exponent field. -/
  exponentBits : Nat

namespace BinaryFormat

/-- The format of `Float`. -/
def double : BinaryFormat := ⟨53, -1074, 11⟩

/-- The format of `Float32`. -/
def single : BinaryFormat := ⟨24, -149, 8⟩

/-- A quotient rounded to the nearest natural number, a tie to the even one. -/
def roundQuotient (num den : Nat) : Nat :=
  let below := num / den
  let twice := 2 * (num % den)
  if twice < den || (twice == den && below % 2 == 0) then below else below + 1

/-- The exponent of the last bit of the significand that a quotient is rounded to. -/
def lastExponent (format : BinaryFormat) (num den : Nat) : Int :=
  let guess : Int := (num.log2 : Int) - den.log2
  let first :=
    if den * Nat.pow 2 guess.toNat ≤ num * Nat.pow 2 (-guess).toNat then guess else guess - 1
  max format.least (first - format.precision + 1)

/-- The bits of the value nearest to `num / den`; a quotient beyond all values has the bits of
infinity. -/
def nearest (format : BinaryFormat) (num den : Nat) : Nat :=
  if num = 0 then 0
  else
    let last := format.lastExponent num den
    let significand := roundQuotient (num * Nat.pow 2 (-last).toNat) (den * Nat.pow 2 last.toNat)
    -- the leading bit of a normal significand adds one to the exponent field, and so does a carry
    let bits := (last - format.least).toNat * Nat.pow 2 (format.precision - 1) + significand
    min bits ((Nat.pow 2 format.exponentBits - 1) * Nat.pow 2 (format.precision - 1))

end BinaryFormat

/-- The fraction nearest to a quotient. -/
def nearestDouble (num den : Nat) : Float :=
  Float.ofBits (UInt64.ofNat (BinaryFormat.double.nearest num den))

/-- The single-precision fraction nearest to a quotient. -/
def nearestSingle (num den : Nat) : Float32 :=
  Float32.ofBits (UInt32.ofNat (BinaryFormat.single.nearest num den))

end GlobalStyles
