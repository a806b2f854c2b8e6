import GlobalStyles.Decimal.Nearest
import GlobalStyles.Text.Digit

/-!
# Numerals

The texts that stand for a number in a colour: digits with or without a point, on either side of
which digits may be missing, an exponent, a sign, and the words for infinity and for no number.
-/

namespace GlobalStyles

/-- What a numeral stands for. -/
inductive Numeral where
  /-- `significand · 10 ^ shift` -/
  | finite (negative : Bool) (significand : Nat) (shift : Int)
  | infinite (negative : Bool)
  | notANumber

namespace Numeral

/-- The exponent that a text is; the empty text is zero. -/
def exponent? : List Char → Option Int
  | [] => some 0
  | c :: s =>
    let (negative, digits) := Text.sign s
    if (c == 'e' || c == 'E') && !digits.isEmpty && digits.all Char.isDigit then
      let size : Int := Nat.ofDigitChars 10 digits 0
      some (if negative then -size else size)
    else none

/-- A number without a sign. -/
def magnitude? (negative : Bool) (s : List Char) : Option Numeral :=
  let whole := s.takeWhile Char.isDigit
  let rest := s.dropWhile Char.isDigit
  let (fraction, rest) := match rest with
    | '.' :: t => (t.takeWhile Char.isDigit, t.dropWhile Char.isDigit)
    | t => ([], t)
  if whole.isEmpty && fraction.isEmpty then none
  else (exponent? rest).map fun e ↦
    finite negative (Nat.ofDigitChars 10 (whole ++ fraction) 0) (e - fraction.length)

/-- What a text stands for, if it is a numeral. -/
def read? (s : List Char) : Option Numeral :=
  let (negative, s) := Text.sign s
  let word := s.map Char.toLower
  if word = "inf".toList || word = "infinity".toList then some (infinite negative)
  else if word = "nan".toList then some notANumber
  else magnitude? negative s

/-- The nearest single-precision fraction. A number of more than fifty places before the point is
too great for one, and a number that begins more than sixty places after it is too small. -/
def toSingle : Numeral → Float32
  | finite negative significand shift =>
    let places : Int := (Nat.toDigits 10 significand).length + shift
    let magnitude :=
      if significand = 0 || places < -60 then 0
      else if 50 < places then 1 / 0
      else nearestSingle (significand * Nat.pow 10 shift.toNat) (Nat.pow 10 (-shift).toNat)
    if negative then -magnitude else magnitude
  | infinite negative => if negative then -1 / 0 else 1 / 0
  | notANumber => 0 / 0

end Numeral

end GlobalStyles
