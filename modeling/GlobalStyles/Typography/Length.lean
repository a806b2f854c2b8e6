import GlobalStyles.Decimal.Layout
import GlobalStyles.Decimal.Nearest
import GlobalStyles.Text.Blank

/-!
# Plain lengths

The lengths that a font size can be scaled with: a plain number of pixels or of root or parent
sizes. A number without a unit counts pixels, and sixteen pixels make a `rem` or an `em`. Values are
kept to three decimals.
-/

namespace GlobalStyles

/-- A unit of length. -/
inductive LengthUnit where
  | px
  | rem
  | em
  deriving DecidableEq

/-- The name of a unit. -/
def LengthUnit.name : LengthUnit → String
  | px => "px"
  | rem => "rem"
  | em => "em"

/-- A number of some unit. -/
structure Length where
  value : Float
  unit : LengthUnit

namespace Length

/-- Numbers inside CSS functions are written positionally, whole numbers without a point. -/
def layout : Layout := ⟨none, none, false⟩

/-- A value to three decimals, a half away from zero. -/
def toThousandths (value : Float) : Float :=
  (value * 1000).round / 1000

/-- The pixels in a `rem` or an `em`. -/
def rootSize : Float := 16

/-- The text of a length. -/
def text (length : Length) : String :=
  layout.text length.value ++ length.unit.name

/-- The value of a length of `unit` in another unit. -/
def convert (value : Float) : LengthUnit → LengthUnit → Float
  | .px, .px => value
  | .px, _ => value / rootSize
  | _, .px => value * rootSize
  | _, _ => value

/-! ### Reading -/

/-- The digits before and after the point of a plain number: digits alone, or digits, which may be
missing, a point and at least one digit. -/
def plainDigits? (s : List Char) : Option (List Char × List Char) :=
  let whole := s.takeWhile Char.isDigit
  match s.dropWhile Char.isDigit with
  | [] => if whole.isEmpty then none else some (whole, [])
  | '.' :: fraction =>
    if fraction.isEmpty || !fraction.all Char.isDigit then none else some (whole, fraction)
  | _ => none

/-- The value of a plain number. -/
def plainNumber? (s : List Char) : Option Float :=
  (plainDigits? s).map fun (whole, fraction) ↦
    nearestDouble (Nat.ofDigitChars 10 (whole ++ fraction) 0) (Nat.pow 10 fraction.length)

/-- A text cut into the text of a number and the unit after it. -/
def cutUnit (s : List Char) : List Char × LengthUnit :=
  match "rem".toList.isSuffixOf? s with
  | some number => (number, .rem)
  | none =>
    match "px".toList.isSuffixOf? s with
    | some number => (number, .px)
    | none =>
      match "em".toList.isSuffixOf? s with
      | some number => (number, .em)
      | none => (s, .px)

/-- The length that a text is, in `target` if that is given. -/
def read? (text : String) (target : Option LengthUnit) : Option Length :=
  let (number, unit) := cutUnit (Text.trim text.toList)
  let target := target.getD unit
  (plainNumber? number).map fun value ↦ ⟨toThousandths (convert value unit target), target⟩

end Length

end GlobalStyles
