import GlobalStyles.Color.Named
import GlobalStyles.Decimal.Numeral
import GlobalStyles.Text.Blank
import GlobalStyles.Text.Digit

/-!
# Reading colours

The texts of CSS that stand for a colour: `transparent`, hexadecimal notations with or without their
mark, functions, and names. Capitals and small letters count the same.

A function has three parameters and perhaps an alpha. Commas, slashes and blanks separate them
alike. Parameters that are given as parts of a whole must all be percentages or all be numbers.

With `Color.Space` and `Color.Named` this stands for the separate library `csscolorparser`, which
the compiler calls for the stops of a duotone. No theorem depends on which colour a text is read as.
-/

namespace GlobalStyles

namespace ColorText

/-! ### Hexadecimal notations -/

/-- The value of two characters: two digits, or one after a plus. -/
def hexPair? (a b : Char) : Option Nat :=
  if a = '+' then Text.hexValue? b
  else do return (← Text.hexValue? a) * 16 + (← Text.hexValue? b)

/-- A channel given by one digit, which stands for two of it. -/
def hexTwice? (c : Char) : Option Nat :=
  (Text.hexValue? c).map (· * 17)

/-- The colour of three, four, six or eight hexadecimal digits. -/
def hex? : List Char → Option Rgba
  | [r, g, b] => do
    return ⟨.ofNat (← hexTwice? r), .ofNat (← hexTwice? g), .ofNat (← hexTwice? b), 255⟩
  | [r, g, b, a] => do
    return ⟨.ofNat (← hexTwice? r), .ofNat (← hexTwice? g), .ofNat (← hexTwice? b),
      .ofNat (← hexTwice? a)⟩
  | [r, r', g, g', b, b'] => do
    return ⟨.ofNat (← hexPair? r r'), .ofNat (← hexPair? g g'), .ofNat (← hexPair? b b'), 255⟩
  | [r, r', g, g', b, b', a, a'] => do
    return ⟨.ofNat (← hexPair? r r'), .ofNat (← hexPair? g g'), .ofNat (← hexPair? b b'),
      .ofNat (← hexPair? a a')⟩
  | _ => none

/-! ### Parameters -/

/-- The value of a numeral. -/
def number? (s : List Char) : Option Float32 :=
  (Numeral.read? s).map Numeral.toSingle

/-- A parameter that is a share of a whole, and whether it is a percentage. -/
structure Share where
  value : Float32
  isPercentage : Bool

/-- A percentage, or a number counted in units of which `whole` make a whole. -/
def share? (whole : Float32) (s : List Char) : Option Share :=
  match (['%'].isSuffixOf? s).bind number? with
  | some x => some ⟨x / 100, true⟩
  | none => (number? s).map fun x ↦ ⟨x / whole, false⟩

/-- The number before a unit of either case. -/
def numberBefore? (unit : String) (s : List Char) : Option Float32 :=
  if unit.toList.isSuffixOf (s.map Char.toLower) then number? (s.take (s.length - unit.length))
  else none

/-- An angle in degrees, in its first turn. -/
def angle? (s : List Char) : Option Float32 :=
  let degrees? :=
    (numberBefore? "deg" s).or <|
    ((numberBefore? "grad" s).map fun x ↦ x * 360 / 400).or <|
    ((numberBefore? "rad" s).map fun x ↦ x * 57.29577951308232).or <|
    ((numberBefore? "turn" s).map fun x ↦ x * 360).or <|
    number? s
  degrees?.map fun x ↦ ColorSpace.wrap x 360

/-- Whether a character separates parameters. -/
def isSeparator (c : Char) : Bool :=
  c == ',' || c == '/' || c == ' ' || c == '\t' || c == '\n' || c == '\r' || c.toNat == 0x0C

/-- The parameters between the separators. -/
def parameters (s : List Char) : List (List Char) :=
  (s.splitOnP isSeparator).filter fun p ↦ !p.isEmpty

/-! ### Functions -/

/-- A function of a hue and two shares. -/
def ofHueAnd? (f : Float32 → Float32 → Float32 → ColorSpace.Channels) (x y z : List Char) :
    Option ColorSpace.Channels := do
  let hue ← angle? x
  let y ← share? 1 y
  let z ← share? 1 z
  if y.isPercentage != z.isPercentage then none
  else some (f hue (ColorSpace.clampUnit y.value) (ColorSpace.clampUnit z.value))

/-- Red, green and blue, of which 255 make a whole. -/
def rgb? (x y z : List Char) : Option ColorSpace.Channels := do
  let r ← share? 255 x
  let g ← share? 255 y
  let b ← share? 255 z
  if r.isPercentage != g.isPercentage || g.isPercentage != b.isPercentage then none
  else some (ColorSpace.Channels.map ColorSpace.clampUnit ⟨r.value, g.value, b.value⟩)

/-- Lightness and two axes, of which a percentage covers the span from -0.4 to 0.4. -/
def oklab? (x y z : List Char) : Option ColorSpace.Channels := do
  let l ← share? 1 x
  let a ← share? 1 y
  let b ← share? 1 z
  let axis (s : Share) : Float32 :=
    if s.isPercentage then (s.value - -1) * ((0.4 - -0.4) / (1 - -1)) + -0.4 else s.value
  some (ColorSpace.ofOklab (ColorSpace.atLeastZero l.value) (axis a) (axis b))

/-- Lightness, chroma, of which the whole is 0.4, and a hue. -/
def oklch? (x y z : List Char) : Option ColorSpace.Channels := do
  let l ← share? 1 x
  let c ← share? 1 y
  let hue ← angle? z
  let chroma := if c.isPercentage then c.value * 0.4 else c.value
  some (ColorSpace.ofOklch (ColorSpace.atLeastZero l.value) (ColorSpace.atLeastZero chroma) hue)

/-- The channels of a function with three parameters. -/
def channels? (name : String) (x y z : List Char) : Option ColorSpace.Channels :=
  if name = "rgb" || name = "rgba" then rgb? x y z
  else if name = "hsl" || name = "hsla" then ofHueAnd? ColorSpace.ofHsl x y z
  else if name = "hwb" || name = "hwba" then ofHueAnd? ColorSpace.ofHwb x y z
  else if name = "hsv" || name = "hsva" then ofHueAnd? ColorSpace.ofHsv x y z
  else if name = "oklab" then oklab? x y z
  else if name = "oklch" then oklch? x y z
  else none

/-- The colour of a function with its parameters. -/
def function? (name : String) : List (List Char) → Option Rgba
  | [x, y, z] => (channels? name x y z).map fun c ↦ ColorSpace.toRgba c 1
  | [x, y, z, a] => do
    let alpha ← share? 1 a
    let channels ← channels? name x y z
    some (ColorSpace.toRgba channels (ColorSpace.clampUnit alpha.value))
  | _ => none

/-- The colour of a text without blanks at its ends. -/
def color? (s : List Char) : Option Rgba :=
  let lower := String.ofList (s.map Char.toLower)
  if lower = "transparent" then some ⟨0, 0, 0, 0⟩
  else
    match s, [')'].isSuffixOf? s with
    | '#' :: digits, _ => hex? digits
    | s, some body =>
      if body.contains '(' then
        let name := Text.trimEnd (body.takeWhile (· != '('))
        function? (String.ofList (name.map Char.toLower))
          (parameters ((body.dropWhile (· != '(')).drop 1))
      else (hex? s).or (Rgba.ofName? lower)
    | s, none => (hex? s).or (Rgba.ofName? lower)

end ColorText

/-- The colour that a text is. -/
def Rgba.parse? (text : String) : Option Rgba :=
  ColorText.color? (Text.trim text.toList)

end GlobalStyles
