import GlobalStyles.Decimal.Nearest

/-!
# Colour spaces

A colour is four channels of eight bits. It is reached from the colour spaces of CSS through
channels of single precision between 0 and 1, in which every step is rounded, so the order of the
operations counts.

This is part of what stands for the separate library `csscolorparser` (see `Color.Reader`). What it
gives is used in no proof.
-/

namespace GlobalStyles

/-- A colour in sRGB. -/
structure Rgba where
  r : UInt8
  g : UInt8
  b : UInt8
  a : UInt8
  deriving DecidableEq

namespace ColorSpace

/-- A value held between 0 and 1. -/
def clampUnit (x : Float32) : Float32 :=
  if x < 0 then 0 else if 1 < x then 1 else x

/-- A value that is not below zero; what is no number counts as zero. -/
def atLeastZero (x : Float32) : Float32 :=
  if 0 < x then x else 0

/-- The remainder of a division, with the sign of the dividend. It is exact. -/
def remainder (x : Float32) (modulus : Nat) : Float32 :=
  if !x.isFinite then 0 / 0
  else
    let bits := x.toBits.toNat
    let biased : Nat := bits / Nat.pow 2 23 % Nat.pow 2 8
    let fraction : Nat := bits % Nat.pow 2 23
    let significand : Nat := if biased = 0 then fraction else Nat.pow 2 23 + fraction
    let exponent : Int := (max biased 1 : Nat) - 150
    let unit := Nat.pow 2 (-exponent).toNat
    let magnitude := nearestSingle (significand * Nat.pow 2 exponent.toNat % (modulus * unit)) unit
    if bits ≥ Nat.pow 2 31 then -magnitude else magnitude

/-- The value between zero and the modulus that is a whole number of turns away. -/
def wrap (x : Float32) (modulus : Nat) : Float32 :=
  remainder (remainder x modulus + Float32.ofNat modulus) modulus

/-- Red, green and blue between 0 and 1. -/
structure Channels where
  r : Float32
  g : Float32
  b : Float32

/-- A function on every channel. -/
def Channels.map (f : Float32 → Float32) (c : Channels) : Channels :=
  ⟨f c.r, f c.g, f c.b⟩

/-- The eight bits of a channel, a half rounded up. -/
def toByte (x : Float32) : UInt8 :=
  (x * 255 + 0.5).toUInt8

/-- The colour of some channels. -/
def toRgba (c : Channels) (alpha : Float32) : Rgba :=
  ⟨toByte c.r, toByte c.g, toByte c.b, toByte alpha⟩

/-! ### Hues -/

/-- One channel of a hue, in sixths of a turn, between two levels. -/
def ofHue (low high hue : Float32) : Float32 :=
  let x := wrap hue 6
  if x < 1 then low + (high - low) * x
  else if x < 3 then high
  else if x < 4 then low + (high - low) * (4 - x)
  else low

/-- Hue in degrees, saturation and lightness. -/
def ofHsl (h s l : Float32) : Channels :=
  if s == 0 then ⟨l, l, l⟩
  else
    let high := if l < 0.5 then l * (1 + s) else l + s - l * s
    let low := 2 * l - high
    let hue := h / 60
    ⟨ofHue low high (hue + 2), ofHue low high hue, ofHue low high (hue - 2)⟩

/-- Hue in degrees, whiteness and blackness. -/
def ofHwb (h white black : Float32) : Channels :=
  if 1 ≤ white + black then
    let grey := white / (white + black)
    ⟨grey, grey, grey⟩
  else (ofHsl h 1 0.5).map fun x ↦ x * (1 - white - black) + white

/-- Hue in degrees, saturation and value. -/
def ofHsv (h s v : Float32) : Channels :=
  let l := (2 - s) * v / 2
  let saturation :=
    if l == 0 then s
    else if l == 1 then 0
    else if l < 0.5 then s * v / (l * 2)
    else s * v / (2 - l * 2)
  ofHsl h saturation l

/-! ### The Oklab space -/

/-- The third power. -/
def cube (x : Float32) : Float32 :=
  x * x * x

/-- A linear channel with the transfer curve of sRGB. -/
def gamma (x : Float32) : Float32 :=
  if 0.0031308 ≤ x then 1.055 * x.pow (1 / 2.4) - 0.055 else 12.92 * x

/-- Lightness and the two opponent axes. -/
def ofOklab (l a b : Float32) : Channels :=
  let long := cube (l + 0.3963377774 * a + 0.2158037573 * b)
  let medium := cube (l - 0.1055613458 * a - 0.0638541728 * b)
  let short := cube (l - 0.0894841775 * a - 1.2914855480 * b)
  let linear : Channels :=
    ⟨4.0767416621 * long - 3.3077115913 * medium + 0.2309699292 * short,
      -1.2684380046 * long + 2.6097574011 * medium - 0.3413193965 * short,
      -0.0041960863 * long - 0.7034186147 * medium + 1.7076147010 * short⟩
  linear.map gamma

/-- The ratio of a circle's circumference to its diameter. -/
def pi : Float32 := 3.14159265358979

/-- Lightness, chroma and hue in degrees. -/
def ofOklch (l c h : Float32) : Channels :=
  let angle := h * (pi / 180)
  ofOklab l (c * angle.cos) (c * angle.sin)

end ColorSpace

end GlobalStyles
