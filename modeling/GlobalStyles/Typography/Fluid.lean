import GlobalStyles.Json.Path
import GlobalStyles.Json.Scalar
import GlobalStyles.Typography.Length

/-!
# Fluid font sizes

A fluid font size grows with the width of the viewport between a least and a greatest size:
`clamp(min, minRem + ((1vw - offset) * factor), max)`.

Sizes are fluid where the settings or the preset say so. A preset may give its own bounds. Without
them the greatest size is the size itself, and the least is that size times a factor that shrinks
with the logarithm of the size, though never below the limit under which nothing is fluid. A size
that is no plain length, or is not above the limit, stays as it is.
-/

namespace GlobalStyles

/-! ### Options -/

/-- What the settings say about fluid sizes. -/
structure FluidOptions where
  enabled : Bool
  /-- The size up to which nothing is fluid. -/
  minFontSize : Option String
  /-- The width at which growth begins. -/
  minViewport : Option String
  /-- The width at which growth ends. -/
  maxViewport : Option String

namespace FluidOptions

/-- Nothing is fluid, and nothing else is said. -/
def off : FluidOptions := ⟨false, none, none, none⟩

/-- A `fluid` member switches fluid sizes on when it is `true` or an object that is not empty. -/
def isOn : Json → Bool
  | .bool b => b
  | .obj fields => !fields.isEmpty
  | _ => false

/-- The options of the typography settings. -/
def ofTypography (typography : Json) : FluidOptions :=
  let option (key : String) : Option String := (typography.get? ["fluid", key]).bind Json.text?
  { enabled := (typography.get? ["fluid"]).any isOn
    minFontSize := option "minFontSize"
    minViewport := option "minViewportWidth"
    maxViewport := option "maxViewportWidth" }

/-- The options of all settings: where fluid sizes are on, growth ends at the wide layout size
unless the typography settings say where. -/
def ofSettings (settings : Json) : FluidOptions :=
  let options := ((settings.get? ["typography"]).map ofTypography).getD off
  if options.enabled && options.maxViewport.isNone then
    let wide := (settings.get? ["layout", "wideSize"]).bind Json.text?
    { options with maxViewport := wide.filter fun text ↦ (Length.read? text none).isSome }
  else options

end FluidOptions

/-! ### The scale -/

/-- What a fluid size is computed from. -/
structure FluidScale where
  minimum : Option String
  maximum : Option String
  /-- The size that a missing bound is derived from. -/
  size : Option String
  minViewport : Option String
  maxViewport : Option String
  /-- The size up to which nothing is fluid. -/
  limit : Option String

namespace FluidScale

/-- The width at which growth begins by default. -/
def defaultMinViewport : String := "320px"

/-- The width at which growth ends by default. -/
def defaultMaxViewport : String := "1600px"

/-- The default size up to which nothing is fluid. -/
def defaultLimit : String := "14px"

/-- The distance from one to the next greater fraction; a magnitude below it counts as zero. -/
def epsilon : Float := Float.ofBits 0x3CB0000000000000

/-- A value held between a quarter and three quarters. -/
def clampFactor (value : Float) : Float :=
  if value < 0.25 then 0.25 else if 0.75 < value then 0.75 else value

/-- The limit, in the unit of a size. -/
def limitIn? (scale : FluidScale) (unit : LengthUnit) : Option Length :=
  let given := scale.limit.filter fun text ↦ (Length.read? text none).isSome
  Length.read? (given.getD defaultLimit) (some unit)

/-- The least size for a size: a factor of it, or the limit if that is more. -/
def derivedMinimum (size : Length) (limit : Option Length) : String :=
  let pixels := if size.unit = .px then size.value else size.value * Length.rootSize
  let computed := Length.toThousandths (size.value * clampFactor (1 - 0.075 * pixels.log2))
  match limit with
  | some limit => if computed < limit.value then limit.text else Length.text ⟨computed, size.unit⟩
  | none => Length.text ⟨computed, size.unit⟩

/-- The least and the greatest size. -/
def bounds? (scale : FluidScale) : Option (String × String) :=
  match scale.size with
  | none => do return (← scale.minimum, ← scale.maximum)
  | some text => do
    let size ← Length.read? text none
    let limit := scale.limitIn? size.unit
    if scale.minimum.isNone && scale.maximum.isNone && limit.any (fun l ↦ size.value ≤ l.value) then
      none
    else
      some (scale.minimum.getD (derivedMinimum size limit), scale.maximum.getD size.text)

/-- The size in CSS, unless the texts give no scale. -/
def compute? (scale : FluidScale) : Option String := do
  let (minimum, maximum) ← scale.bounds?
  let low ← Length.read? minimum none
  let high ← Length.read? maximum (some low.unit)
  let rem ← Length.read? minimum (some .rem)
  let maxViewport ← Length.read? (scale.maxViewport.getD defaultMaxViewport) (some low.unit)
  let minViewport ← Length.read? (scale.minViewport.getD defaultMinViewport) (some low.unit)
  let span := maxViewport.value - minViewport.value
  if span.abs < epsilon then none
  else
    let offset : Length := ⟨Length.toThousandths (minViewport.value / 100), low.unit⟩
    let slope := Length.toThousandths (100 * ((high.value - low.value) / span))
    let factor := if slope.abs < epsilon then 1 else slope
    some ("clamp(" ++ minimum ++ ", " ++ rem.text ++ " + ((1vw - " ++ offset.text ++ ") * "
      ++ Length.layout.text factor ++ "), " ++ maximum ++ ")")

end FluidScale

/-! ### Font sizes -/

/-- The CSS text of a font size. `fluid` is the member of that name of a preset: `false` keeps the
size as it is, an object may hold bounds. -/
def fontSizeCss? (size : Json) (fluid : Option Json) (options : FluidOptions) : Option String :=
  size.css?.map fun raw ↦
    let declines := match fluid with
      | some (.bool false) => true
      | _ => false
    let isFluid := options.enabled || fluid.any FluidOptions.isOn
    if raw = "" || raw = "0" || declines || !isFluid then raw
    else
      let bound (key : String) : Option String :=
        (fluid.bind (·.get? [key])).bind Json.css?
      let scale : FluidScale :=
        { minimum := bound "min"
          maximum := bound "max"
          size := some raw
          minViewport := options.minViewport
          maxViewport := options.maxViewport
          limit := options.minFontSize }
      scale.compute?.getD raw

end GlobalStyles
