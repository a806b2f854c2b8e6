import GlobalStyles.Color.Reader
import GlobalStyles.Preset.Catalog

/-!
# Duotone filters

A duotone preset compiles to the address of a filter effect, which the host has to provide. This is
the data for these effects: the stops of the gradient, and for every channel the table that maps
intensities to it.

Filters are collected from the default and the theme origin, the root's first and then those of each
block in order. A user's own duotone is drawn where it is used.
-/

namespace GlobalStyles

/-- A colour of a gradient, as written and as read. -/
structure ColorStop where
  color : String
  rgba : Option Rgba

/-- What a host needs to provide a duotone effect. -/
structure DuotoneFilter where
  presetSlug : String
  /-- The id that the value of the preset points at. -/
  filterId : String
  stops : List ColorStop

/-- For every channel, its share at each stop. -/
structure TransferTables where
  r : List String
  g : List String
  b : List String
  a : List String

namespace DuotoneFilter

/-! ### Tables -/

/-- A channel as a share of its full intensity, with six decimals, to the nearest one. -/
def share (channel : UInt8) : String :=
  let millionths := BinaryFormat.roundQuotient (channel.toNat * Nat.pow 10 6) 255
  let digits := Nat.toDigits 10 (millionths % Nat.pow 10 6)
  toString (millionths / Nat.pow 10 6) ++ "." ++
    String.ofList (List.replicate (6 - digits.length) '0' ++ digits)

/-- The tables of the stops whose colour could be read. -/
def transferTables (filter : DuotoneFilter) : TransferTables :=
  let colors := filter.stops.filterMap ColorStop.rgba
  { r := colors.map fun c ↦ share c.r
    g := colors.map fun c ↦ share c.g
    b := colors.map fun c ↦ share c.b
    a := colors.map fun c ↦ share c.a }

/-! ### Collecting -/

/-- The origins whose filters are collected. -/
def origins : List Origin := [.default, .theme]

/-- The stops of an item: the strings of its colours. -/
def stopsOf (item : Json) : List ColorStop :=
  let colors := (item.member? PresetCategory.duotone.valueKey).bind Json.items?
  (colors.getD []).filterMap fun color ↦
    color.text?.map fun text ↦ ⟨text, Rgba.parse? text⟩

/-- The id of the filter of a slug. -/
def idOf (space slug : String) : String :=
  space ++ "-duotone-" ++ Text.kebabCase slug

/-- The filter of an item, if it has a slug. -/
def ofItem? (space : String) (item : Json) : Option DuotoneFilter :=
  (Preset.slug? item).map fun slug ↦ ⟨slug, idOf space slug, stopsOf item⟩

/-- The filters of the settings of the root or of a block. -/
def ofSource (space : String) (source : Json) : List DuotoneFilter :=
  origins.flatMap fun origin ↦
    (PresetCategory.duotone.catalog source origin).filterMap (ofItem? space)

/-- The filters of all settings. -/
def collect (settings : Json) (space : String) : List DuotoneFilter :=
  let blocks := ((settings.get? ["blocks"]).bind Json.fields?).getD []
  (settings :: blocks.map Prod.snd).flatMap (ofSource space)

end DuotoneFilter

end GlobalStyles
