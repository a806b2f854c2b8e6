import GlobalStyles.Json.Printer
import GlobalStyles.Stylesheet.Compile

/-!
# Bundles as JSON

The tree of a bundle for hosts that want more than the stylesheets.
-/

namespace GlobalStyles

/-- A text, or `null`. -/
def Json.ofText? : Option String → Json
  | none => .null
  | some text => .str text

/-- The tree of a problem. -/
def Diagnostic.toJson : Diagnostic → Json
  | unresolvedReference token scope =>
    .obj [("kind", .str "unresolvedReference"), ("token", .str token),
      ("scope", Json.ofText? scope)]
  | registryMismatch scope => .obj [("kind", .str "registryMismatch"), ("scope", .str scope)]

/-- The tree of a colour. -/
def Rgba.toJson (color : Rgba) : Json :=
  let channel (value : UInt8) : Json := .num (.int value.toNat)
  .obj [("r", channel color.r), ("g", channel color.g), ("b", channel color.b),
    ("a", channel color.a)]

/-- The tree of a stop. -/
def ColorStop.toJson (stop : ColorStop) : Json :=
  .obj [("color", .str stop.color), ("rgba", (stop.rgba.map Rgba.toJson).getD .null)]

/-- The tree of a filter. -/
def DuotoneFilter.toJson (filter : DuotoneFilter) : Json :=
  .obj [("presetSlug", .str filter.presetSlug), ("filterId", .str filter.filterId),
    ("colorStops", .arr (filter.stops.map ColorStop.toJson))]

/-- The tree of a bundle. -/
def Bundle.toJson (bundle : Bundle) : Json :=
  .obj [("customPropertiesCss", .str bundle.customPropertiesCss),
    ("stylesCss", .str bundle.stylesCss),
    ("customCss", .str bundle.customCss),
    ("filterDefinitions", .arr (bundle.filters.map DuotoneFilter.toJson)),
    ("diagnostics", .arr (bundle.diagnostics.map Diagnostic.toJson))]

end GlobalStyles
