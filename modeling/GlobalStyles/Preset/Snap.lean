import GlobalStyles.Preset.Catalog

/-!
# Snapping values to presets

A style value that equals the value of a live preset can be replaced by a reference to it. Which
category a value may snap to follows from its place among the styles.
-/

namespace GlobalStyles

/-- The places among the styles whose values may snap, with their categories. -/
def snappingPaths : List (String × PresetCategory) :=
  [("border.color", .color),
    ("color.background", .color),
    ("color.text", .color),
    ("color.gradient", .gradient),
    ("typography.fontSize", .fontSize),
    ("typography.fontFamily", .fontFamily),
    ("shadow", .shadow),
    ("filter.duotone", .duotone),
    ("elements.link.color.text", .color),
    ("elements.link.:hover.color.text", .color),
    ("elements.button.color.text", .color),
    ("elements.button.color.background", .color),
    ("elements.caption.color.text", .color),
    ("elements.heading.color", .color),
    ("elements.heading.color.background", .color),
    ("elements.heading.typography.fontFamily", .fontFamily),
    ("elements.heading.gradient", .gradient),
    ("elements.heading.color.gradient", .gradient)] ++
  ["h1", "h2", "h3", "h4", "h5", "h6"].flatMap fun heading ↦
    [("elements." ++ heading ++ ".color", .color),
      ("elements." ++ heading ++ ".color.background", .color)]

/-- The category of a place among the styles. -/
def PresetCategory.ofStylePath? (stylePath : String) : Option PresetCategory :=
  (snappingPaths.find? fun entry ↦ entry.1 == stylePath).map Prod.snd

/-- A token for the live preset that has this value, or the value itself. -/
def Reference.snap (settings : Json) (scope : Option String) (stylePath value : String) : String :=
  if value = "" then ""
  else
    match PresetCategory.ofStylePath? stylePath with
    | none => value
    | some category =>
      match (Preset.findBy? settings scope category.path category.valueKey (.str value)).bind
          Preset.slug? with
      | some slug => "ref:preset|" ++ category.segment ++ "|" ++ slug
      | none => value

end GlobalStyles
