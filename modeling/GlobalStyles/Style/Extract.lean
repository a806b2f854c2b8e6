import GlobalStyles.Style.Property

/-!
# Reading styles by category

The categories of a style subtree, in the order of their declarations: borders, colours, dimensions,
outlines, paddings, margins, typography, shadows and backgrounds. Values stay as they are.
-/

namespace GlobalStyles.StyleRule

/-- The value at a path as a rule, if there is one. -/
def at? (styles : Json) (path : List String) (property : String) : List StyleRule :=
  ((styles.get? path).map (StyleRule.mk property)).toList

/-- The members of a category that map one to one, in the order of a table of keys and
properties. -/
def plain (styles : Json) (category : String) (table : List (String × String)) : List StyleRule :=
  table.flatMap fun (key, property) ↦ at? styles [category, key] property

/-- The sides of a box. -/
def sides : List String := ["top", "right", "bottom", "left"]

/-- The corners of a box, by key and by name. -/
def corners : List (String × String) :=
  [("topLeft", "top-left"), ("topRight", "top-right"), ("bottomLeft", "bottom-left"),
    ("bottomRight", "bottom-right")]

/-! ### Categories -/

/-- A radius for each corner, or one for all. -/
def radius (styles : Json) : List StyleRule :=
  match styles.get? ["border", "radius"] with
  | none => []
  | some value =>
    if value.isObject then
      corners.flatMap fun (key, corner) ↦ at? value [key] ("border-" ++ corner ++ "-radius")
    else [⟨"border-radius", value⟩]

/-- Colour, radius, style and width of all borders, then those of each side. -/
def border (styles : Json) : List StyleRule :=
  at? styles ["border", "color"] "border-color" ++ radius styles ++
    (["style", "width"].flatMap fun key ↦ at? styles ["border", key] ("border-" ++ key)) ++
    sides.flatMap fun side ↦
      ["color", "style", "width"].flatMap fun key ↦
        at? styles ["border", side, key] ("border-" ++ side ++ "-" ++ key)

/-- The colours of the text and of what is behind it. -/
def color (styles : Json) : List StyleRule :=
  plain styles "color"
    [("text", "color"), ("gradient", "background"), ("background", "background-color")]

/-- The least height and the aspect ratio. -/
def dimensions (styles : Json) : List StyleRule :=
  plain styles "dimensions" [("minHeight", "min-height"), ("aspectRatio", "aspect-ratio")]

/-- The outline around the border. -/
def outline (styles : Json) : List StyleRule :=
  plain styles "outline"
    [("color", "outline-color"), ("offset", "outline-offset"), ("style", "outline-style"),
      ("width", "outline-width")]

/-- Padding or margin: an object has a value for each side, everything else is the shorthand. -/
def box (styles : Json) (property : String) : List StyleRule :=
  match styles.get? ["spacing", property] with
  | none => []
  | some value =>
    if value.isObject then sides.flatMap fun side ↦ at? value [side] (property ++ "-" ++ side)
    else [⟨property, value⟩]

/-- Everything about the text but its colour. -/
def typography (styles : Json) : List StyleRule :=
  plain styles "typography"
    [("fontFamily", "font-family"), ("fontSize", "font-size"), ("fontStyle", "font-style"),
      ("fontWeight", "font-weight"), ("lineHeight", "line-height"),
      ("letterSpacing", "letter-spacing"), ("textColumns", "column-count"),
      ("textDecoration", "text-decoration"), ("textTransform", "text-transform"),
      ("writingMode", "writing-mode")]

/-- A background image: an object with an address, or a text. -/
def backgroundImage (styles : Json) : List StyleRule :=
  match styles.get? ["background", "backgroundImage"] with
  | none => []
  | some image =>
    match (image.get? ["url"]).bind Json.text? with
    | some url => [⟨"background-image", .str ("url( '" ++ url ++ "' )")⟩]
    | none => if image.text?.isSome then [⟨"background-image", image⟩] else []

/-- The background image and how it is laid out. -/
def background (styles : Json) : List StyleRule :=
  backgroundImage styles ++
    plain styles "background"
      [("backgroundPosition", "background-position"), ("backgroundRepeat", "background-repeat"),
        ("backgroundSize", "background-size"), ("backgroundAttachment", "background-attachment")]

/-- Everything a style subtree says, category by category. -/
def extract (styles : Json) : List StyleRule :=
  border styles ++ color styles ++ dimensions styles ++ outline styles ++ box styles "padding" ++
    box styles "margin" ++ typography styles ++ at? styles ["shadow"] "box-shadow" ++
    background styles

end GlobalStyles.StyleRule
