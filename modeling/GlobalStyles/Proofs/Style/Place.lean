import GlobalStyles.Proofs.Json.Child
import GlobalStyles.Style.Extract

/-!
# The places that are read among styles

`StyleRule.extract` goes through a style subtree category by category. Here it is put as one table:
a place is a path with the form of the value there, and extraction is what each place of
`StylePlace.all` says, in order (`StyleRule.extract_eq`). Statements about every declaration of a
subtree need to look at three forms of values then and not at nine categories.

Each place is read by `Json.get?` alone. That is why a missing member and a `null`, or the order of
members, never show in what is extracted.
-/

namespace GlobalStyles

/-- How a value stands for properties. -/
inductive StyleForm where
  /-- The value of one property. -/
  | single (property : String)
  /-- An object has a value for each side, by key and property; everything else is the value of one
  property. -/
  | sided (property : String) (sides : List (String × String))
  /-- A background image. -/
  | image

/-- What a value says about properties. -/
def StyleForm.rules : StyleForm → Json → List StyleRule
  | single property, value => [⟨property, value⟩]
  | sided property sides, value =>
    if value.isObject then sides.flatMap fun side ↦ StyleRule.at? value [side.1] side.2
    else [⟨property, value⟩]
  | image, value =>
    match (value.get? ["url"]).bind Json.text? with
    | some url => [⟨"background-image", .str ("url( '" ++ url ++ "' )")⟩]
    | none => if value.text?.isSome then [⟨"background-image", value⟩] else []

/-- A place among styles, with the form of its value. -/
structure StylePlace where
  path : List String
  form : StyleForm

namespace StylePlace

/-- What styles say at a place. -/
def rules (place : StylePlace) (styles : Json) : List StyleRule :=
  ((styles.get? place.path).map place.form.rules).getD []

/-- Members of a category that are the value of one property each. -/
def plain (category : String) (table : List (String × String)) : List StylePlace :=
  table.map fun entry ↦ ⟨[category, entry.1], .single entry.2⟩

/-- Padding or margin. -/
def box (property : String) : StylePlace :=
  ⟨["spacing", property],
    .sided property (StyleRule.sides.map fun side ↦ (side, property ++ "-" ++ side))⟩

/-- Colour, radius, style and width of borders. -/
def border : List StylePlace :=
  [⟨["border", "color"], .single "border-color"⟩,
    ⟨["border", "radius"], .sided "border-radius"
      (StyleRule.corners.map fun corner ↦ (corner.1, "border-" ++ corner.2 ++ "-radius"))⟩] ++
    (["style", "width"].map fun key ↦ ⟨["border", key], .single ("border-" ++ key)⟩) ++
    StyleRule.sides.flatMap fun side ↦
      ["color", "style", "width"].map fun key ↦
        ⟨["border", side, key], .single ("border-" ++ side ++ "-" ++ key)⟩

/-- The places before the backgrounds whose values are members of a category. -/
def members : List StylePlace :=
  border ++
    plain "color"
      [("text", "color"), ("gradient", "background"), ("background", "background-color")] ++
    plain "dimensions" [("minHeight", "min-height"), ("aspectRatio", "aspect-ratio")] ++
    plain "outline"
      [("color", "outline-color"), ("offset", "outline-offset"), ("style", "outline-style"),
        ("width", "outline-width")] ++
    [box "padding", box "margin"] ++
    plain "typography"
      [("fontFamily", "font-family"), ("fontSize", "font-size"), ("fontStyle", "font-style"),
        ("fontWeight", "font-weight"), ("lineHeight", "line-height"),
        ("letterSpacing", "letter-spacing"), ("textColumns", "column-count"),
        ("textDecoration", "text-decoration"), ("textTransform", "text-transform"),
        ("writingMode", "writing-mode")]

/-- The one place that is no member of a category. -/
def shadow : StylePlace := ⟨["shadow"], .single "box-shadow"⟩

/-- The background image and how it is laid out. -/
def background : List StylePlace :=
  ⟨["background", "backgroundImage"], .image⟩ ::
    plain "background"
      [("backgroundPosition", "background-position"), ("backgroundRepeat", "background-repeat"),
        ("backgroundSize", "background-size"), ("backgroundAttachment", "background-attachment")]

/-- The places in the order of their declarations. -/
def all : List StylePlace :=
  members ++ shadow :: background

/-! ### Extraction -/

theorem rules_single (styles : Json) (path : List String) (property : String) :
    rules ⟨path, .single property⟩ styles = StyleRule.at? styles path property := by
  rw [rules, StyleRule.at?]
  rcases styles.get? path with - | value <;> rfl

/-- The plain places of a category are its members, one after another. -/
theorem flatMap_rules_plain (styles : Json) (category : String) (table : List (String × String)) :
    (plain category table).flatMap (·.rules styles) = StyleRule.plain styles category table := by
  rw [plain, StyleRule.plain, List.flatMap_map]
  congr 1
  funext entry
  exact rules_single styles [category, entry.1] entry.2

theorem rules_box (styles : Json) (property : String) :
    (box property).rules styles = StyleRule.box styles property := by
  rw [rules, StyleRule.box, box]
  rcases styles.get? ["spacing", property] with - | value
  · rfl
  · simp only [Option.map_some, Option.getD_some, StyleForm.rules, List.flatMap_map]

/-- A radius is one text or one for each corner. -/
theorem rules_radius (styles : Json) :
    rules ⟨["border", "radius"], .sided "border-radius"
      (StyleRule.corners.map fun corner ↦ (corner.1, "border-" ++ corner.2 ++ "-radius"))⟩ styles =
      StyleRule.radius styles := by
  rw [rules, StyleRule.radius]
  rcases styles.get? ["border", "radius"] with - | value
  · rfl
  · simp only [Option.map_some, Option.getD_some, StyleForm.rules, List.flatMap_map]

/-- The places of a border are its plain members and those of its sides. -/
theorem flatMap_rules_border (styles : Json) :
    border.flatMap (·.rules styles) = StyleRule.border styles := by
  simp only [border, StyleRule.border, List.flatMap_append, List.flatMap_assoc, List.flatMap_map,
    List.flatMap_cons, List.flatMap_nil, List.append_nil, rules_single, rules_radius]

/-- The places of a background are its members. -/
theorem flatMap_rules_background (styles : Json) :
    background.flatMap (·.rules styles) = StyleRule.background styles := by
  rw [background, List.flatMap_cons, flatMap_rules_plain, StyleRule.background,
    StyleRule.backgroundImage, rules]
  rcases styles.get? ["background", "backgroundImage"] with - | value <;> rfl

end StylePlace

/-- **Extraction is one table of places.** -/
theorem StyleRule.extract_eq (styles : Json) :
    extract styles = StylePlace.all.flatMap (·.rules styles) := by
  simp only [extract, color, dimensions, outline, typography, StylePlace.all, StylePlace.members,
    List.flatMap_append, List.flatMap_cons, List.flatMap_nil, List.append_nil,
    StylePlace.flatMap_rules_border, StylePlace.flatMap_rules_plain, StylePlace.rules_box,
    StylePlace.shadow, StylePlace.rules_single, StylePlace.flatMap_rules_background,
    List.append_assoc]

end GlobalStyles
