import GlobalStyles.Json.Decode
import GlobalStyles.Json.Path

/-!
# Layout kinds

A theme declares its layouts in `settings.layout.definitions`. Each kind names the class of its
containers, perhaps a display mode, and two lists of rule templates: base styles, which are emitted
once, and spacing styles, in which a `null` stands for the gap. A kind that is not well formed is
skipped.
-/

namespace GlobalStyles

/-- A rule template of a layout kind. -/
structure LayoutStyle where
  /-- What follows the selector of the layout class. -/
  selector : String
  /-- The values of properties, in order. -/
  rules : Fields

/-- A layout kind. -/
structure LayoutKind where
  name : String
  slug : String
  /-- The class of containers. -/
  className : String
  /-- The display mode of containers. -/
  displayMode : Option String
  /-- Rules that are emitted once. -/
  baseStyles : List LayoutStyle
  /-- Rules that are emitted for every node with a gap. -/
  spacingStyles : List LayoutStyle

/-- The template that a value is. -/
def LayoutStyle.decode? (value : Json) : Option LayoutStyle := do
  match ← Decode.record? ["selector", "rules"] value with
  | [selector, rules] =>
    let selector ← Decode.memberOr? Decode.text? "" selector
    let rules ← Decode.memberOr? Json.fields? [] rules
    some ⟨selector, rules⟩
  | _ => none

/-- The tree of a template. -/
def LayoutStyle.toJson (style : LayoutStyle) : Json :=
  .obj [("selector", .str style.selector), ("rules", .obj style.rules)]

namespace LayoutKind

/-- The members of a kind. -/
def memberKeys : List String :=
  ["name", "slug", "className", "displayMode", "baseStyles", "spacingStyles"]

/-- The kind that a value is. -/
def decode? (value : Json) : Option LayoutKind := do
  match ← Decode.record? memberKeys value with
  | [name, slug, className, displayMode, baseStyles, spacingStyles] =>
    let name ← Decode.memberOr? Decode.text? "" name
    let slug ← Decode.memberOr? Decode.text? "" slug
    let className ← Decode.memberOr? Decode.text? "" className
    let displayMode ← Decode.memberOr? (Decode.nullable? Decode.text?) none displayMode
    let baseStyles ← Decode.memberOr? (Decode.list? LayoutStyle.decode?) [] baseStyles
    let spacingStyles ← Decode.memberOr? (Decode.list? LayoutStyle.decode?) [] spacingStyles
    some ⟨name, slug, className, displayMode, baseStyles, spacingStyles⟩
  | _ => none

/-- A kind under a key, which is its name if it has no other. -/
def ofMember? (member : String × Json) : Option LayoutKind :=
  (decode? member.2).map fun kind ↦
    if kind.name = "" then { kind with name := member.1 } else kind

/-- The kinds of a tree, in order. -/
def all (tree : Json) : List LayoutKind :=
  (((tree.get? ["settings", "layout", "definitions"]).map Json.entries).getD []).filterMap ofMember?

/-- The tree of a kind. -/
def toJson (kind : LayoutKind) : Json :=
  .obj <|
    [("name", .str kind.name), ("slug", .str kind.slug), ("className", .str kind.className)] ++
    (kind.displayMode.map fun mode ↦ ("displayMode", Json.str mode)).toList ++
    [("baseStyles", .arr (kind.baseStyles.map LayoutStyle.toJson)),
      ("spacingStyles", .arr (kind.spacingStyles.map LayoutStyle.toJson))]

end LayoutKind

end GlobalStyles
