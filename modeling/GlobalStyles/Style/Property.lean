import GlobalStyles.Json.Path
import GlobalStyles.Json.Scalar

/-!
# Style properties

The inventory of what a style subtree may hold, with the CSS property each place stands for. Most
places are read category by category (see `StyleRule.extract`) and are listed for completeness; the
others, the duotone filter and the padding of the root, are read straight from this table.
-/

namespace GlobalStyles

/-- A place among the styles and the property it stands for. -/
structure StyleProperty where
  /-- The property. After a leading `--` the namespace goes in. -/
  cssName : String
  /-- The keys that lead to the value, inside a style subtree. -/
  path : List String
  /-- The members that a value may be split into, each with the suffix of its property. -/
  sides : List (String × String)
  /-- Whether only the root has this property. -/
  rootOnly : Bool
  /-- Whether the value is read with its category. -/
  isExtracted : Bool
  /-- Whether the property needs alignments that are aware of the root's padding. -/
  needsPaddingAlignment : Bool

namespace StyleProperty

/-- A place that is read with its category. -/
def extracted (cssName : String) (path : List String) : StyleProperty :=
  ⟨cssName, path, [], false, true, false⟩

/-- Whether the value belongs to an element. -/
def isOfElement (property : StyleProperty) : Bool :=
  property.path.head? == some "elements"

/-- The name of the property under a namespace. -/
def name (property : StyleProperty) (space : String) : String :=
  match property.cssName.toList with
  | '-' :: '-' :: rest => "--" ++ space ++ "--" ++ String.ofList rest
  | _ => property.cssName

/-- The places in the order of their declarations. -/
def all : List StyleProperty :=
  [extracted "background" ["color", "gradient"],
    extracted "background-color" ["color", "background"],
    extracted "color" ["color", "text"],
    extracted "border-color" ["border", "color"],
    extracted "border-radius" ["border", "radius"],
    extracted "border-style" ["border", "style"],
    extracted "border-width" ["border", "width"],
    extracted "min-height" ["dimensions", "minHeight"],
    extracted "aspect-ratio" ["dimensions", "aspectRatio"],
    ⟨"filter", ["filter", "duotone"], [], false, false, false⟩,
    ⟨"--style--root--padding", ["spacing", "padding"],
      [("top", "top"), ("right", "right"), ("bottom", "bottom"), ("left", "left")],
      true, false, true⟩,
    extracted "margin" ["spacing", "margin"],
    extracted "padding" ["spacing", "padding"],
    extracted "box-shadow" ["shadow"],
    extracted "outline-color" ["outline", "color"],
    extracted "font-family" ["typography", "fontFamily"],
    extracted "font-size" ["typography", "fontSize"],
    extracted "font-style" ["typography", "fontStyle"],
    extracted "font-weight" ["typography", "fontWeight"],
    extracted "line-height" ["typography", "lineHeight"],
    extracted "letter-spacing" ["typography", "letterSpacing"],
    extracted "text-decoration" ["typography", "textDecoration"],
    extracted "text-transform" ["typography", "textTransform"],
    extracted "writing-mode" ["typography", "writingMode"],
    extracted "color" ["elements", "link", "color", "text"],
    extracted "color" ["elements", "button", "color", "text"],
    extracted "background-color" ["elements", "button", "color", "background"],
    extracted "color" ["elements", "caption", "color", "text"],
    extracted "color" ["elements", "heading", "color", "text"]]

/-- Whether the value is read straight from the table, for the root or for another node. -/
def isDirect (property : StyleProperty) (isRoot : Bool) : Bool :=
  (isRoot || !property.rootOnly) && !property.isOfElement && !property.isExtracted

end StyleProperty

/-- A property with its value as it stands among the styles. -/
structure StyleRule where
  property : String
  value : Json

namespace StyleProperty

/-- What a style subtree says about a property: one value, or one for each side. What is not truthy
says nothing. -/
def rules (property : StyleProperty) (styles : Json) (space : String) (paddingAlign : Bool) :
    List StyleRule :=
  match styles.get? property.path with
  | none => []
  | some value =>
    let name := property.name space
    if property.needsPaddingAlignment && (value.text?.isSome || !paddingAlign) then []
    else if !property.sides.isEmpty && value.isObject then
      property.sides.filterMap fun (suffix, key) ↦
        ((value.get? [key]).filter Json.isTruthy).map (⟨name ++ "-" ++ suffix, ·⟩)
    else if value.isTruthy then [⟨name, value⟩]
    else []

end StyleProperty

end GlobalStyles
