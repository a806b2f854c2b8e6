import GlobalStyles.Style.Context
import GlobalStyles.Style.Extract
import GlobalStyles.Style.Rule

/-!
# Declarations of a style subtree

A subtree is first read into a list of properties with the texts of their values as written,
`StyleContext.written`. From this list come both the declarations, where references are compiled and
font sizes may become fluid, and the reports of presets that are not there. So the two agree in
number and order.
-/

namespace GlobalStyles

/-- A property with the text of its value as written. -/
structure Written where
  property : String
  text : String
  deriving DecidableEq

/-- The styles with the defaults of a background image: away from the root it covers its block
unless its size is given as a text, and a contained one is centred unless its position is given. -/
def withBackgroundDefaults (styles : Json) (isRoot : Bool) : Json :=
  if isRoot || (styles.get? ["background", "backgroundImage"]).isNone then styles
  else
    match (styles.get? ["background", "backgroundSize"]).bind Json.text? with
    | none => styles.set ["background", "backgroundSize"] (.str "cover")
    | some size =>
      if size = "contain" && (styles.get? ["background", "backgroundPosition"]).isNone then
        styles.set ["background", "backgroundPosition"] (.str "50% 50%")
      else styles

namespace StyleContext

/-- Whether a rule is left to the layout: at the root, a padding or margin in one text, and every
padding while it goes into custom properties. -/
def isLeftToLayout (ctx : StyleContext) (isRoot : Bool) (rule : StyleRule) : Bool :=
  isRoot &&
    (((rule.property == "padding" || rule.property == "margin") && rule.value.text?.isSome) ||
      (ctx.paddingAlign && "padding".toList.isPrefixOf rule.property.toList))

/-- The rules of a subtree, first those read straight from the table of properties. -/
def rules (ctx : StyleContext) (styles : Json) (isRoot : Bool) : List StyleRule :=
  ((StyleProperty.all.filter (·.isDirect isRoot)).flatMap
      (·.rules styles ctx.space ctx.paddingAlign)) ++
    (StyleRule.extract (withBackgroundDefaults styles isRoot)).filter
      fun rule ↦ !ctx.isLeftToLayout isRoot rule

/-- The rules whose value has a text, with that text. -/
def written (ctx : StyleContext) (styles : Json) (isRoot : Bool) : List Written :=
  (ctx.rules styles isRoot).filterMap fun rule ↦
    (ctx.text? rule.value).map (Written.mk rule.property)

/-- The declaration of a property. -/
def declare (ctx : StyleContext) (written : Written) : Declaration :=
  let css := Reference.compile written.text ctx.space
  let css :=
    if written.property = "font-size" then (fontSizeCss? (.str css) none ctx.fluid).getD css
    else css
  ⟨written.property, css⟩

/-- The declarations of a subtree. -/
def declarations (ctx : StyleContext) (styles : Json) (isRoot : Bool) : List Declaration :=
  (ctx.written styles isRoot).map ctx.declare

/-- The problems met in a subtree. -/
def diagnostics (ctx : StyleContext) (styles : Json) (isRoot : Bool) : List Diagnostic :=
  (ctx.written styles isRoot).flatMap fun written ↦ ctx.reports written.text

end StyleContext

end GlobalStyles
