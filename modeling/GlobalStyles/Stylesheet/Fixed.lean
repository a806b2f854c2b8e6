import GlobalStyles.Element
import GlobalStyles.Json.Path
import GlobalStyles.Json.Scalar
import GlobalStyles.Style.Rule

/-!
# Rules around the nodes

The rules that every stylesheet has, whatever its nodes are: the reset of the root with the global
sizes, the alignments that are aware of the root's padding, the alignments of the site's blocks and
the margins of block gaps.
-/

namespace GlobalStyles.Stylesheet

/-- Declarations of fixed properties and values. -/
def fixed (declarations : List (String × String)) : List Declaration :=
  declarations.map fun (property, value) ↦ ⟨property, value⟩

/-! ### The reset -/

/-- The padding of a side of the root. -/
def rootPadding (space side : String) : String :=
  "var(--" ++ space ++ "--style--root--padding-" ++ side ++ ")"

/-- The global sizes of the layout settings. -/
def globalSizes (settings : Json) (space : String) : List Declaration :=
  [("contentSize", "content-size"), ("wideSize", "wide-size")].filterMap fun (key, name) ↦
    ((settings.get? ["layout", key]).bind Json.css?).map
      (⟨"--" ++ space ++ "--style--global--" ++ name, ·⟩)

/-- The paddings of the root while they are in custom properties. -/
def rootPaddings (space : String) : List Declaration :=
  fixed
    [("padding-right", "0"), ("padding-left", "0"), ("padding-top", rootPadding space "top"),
      ("padding-bottom", rootPadding space "bottom")]

/-- The alignments that are aware of the root's padding. -/
def paddingAlignments (space : String) : List Rule :=
  let right := rootPadding space "right"
  let left := rootPadding space "left"
  let inline := fixed [("padding-right", right), ("padding-left", left)]
  let none := fixed [("padding-right", "0"), ("padding-left", "0")]
  let children := " > :where(.wp-block:not(.alignfull),p,h1,h2,h3,h4,h5,h6,ul,ol)"
  let full := " > .alignfull:where(:not(.has-global-padding))"
  let padded := ".has-global-padding"
  let nested := ".has-global-padding :where(.has-global-padding)"
  Rule.make .spaced padded inline ++
    Rule.make .spaced nested none ++
    Rule.make .spaced (padded ++ " > .alignfull")
      (fixed [("margin-right", "calc(" ++ right ++ " * -1)"),
        ("margin-left", "calc(" ++ left ++ " * -1)")]) ++
    Rule.make .spaced (nested ++ " > .alignfull")
      (fixed [("margin-right", "0"), ("margin-left", "0")]) ++
    Rule.make .spaced (padded ++ full ++ children) inline ++
    Rule.make .spaced (nested ++ full ++ children) none

/-- The reset of the root. -/
def reset (settings : Json) (space : String) (paddingAlign : Bool) : List Rule :=
  let declarations := fixed [("margin", "0")] ++ globalSizes settings space
  if paddingAlign then
    Rule.make .terminated rootSelector (declarations ++ rootPaddings space) ++
      paddingAlignments space
  else Rule.make .terminated rootSelector declarations

/-! ### Alignments and gaps -/

/-- The alignments of the site's blocks. -/
def alignments : List Rule :=
  Rule.make .spaced ".wp-site-blocks > .alignleft"
      (fixed [("float", "left"), ("margin-right", "2em")]) ++
    Rule.make .spaced ".wp-site-blocks > .alignright"
      (fixed [("float", "right"), ("margin-left", "2em")]) ++
    Rule.make .spaced ".wp-site-blocks > .aligncenter"
      (fixed [("justify-content", "center"), ("margin-left", "auto"), ("margin-right", "auto")])

/-- The margins that a gap puts between the site's blocks. -/
def gapMargins (gap : String) : List Rule :=
  Rule.make .spaced ":where(.wp-site-blocks) > *"
      (fixed [("margin-block-start", gap), ("margin-block-end", "0")]) ++
    Rule.make .spaced ":where(.wp-site-blocks) > :first-child:first-child"
      (fixed [("margin-block-start", "0")]) ++
    Rule.make .spaced ":where(.wp-site-blocks) > :last-child:last-child"
      (fixed [("margin-block-end", "0")])

end GlobalStyles.Stylesheet
