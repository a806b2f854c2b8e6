import GlobalStyles.Layout.Definition
import GlobalStyles.Layout.Gap
import GlobalStyles.Node.Style
import GlobalStyles.Style.Rule

/-!
# Layout rules

The rules of layout kinds for a node. Every node with layout support has the spacing rules of its
gap; the root also has the gap as a custom property, the display modes and the base styles.

While block gaps are off, the kind `default` has no rules, only the kind `flex` has spacing rules,
and these are wrapped in `:where()`, so that any rule of a theme outranks them.
-/

namespace GlobalStyles

namespace LayoutKind

/-- The kind that has no rules while block gaps are off. -/
def defaultName : String := "default"

/-- The kind that has spacing rules even while block gaps are off. -/
def flexName : String := "flex"

/-- The display modes that are emitted. -/
def displayModes : List String := ["block", "flex", "grid"]

/-- The selector of a template, without what stands before the class. -/
def target (kind : LayoutKind) (style : LayoutStyle) : String :=
  "." ++ kind.className ++ style.selector

end LayoutKind

namespace LayoutStyle

/-- The declarations of a spacing style: what has no text stands for the gap. -/
def spacing (style : LayoutStyle) (gap : String) : List Declaration :=
  style.rules.map fun (property, value) ↦ ⟨property, (value.css?.filter (· ≠ "")).getD gap⟩

/-- The declarations of a base style: what has no text is left out. -/
def base (style : LayoutStyle) : List Declaration :=
  style.rules.filterMap fun (property, value) ↦ value.css?.map (⟨property, ·⟩)

end LayoutStyle

namespace StyleNode

/-- The gap of a node. -/
def gap? (node : StyleNode) (gap : GapSupport) (space : String) : Option String :=
  let own :=
    if gap.blockGap then
      (node.styles.get? ["spacing", "blockGap"]).bind (GapSupport.css? · space)
    else none
  if node.isRoot then some (own.getD GapSupport.rootFallback)
  else if !gap.blockGap && gap.fallbackGap then node.fallbackGap.or own
  else own

/-- The selector of a spacing rule. -/
def spacingSelector (node : StyleNode) (blockGap : Bool) (target : String) : String :=
  match blockGap, node.isRoot with
  | true, true => rootSelector ++ " " ++ target
  | true, false => Selector.append node.selector target
  | false, true => ":where(" ++ target ++ ")"
  | false, false => ":where(" ++ Selector.append node.selector target ++ ")"

/-- The spacing rules of a node with a gap. -/
def spacingRules (node : StyleNode) (kinds : List LayoutKind) (blockGap : Bool) (gap : String) :
    List Rule :=
  (kinds.filter fun kind ↦ blockGap || kind.name == LayoutKind.flexName).flatMap fun kind ↦
    kind.spacingStyles.flatMap fun style ↦
      Rule.make .spaced (node.spacingSelector blockGap (kind.target style)) (style.spacing gap)

/-- The gap of the root as a custom property. -/
def gapProperty (gap space : String) : List Rule :=
  Rule.make .spaced rootSelector [⟨"--" ++ space ++ "--style--block-gap", gap⟩]

/-- The display mode and the base styles of a kind. -/
def baseRules (kind : LayoutKind) : List Rule :=
  ((kind.displayMode.filter LayoutKind.displayModes.contains).toList.flatMap fun mode ↦
      Rule.make .tight (rootSelector ++ " ." ++ kind.className) [⟨"display", mode⟩]) ++
    kind.baseStyles.flatMap fun style ↦
      Rule.make .spaced (rootSelector ++ " " ++ kind.target style) style.base

/-- The layout rules of a node. -/
def layoutRules (node : StyleNode) (kinds : List LayoutKind) (gap : GapSupport) (space : String) :
    List Rule :=
  if (!node.isRoot && !node.hasLayoutSupport) || kinds.isEmpty then []
  else
    let kinds := kinds.filter fun kind ↦ gap.blockGap || kind.name != LayoutKind.defaultName
    let spaced :=
      match node.gap? gap space with
      | none => []
      | some value =>
        node.spacingRules kinds gap.blockGap value ++
          if node.isRoot && gap.blockGap then gapProperty value space else []
    spaced ++ if node.isRoot then kinds.flatMap baseRules else []

end StyleNode

end GlobalStyles
