import GlobalStyles.Layout.Rules
import GlobalStyles.Stylesheet.Options
import GlobalStyles.Style.Feature

/-!
# The rules of a style node

`NodeParts.ofNode` takes the styles of a node apart: what features with selectors of their own take,
the block style variations, the duotone filter, the node's own styles, and its pseudo-selectors. The
rules of a node are the rules of these parts in this order, its layout rules between the filter and
the node's own, and its diagnostics are theirs in the same order.
-/

namespace GlobalStyles

/-- The styles of a block style variation, taken apart. -/
structure VariationParts where
  name : String
  selector : String
  features : List FeaturePart
  own : Json

/-- The styles of a node, taken apart. -/
structure NodeParts where
  features : List FeaturePart
  variations : List VariationParts
  /-- The selector of the filter, and the styles that hold it. -/
  duotone : Option (String × Json)
  own : Json
  /-- The pseudo-selectors with their styles. -/
  pseudo : Fields

namespace VariationParts

/-- A variation of a node, if the styles have one of this name. -/
def ofStyles? (node : StyleNode) (styles : Json) (variation : String × String) :
    Option VariationParts :=
  (styles.get? ["variations", variation.1]).map fun subtree ↦
    let (features, own) := FeaturePart.take node.featureSelectors subtree
    ⟨variation.1, variation.2, features, own⟩

/-- The rules of a variation: those of its features, in which the class of the variation goes into
the selector, then its own. -/
def rules (ctx : StyleContext) (parts : VariationParts) : List Rule :=
  ((FeaturePart.groups ctx parts.features).flatMap fun (selector, declarations) ↦
      Rule.make .unterminated (Selector.withVariation parts.name selector) declarations) ++
    Rule.make .unterminated parts.selector (ctx.declarations parts.own false)

/-- The problems met in a variation. -/
def diagnostics (ctx : StyleContext) (parts : VariationParts) : List Diagnostic :=
  FeaturePart.diagnostics ctx parts.features ++ ctx.diagnostics parts.own false

end VariationParts

namespace NodeParts

/-- Take the filter out of the styles, if it goes to a selector of its own. -/
def takeDuotone (selector : Option String) (styles : Json) : Option (String × Json) × Json :=
  match selector, styles with
  | some selector, .obj fields =>
    match Entries.get? fields "filter" with
    | none => (none, styles)
    | some filter =>
      (some (selector, .obj [("filter", filter)]), .obj (Entries.swapRemove fields "filter"))
  | _, _ => (none, styles)

/-- Whether a key is a pseudo-selector. -/
def isPseudo (key : String) : Bool :=
  key.toList.head? == some ':'

/-- The styles of a node, taken apart. -/
def ofNode (node : StyleNode) (variationStyles : Bool) : NodeParts :=
  let (features, styles) := FeaturePart.take node.featureSelectors node.styles
  let (duotone, own) := takeDuotone node.duotoneSelector styles
  { features := features
    variations :=
      if variationStyles then
        node.variationSelectors.filterMap (VariationParts.ofStyles? node styles)
      else []
    duotone := duotone
    own := own
    pseudo := own.entries.filter fun entry ↦ isPseudo entry.1 }

end NodeParts

namespace StyleNode

/-- The rules of a node, with its layout rules given. -/
def rules (node : StyleNode) (ctx : StyleContext) (variationStyles : Bool) (layout : List Rule) :
    List Rule :=
  let parts := NodeParts.ofNode node variationStyles
  ((FeaturePart.groups ctx parts.features).flatMap fun (selector, declarations) ↦
      Rule.make .unterminated selector declarations) ++
    parts.variations.flatMap (VariationParts.rules ctx) ++
    parts.duotone.toList.flatMap (fun (selector, styles) ↦
      Rule.make .terminated selector (ctx.declarations styles false)) ++
    layout ++
    Rule.make .terminated node.selector (ctx.declarations parts.own node.isRoot) ++
    parts.pseudo.flatMap fun (pseudo, styles) ↦
      Rule.make .terminated (Selector.append node.selector pseudo) (ctx.declarations styles false)

/-- The problems met in a node's styles. -/
def styleDiagnostics (node : StyleNode) (ctx : StyleContext) (variationStyles : Bool) :
    List Diagnostic :=
  let parts := NodeParts.ofNode node variationStyles
  FeaturePart.diagnostics ctx parts.features ++
    parts.variations.flatMap (VariationParts.diagnostics ctx) ++
    parts.duotone.toList.flatMap (fun (_, styles) ↦ ctx.diagnostics styles false) ++
    ctx.diagnostics parts.own node.isRoot ++
    parts.pseudo.flatMap fun (_, styles) ↦ ctx.diagnostics styles false

end StyleNode

end GlobalStyles
