import GlobalStyles.Duotone
import GlobalStyles.Nesting
import GlobalStyles.Preset.CustomProperties
import GlobalStyles.Stylesheet.Fixed
import GlobalStyles.Stylesheet.Node

/-!
# Compiling a tree

`compile` makes a bundle of a merged tree: the custom properties, the styles, the author's own CSS,
the duotone filters and the diagnostics.

The styles are laid out as the reset, the rules of each style node, the alignments, the margins of
block gaps where these are supported, and the utility classes of each settings node.
-/

namespace GlobalStyles

/-- What a compilation makes. -/
structure Bundle where
  customProperties : List Rule
  styles : List Rule
  /-- The author's CSS, that of blocks with its nesting expanded. -/
  customCss : String
  filters : List DuotoneFilter
  diagnostics : List Diagnostic

namespace Bundle

/-- The text of the custom properties. -/
def customPropertiesCss (bundle : Bundle) : String :=
  Rule.textOfAll bundle.customProperties

/-- The text of the styles. -/
def stylesCss (bundle : Bundle) : String :=
  Rule.textOfAll bundle.styles

/-- The three stylesheets in the order in which they are loaded. -/
def stylesheet (bundle : Bundle) : String :=
  bundle.customPropertiesCss ++ bundle.stylesCss ++ bundle.customCss

end Bundle

namespace Stylesheet

/-! ### The tree that is compiled -/

/-- The block whose background is also the colour of its line. -/
def separatorScope : String := "core/separator"

/-- A separator that has a background, but neither a text nor a border colour, draws its line in the
colour of the background. -/
def withSeparatorColors (tree : Json) : Json :=
  let path := ["styles", "blocks", separatorScope]
  let value? (keys : List String) : Option Json :=
    (tree.get? (path ++ keys)).filter Json.isTruthy
  match value? ["color", "background"] with
  | none => tree
  | some background =>
    if (value? ["color", "text"]).isSome || (value? ["border", "color"]).isSome then tree
    else tree.set (path ++ ["color", "text"]) background

/-- Whether block gaps are supported: they are unless the settings have a `null` for them, or the
options decide. -/
def supportsBlockGap (tree : Json) (options : CompileOptions) : Bool :=
  options.blockGap.getD
    (match tree.find? ["settings", "spacing", "blockGap"] with
    | some .null => false
    | _ => true)

/-- The settings branch of a tree. -/
def settings (tree : Json) : Json :=
  (tree.get? ["settings"]).getD (.obj [])

/-! ### Parts of the bundle -/

/-- The rules of a style node. -/
def nodeRules (tree : Json) (options : CompileOptions) (node : StyleNode) : List Rule :=
  let ctx := (StyleContext.ofTree tree options.space).within node.place.scope?
  let layout :=
    if options.disableLayout then []
    else
      node.layoutRules (LayoutKind.all tree) (.ofBlockGap (supportsBlockGap tree options))
        options.space
  node.rules ctx options.variationStyles layout

/-- The problems met in a style node. -/
def nodeDiagnostics (tree : Json) (options : CompileOptions) (node : StyleNode) :
    List Diagnostic :=
  node.styleDiagnostics ((StyleContext.ofTree tree options.space).within node.place.scope?)
    options.variationStyles

/-- The margins of block gaps. -/
def gapRules (tree : Json) (options : CompileOptions) : List Rule :=
  if supportsBlockGap tree options then
    let gap := (tree.get? ["styles", "spacing", "blockGap"]).bind (GapSupport.css? · options.space)
    gapMargins (gap.getD GapSupport.rootFallback)
  else []

/-- All rules of the styles. -/
def styles (tree : Json) (registry : Registry) (options : CompileOptions) : List Rule :=
  reset (settings tree) options.space (StyleContext.ofTree tree options.space).paddingAlign ++
    (StyleNode.all tree registry options.skipFilters).flatMap (nodeRules tree options) ++
    alignments ++
    gapRules tree options ++
    (SettingsNode.all tree registry).flatMap (·.utilityClasses options.space)

/-- The author's CSS of a block that the registry knows. -/
def blockCss (registry : Registry) (member : String × Json) : String :=
  match (member.2.get? ["css"]).bind Json.text?, Entries.get? registry member.1 with
  | some css, some entry => Nesting.expand css entry.selector
  | _, _ => ""

/-- The author's CSS: the global text as it is, then that of each block. -/
def customCss (tree : Json) (registry : Registry) : String :=
  ((tree.get? ["styles", "css"]).bind Json.text?).getD "" ++
    String.join ((StyleNode.blocks tree).map (blockCss registry))

/-- All reports, in the order in which the problems are met. -/
def reports (tree : Json) (registry : Registry) (options : CompileOptions) : List Diagnostic :=
  StyleNode.diagnostics tree registry ++ SettingsNode.diagnostics tree registry ++
    (StyleNode.all tree registry options.skipFilters).flatMap (nodeDiagnostics tree options)

end Stylesheet

/-- Compile a merged tree. -/
def compile (merged : Json) (registry : Registry) (options : CompileOptions) : Bundle :=
  let tree := Stylesheet.withSeparatorColors merged
  let settings := Stylesheet.settings tree
  { customProperties :=
      (SettingsNode.all tree registry).flatMap (·.customProperties settings options.space)
    styles := Stylesheet.styles tree registry options
    customCss := Stylesheet.customCss tree registry
    filters := DuotoneFilter.collect settings options.space
    diagnostics := (Diagnostics.ofReports (Stylesheet.reports tree registry options)).toList }

end GlobalStyles
