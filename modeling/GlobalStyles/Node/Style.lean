import GlobalStyles.Element
import GlobalStyles.Diagnostic
import GlobalStyles.Json.Path
import GlobalStyles.Registry.Basic

/-!
# Style nodes

The style branch of a tree is sparse: the root, its elements, every block and every block's elements
have a subtree of their own. `StyleNode.all` lists them, each with its selector, in the order in
which their rules are emitted: the root, which is always there, then its elements in their fixed
order, then each block of the registry in the order of the tree, followed by its elements in the
order of the tree.

A block that the registry does not know gives no node; `unregistered` tells which these are.
-/

namespace GlobalStyles

/-- Where in a tree a node stands. -/
inductive NodePlace where
  | root
  | rootElement (element : Element)
  | block (scope : String)
  | blockElement (scope : String) (element : Element)
  deriving DecidableEq

/-- The block a place belongs to. -/
def NodePlace.scope? : NodePlace → Option String
  | block scope => some scope
  | blockElement scope _ => some scope
  | _ => none

/-- A style subtree with the selector it applies to, and what the registry says about it. -/
structure StyleNode where
  place : NodePlace
  selector : String
  styles : Json
  /-- The selector that duotone filters go to. -/
  duotoneSelector : Option String
  /-- Whether the node gets layout rules. -/
  hasLayoutSupport : Bool
  /-- The gap while block gaps are off. -/
  fallbackGap : Option String
  featureSelectors : Entries FeatureSelector
  variationSelectors : Entries String

/-- Whether a subtree holds nothing: it is no object, or an object without entries. -/
def Json.isEmptySubtree (tree : Json) : Bool :=
  tree.entries.isEmpty

/-- A problem for each scope that the registry does not know. -/
def unregistered (registry : Registry) (scopes : List String) : List Diagnostic :=
  (scopes.filter fun scope ↦ (Entries.get? registry scope).isNone).map .registryMismatch

namespace StyleNode

/-- Whether this is the node of the root. -/
def isRoot (node : StyleNode) : Bool :=
  node.place == .root

/-- A node of which the registry says nothing more. -/
def plain (place : NodePlace) (selector : String) (styles : Json) : StyleNode :=
  ⟨place, selector, styles, none, false, none, [], []⟩

/-- The members of a subtree that belong to the root or block itself. -/
def ownKeys : List String :=
  ["border", "color", "dimensions", "spacing", "typography", "filter", "outline", "shadow",
    "background", "css"]

/-- The members under some keys that are not `null`, in the order of the subtree; without filters if
they are to be skipped. -/
def pick (keys : List String) (skipFilters : Bool) (styles : Json) : Json :=
  .obj (styles.entries.filter fun (key, value) ↦
    !value.isNull && keys.contains key && !(skipFilters && key == "filter"))

/-- A subtree of an element; without filters if they are to be skipped. -/
def withoutFilter (skipFilters : Bool) (styles : Json) : Json :=
  match styles with
  | .obj fields => if skipFilters then .obj (Entries.swapRemove fields "filter") else styles
  | other => other

/-! ### Nodes of the root -/

/-- The node of the root. -/
def root (styles : Json) (skipFilters : Bool) : StyleNode :=
  { plain .root rootSelector (pick ownKeys skipFilters styles) with hasLayoutSupport := true }

/-- The node of an element of the root, if its subtree holds something. -/
def rootElement? (styles : Json) (skipFilters : Bool) (element : Element) : Option StyleNode :=
  match styles.get? ["elements", element.name] with
  | none => none
  | some subtree =>
    let subtree := withoutFilter skipFilters subtree
    if subtree.isEmptySubtree then none
    else some (plain (.rootElement element) element.selector subtree)

/-! ### Nodes of a block -/

/-- The node of a block, if its own members hold something. -/
def block? (scope : String) (entry : BlockSelectors) (styles : Json) (skipFilters : Bool) :
    Option StyleNode :=
  let own := pick (ownKeys ++ ["variations"]) skipFilters styles
  if own.isEmptySubtree then none
  else some
    { place := .block scope
      selector := entry.selector
      styles := own
      duotoneSelector := entry.duotoneSelector
      hasLayoutSupport := entry.hasLayoutSupport
      fallbackGap := entry.fallbackGap
      featureSelectors := entry.featureSelectors
      variationSelectors := entry.variationSelectors }

/-- The selector of an element inside a block: the registry's own, or the element's below that of
the block. -/
def elementSelector (entry : BlockSelectors) (element : Element) : String :=
  (Entries.get? entry.elementSelectors element.name).getD
    (Selector.nest entry.selector element.selector)

/-- The node of an element of a block, if there is such an element and its subtree holds
something. -/
def blockElement? (scope : String) (entry : BlockSelectors) (skipFilters : Bool)
    (member : String × Json) : Option StyleNode :=
  match Element.ofName? member.1 with
  | none => none
  | some element =>
    let subtree := withoutFilter skipFilters member.2
    if subtree.isEmptySubtree then none
    else some (plain (.blockElement scope element) (elementSelector entry element) subtree)

/-- The nodes of a block and of its elements. -/
def ofBlock (registry : Registry) (skipFilters : Bool) (member : String × Json) : List StyleNode :=
  match Entries.get? registry member.1 with
  | none => []
  | some entry =>
    (block? member.1 entry member.2 skipFilters).toList ++
      (((member.2.get? ["elements"]).map Json.entries).getD []).filterMap
        (blockElement? member.1 entry skipFilters)

/-! ### All nodes -/

/-- The style branch of a tree. -/
def branch (tree : Json) : Json :=
  (tree.get? ["styles"]).getD (.obj [])

/-- The blocks of the style branch. -/
def blocks (tree : Json) : Fields :=
  (((branch tree).get? ["blocks"]).map Json.entries).getD []

/-- The nodes of a tree in the order of their rules. -/
def all (tree : Json) (registry : Registry) (skipFilters : Bool) : List StyleNode :=
  root (branch tree) skipFilters ::
    Element.all.filterMap (rootElement? (branch tree) skipFilters) ++
    (blocks tree).flatMap (ofBlock registry skipFilters)

/-- The blocks of the style branch that the registry does not know. -/
def diagnostics (tree : Json) (registry : Registry) : List Diagnostic :=
  unregistered registry ((blocks tree).map Prod.fst)

end StyleNode

end GlobalStyles
