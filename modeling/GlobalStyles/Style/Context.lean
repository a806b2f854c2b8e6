import GlobalStyles.Diagnostic
import GlobalStyles.Reference.Resolve

/-!
# What styles are compiled in

A style subtree is compiled within a tree: its values may point at other places there, name presets
of its settings, and follow its typography. Without a tree none of that applies.
-/

namespace GlobalStyles

/-- What is known beyond a style subtree. -/
structure StyleContext where
  tree : Option Json
  /-- The namespace of custom properties. -/
  space : String
  /-- The block whose presets come before those of the root. -/
  scope : Option String
  /-- Whether the padding of the root goes into custom properties. -/
  paddingAlign : Bool

namespace StyleContext

/-- The context of a subtree on its own. -/
def standalone (space : String) : StyleContext :=
  ⟨none, space, none, false⟩

/-- The context of a tree. -/
def ofTree (tree : Json) (space : String) : StyleContext :=
  ⟨some tree, space, none,
    (tree.get? ["settings", "useRootPaddingAwareAlignments"]).any Json.isTruthy⟩

/-- The same context inside a scope. -/
def within (ctx : StyleContext) (scope : Option String) : StyleContext :=
  { ctx with scope := scope }

/-- The settings of the tree. -/
def settings? (ctx : StyleContext) : Option Json :=
  ctx.tree.bind (·.get? ["settings"])

/-- The options for fluid font sizes of declarations. -/
def fluid (ctx : StyleContext) : FluidOptions :=
  ((ctx.settings?.bind (·.get? ["typography"])).map FluidOptions.ofTypography).getD .off

/-- The value that a value stands for. An object with the member `ref` stands for what is found at
the place in the tree that it names by keys between dots. What is missing, and what points on,
stands for nothing. -/
def target? (ctx : StyleContext) (value : Json) : Option Json :=
  match value.member? "ref" with
  | none => some value
  | some (.str place) => do
    let tree ← ctx.tree
    let target ← tree.get? ((place.toList.splitOn '.').map String.ofList)
    if (target.member? "ref").isSome then none else some target
  | some _ => none

/-- The text of a value, as it is written there or in the place it points at. -/
def text? (ctx : StyleContext) (value : Json) : Option String :=
  (ctx.target? value).bind Json.css?

/-- The problem with a text that names a preset which the settings do not define. -/
def reports (ctx : StyleContext) (text : String) : List Diagnostic :=
  match ctx.settings?, Reference.parse? text ctx.space with
  | some settings, some (.preset _ _) =>
    if Reference.presetExists settings ctx.scope text ctx.space then []
    else [.unresolvedReference text ctx.scope]
  | _, _ => []

end StyleContext

end GlobalStyles
