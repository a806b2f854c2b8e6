import GlobalStyles.Config.Merge

/-!
# Style variations

`styles.variations` holds named sets of styles. Applying one merges it over `styles` as if a user
had written it; the variations themselves stay where they are.
-/

namespace GlobalStyles.Config

/-- The named variation of a tree. -/
def variation? (tree : Json) (name : String) : Option Json :=
  tree.get? ["styles", "variations", name]

/-- The tree with a variation laid over its styles. -/
def applyVariation (tree : Json) (name : String) : Except ConfigError Json :=
  match variation? tree name with
  | none => .error (.unknownVariation name)
  | some variation => do
    let styles ← merge ((tree.get? ["styles"]).getD .null) variation
    return tree.set ["styles"] styles

/-- Whether two configurations have the same styles and settings. Everything else in them is
metadata. -/
def same (a b : Json) : Bool :=
  ["styles", "settings"].all fun branch ↦
    match a.get? [branch], b.get? [branch] with
    | some x, some y => x.same y
    | none, none => true
    | _, _ => false

end GlobalStyles.Config
