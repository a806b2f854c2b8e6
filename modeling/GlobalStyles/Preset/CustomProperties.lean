import GlobalStyles.Node.Settings
import GlobalStyles.Preset.Catalog
import GlobalStyles.Style.Rule

/-!
# Custom properties and utility classes

What a settings node gives to a stylesheet. Each preset with a value becomes a custom property, and
so does each scalar of the free-form custom values, named by the keys that lead to it. Some
categories also give utility classes, which outrank what a block inherits.

Both go through the categories, and inside each through the origins, in the order of emission.
-/

namespace GlobalStyles

/-! ### Custom properties -/

namespace Preset

/-- The declaration of an item, if it has a slug and a value. -/
def declaration? (category : PresetCategory) (settings : Json) (space : String) (item : Json) :
    Option Declaration := do
  let slug ← slug? item
  let value ← css? category item settings space
  some ⟨Reference.propertyName space ["preset", category.segment, slug], value⟩

/-- The declarations of all items. -/
def declarations (presets settings : Json) (space : String) : List Declaration :=
  PresetCategory.all.flatMap fun category ↦
    Origin.all.flatMap fun origin ↦
      (category.catalog presets origin).filterMap (declaration? category settings space)

end Preset

namespace CustomValue

mutual

/-- The declarations of a value below some segments, one for each scalar. -/
def declarations (space : String) (segments : List String) : Json → List Declaration
  | .obj fields => fieldDeclarations space segments fields
  | .str s => [⟨Reference.propertyName space segments, s⟩]
  | .num n => [⟨Reference.propertyName space segments, n.text⟩]
  | .bool b => [⟨Reference.propertyName space segments, if b then "true" else "false"⟩]
  | _ => []

/-- The declarations of entries; each key is a segment, in kebab case. -/
def fieldDeclarations (space : String) (segments : List String) :
    List (String × Json) → List Declaration
  | [] => []
  | (key, value) :: rest =>
    declarations space (segments ++ [Text.kebabCase key]) value ++
      fieldDeclarations space segments rest

end

end CustomValue

namespace SettingsNode

/-- The declarations of a node, those of presets first. -/
def declarations (node : SettingsNode) (settings : Json) (space : String) : List Declaration :=
  Preset.declarations node.presets settings space ++
    (node.custom.map (CustomValue.declarations space ["custom"])).getD []

/-- The rule of a node's custom properties. -/
def customProperties (node : SettingsNode) (settings : Json) (space : String) : List Rule :=
  Rule.make .terminated node.selector (node.declarations settings space)

end SettingsNode

/-! ### Utility classes -/

namespace Preset

/-- The utility classes of a slug. -/
def utilityRules (selector space : String) (category : PresetCategory) (slug : String) :
    List Rule :=
  let slug := Text.kebabCase slug
  let name := Reference.propertyName space ["preset", category.segment, slug]
  category.classes.flatMap fun utility ↦
    Rule.make .terminated
      (Selector.append selector (".has-" ++ slug ++ "-" ++ utility.suffix))
      [⟨utility.property, "var(" ++ name ++ ") !important"⟩]

/-- The utility classes of all items with a slug. -/
def utilityClasses (selector : String) (presets : Json) (space : String) : List Rule :=
  PresetCategory.all.flatMap fun category ↦
    category.classOrigins.flatMap fun origin ↦
      ((category.catalog presets origin).filterMap slug?).flatMap
        (utilityRules selector space category)

end Preset

/-- The utility classes of a node: bare classes for the root, and inside its block for another. -/
def SettingsNode.utilityClasses (node : SettingsNode) (space : String) : List Rule :=
  Preset.utilityClasses (if node.scope.isNone then "" else node.selector) node.presets space

end GlobalStyles
