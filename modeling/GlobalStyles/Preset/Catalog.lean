import GlobalStyles.Json.Path
import GlobalStyles.Preset.Category
import GlobalStyles.Reference.Basic
import GlobalStyles.Typography.Fluid

/-!
# Preset catalogs

The items of a category, by origin, and the value each has in CSS.

A look-up for a block goes through the catalogs of the block's own settings before those of the
root, and through the origins from the strongest to the weakest. `Preset.bySlug?` compares slugs in
kebab case, as the names of custom properties do. `Preset.findBy?` looks for an item by the exact
value of a member, and answers it only while no stronger item with its slug has another value
there.
-/

namespace GlobalStyles

namespace PresetCategory

/-- The items of an origin, if its catalog is an array. -/
def catalog? (category : PresetCategory) (presets : Json) (origin : Origin) : Option (List Json) :=
  (presets.get? (category.path ++ [origin.key])).bind Json.items?

/-- The items of an origin. -/
def catalog (category : PresetCategory) (presets : Json) (origin : Origin) : List Json :=
  (category.catalog? presets origin).getD []

end PresetCategory

namespace Preset

/-- The slug of an item, if it is a string. -/
def slug? (item : Json) : Option String :=
  (item.member? "slug").bind Json.text?

/-- The address of the filter of a duotone item. -/
def duotoneAddress (space slug : String) : String :=
  "url( '#" ++ space ++ "-duotone-" ++ Text.kebabCase slug ++ "' )"

/-- The CSS value of an item. A duotone points at its filter, a font size may be fluid, and every
other value is the member itself. -/
def css? (category : PresetCategory) (item settings : Json) (space : String) : Option String :=
  match category with
  | .duotone => (slug? item).map (duotoneAddress space)
  | .fontSize =>
    (item.member? "size").bind fun size ↦
      fontSizeCss? size (item.member? "fluid") (FluidOptions.ofSettings settings)
  | other => (item.get? [other.valueKey]).bind Json.css?

/-! ### Look-ups -/

/-- The settings that a look-up goes through: those of the scope, if there are any, then all. -/
def sources (settings : Json) (scope : Option String) : List Json :=
  (scope.bind fun name ↦ settings.get? ["blocks", name]).toList ++ [settings]

/-- The items of a category in the order of a look-up. -/
def candidates (category : PresetCategory) (settings : Json) (scope : Option String) : List Json :=
  (sources settings scope).flatMap fun source ↦
    Origin.byPriority.flatMap fun origin ↦ category.catalog source origin

/-- Whether an item has a slug, in kebab case the same as another. -/
def hasSlug (slug : String) (item : Json) : Bool :=
  (slug? item).any fun own ↦ Text.kebabCase own == Text.kebabCase slug

/-- The first item with a slug. -/
def bySlug? (category : PresetCategory) (settings : Json) (scope : Option String) (slug : String) :
    Option Json :=
  (candidates category settings scope).find? (hasSlug slug)

/-- Whether two members, either of which may be missing, are the same. -/
def sameMember : Option Json → Option Json → Bool
  | some a, some b => a.same b
  | none, none => true
  | _, _ => false

/-- The items at a path in the order of a look-up. -/
def itemsAt (settings : Json) (scope : Option String) (path : List String) : List Json :=
  (sources settings scope).flatMap fun source ↦
    Origin.byPriority.flatMap fun origin ↦
      ((source.get? (path ++ [origin.key])).bind Json.items?).getD []

/-- The first of some items whose member is the same as a value. -/
def firstWith? (items : List Json) (key : String) (value : Json) : Option Json :=
  items.find? fun item ↦ sameMember (item.member? key) (some value)

/-- The first item whose member is the same as a value, unless the first item with its slug has
another value there. -/
def findBy? (settings : Json) (scope : Option String) (path : List String) (key : String)
    (value : Json) : Option Json :=
  let items := itemsAt settings scope path
  (firstWith? items key value).filter fun found ↦
    let strongest := firstWith? items "slug" ((found.member? "slug").getD .null)
    key == "slug" || sameMember (strongest.bind (·.member? key)) (found.member? key)

end Preset

end GlobalStyles
