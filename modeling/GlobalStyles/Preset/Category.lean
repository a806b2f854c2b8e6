import GlobalStyles.Preset.Origin

/-!
# Preset categories

The kinds of presets that settings can hold, in the order in which they are emitted. For each
category: where its catalogs stand, which member of an item is its value, the segment it has in the
names of custom properties, and the utility classes its items get.
-/

namespace GlobalStyles

/-- A kind of preset. -/
inductive PresetCategory where
  | color
  | gradient
  | duotone
  | shadow
  | fontSize
  | fontFamily
  | spacing
  deriving DecidableEq

/-- A utility class of an item: `.has-{slug}-{suffix}` sets a property. -/
structure UtilityClass where
  suffix : String
  property : String

namespace PresetCategory

/-- The categories in the order in which they are emitted. -/
def all : List PresetCategory :=
  [color, gradient, duotone, shadow, fontSize, fontFamily, spacing]

/-- The keys that lead to the catalogs, inside settings. -/
def path : PresetCategory → List String
  | color => ["color", "palette"]
  | gradient => ["color", "gradients"]
  | duotone => ["color", "duotone"]
  | shadow => ["shadow", "presets"]
  | fontSize => ["typography", "fontSizes"]
  | fontFamily => ["typography", "fontFamilies"]
  | spacing => ["spacing", "spacingSizes"]

/-- The member of an item that holds its value. -/
def valueKey : PresetCategory → String
  | color => "color"
  | gradient => "gradient"
  | duotone => "colors"
  | shadow => "shadow"
  | fontSize => "size"
  | fontFamily => "fontFamily"
  | spacing => "size"

/-- The segment of the category in the names of custom properties. -/
def segment : PresetCategory → String
  | color => "color"
  | gradient => "gradient"
  | duotone => "duotone"
  | shadow => "shadow"
  | fontSize => "font-size"
  | fontFamily => "font-family"
  | spacing => "spacing"

/-- Whether the CSS value of an item is computed, and not just read. -/
def isComputed : PresetCategory → Bool
  | duotone => true
  | fontSize => true
  | _ => false

/-- The utility classes of an item. -/
def classes : PresetCategory → List UtilityClass
  | color =>
    [⟨"color", "color"⟩, ⟨"background-color", "background-color"⟩, ⟨"border-color", "border-color"⟩]
  | gradient => [⟨"gradient-background", "background"⟩]
  | fontSize => [⟨"font-size", "font-size"⟩]
  | fontFamily => [⟨"font-family", "font-family"⟩]
  | _ => []

/-- The origins whose items get utility classes. -/
def classOrigins (category : PresetCategory) : List Origin :=
  if category.classes.isEmpty then [] else Origin.all

/-- The category with this segment. -/
def ofSegment? (segment : String) : Option PresetCategory :=
  all.find? (·.segment == segment)

/-- The place of a category in the order of emission. -/
def index (category : PresetCategory) : Nat :=
  all.idxOf category

theorem mem_all (category : PresetCategory) : category ∈ all := by
  cases category <;> decide

/-- A category is found by its segment. -/
theorem ofSegment?_segment (category : PresetCategory) :
    ofSegment? category.segment = some category := by
  cases category <;> decide

/-- What is found by a segment has this segment. -/
theorem eq_of_ofSegment? {segment : String} {category : PresetCategory}
    (h : ofSegment? segment = some category) : category.segment = segment := by
  simpa using List.find?_some h

end PresetCategory

end GlobalStyles
