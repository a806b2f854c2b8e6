import GlobalStyles.Registry.Basic

/-!
# Reading a registry

A registry is refused as soon as one of its entries has a member of a wrong type. Members that an
entry does not know are passed over.
-/

namespace GlobalStyles

/-- Entries in the order of their keys. -/
def Entries.sorted {α : Type} (entries : Entries α) : Entries α :=
  entries.mergeSort fun a b ↦ decide (a.1 ≤ b.1)

variable {α : Type} [Viewed α]

/-- The selector of a feature: a string, or an object of strings. -/
def FeatureSelector.decode? (value : α) : Option FeatureSelector :=
  match Decode.text? value with
  | some selector => some (.whole selector)
  | none => (Decode.entries? Decode.text? value).map .split

namespace BlockSelectors

/-- The members of an entry. -/
def memberKeys : List String :=
  ["selector", "elementSelectors", "duotoneSelector", "hasLayoutSupport", "fallbackGapValue",
    "featureSelectors", "styleVariationSelectors"]

/-- The entry that a value is. -/
def decode? (value : α) : Option BlockSelectors := do
  match ← Decode.record? memberKeys value with
  | [selector, elements, duotone, layout, gap, features, variations] =>
    let selector ← Decode.memberOr? Decode.text? "" selector
    let elements ← Decode.memberOr? (Decode.entries? Decode.text?) [] elements
    let duotone ← Decode.memberOr? (Decode.nullable? Decode.text?) none duotone
    let layout ← Decode.memberOr? Decode.bool? false layout
    let gap ← Decode.memberOr? (Decode.nullable? Decode.text?) none gap
    let features ← Decode.memberOr? (Decode.entries? FeatureSelector.decode?) [] features
    let variations ← Decode.memberOr? (Decode.entries? Decode.text?) [] variations
    some ⟨selector, Entries.sorted elements, duotone, layout, gap, features, variations⟩
  | _ => none

/-! ### Writing -/

/-- A string, or nothing. -/
def optionalMember (key : String) : Option String → Fields
  | none => []
  | some text => [(key, .str text)]

/-- Strings under keys. -/
def ofTexts (entries : Entries String) : Json :=
  .obj (entries.map fun (key, text) ↦ (key, .str text))

/-- The tree of an entry, which is read as that entry. -/
def toJson (entry : BlockSelectors) : Json :=
  .obj <|
    [("selector", .str entry.selector), ("elementSelectors", ofTexts entry.elementSelectors)] ++
    optionalMember "duotoneSelector" entry.duotoneSelector ++
    [("hasLayoutSupport", .bool entry.hasLayoutSupport)] ++
    optionalMember "fallbackGapValue" entry.fallbackGap ++
    [("featureSelectors", .obj (entry.featureSelectors.map fun (key, feature) ↦
        match feature with
        | .whole selector => (key, .str selector)
        | .split selectors => (key, ofTexts selectors))),
      ("styleVariationSelectors", ofTexts entry.variationSelectors)]

end BlockSelectors

namespace Registry

/-- The registry that a value is. -/
def decode? (value : α) : Option Registry :=
  Decode.entries? BlockSelectors.decode? value

/-- The registry of a text. -/
def parse? (text : String) : Option Registry :=
  (Document.parse? text).bind decode?

end Registry

end GlobalStyles
