import GlobalStyles.Preset.Catalog

/-!
# Resolving references

`Reference.target?` looks up what a reference names: a preset gives the value of its category's
member, a custom value is looked for in the scope first. What is found may be a reference again.
`Reference.resolve` follows it to the first value that is none, that names nothing, or that was met
before.

A step leads from one string of the tree to another, and no string is followed twice, so following
ends after as many steps as the tree has strings.
-/

namespace GlobalStyles

namespace Json

mutual

/-- How many strings stand in a value, keys not counted. -/
def stringCount : Json → Nat
  | str _ => 1
  | arr items => stringCountItems items
  | obj fields => stringCountFields fields
  | _ => 0

/-- How many strings stand in items. -/
def stringCountItems : List Json → Nat
  | [] => 0
  | item :: rest => stringCount item + stringCountItems rest

/-- How many strings stand in the values of entries. -/
def stringCountFields : List (String × Json) → Nat
  | [] => 0
  | (_, value) :: rest => stringCount value + stringCountFields rest

end

end Json

namespace Reference

/-- Whether a reference names something. Only presets are looked up; everything else counts as
there. -/
def presetExists (settings : Json) (scope : Option String) (value space : String) : Bool :=
  match parse? value space with
  | some (.preset category slug) =>
    ((PresetCategory.ofSegment? category).bind fun c ↦ Preset.bySlug? c settings scope slug).isSome
  | _ => true

/-- What a reference names. -/
def lookUp? (settings : Json) (scope : Option String) : Reference → Option Json
  | .preset category slug => do
    let category ← PresetCategory.ofSegment? category
    let item ← Preset.bySlug? category settings scope slug
    item.member? category.valueKey
  | .custom path =>
    match scope.bind fun name ↦ settings.get? ("blocks" :: name :: "custom" :: path) with
    | some value => some value
    | none => settings.get? ("custom" :: path)

/-- A preset is looked up by its slug, and names its value. -/
theorem lookUp?_preset (settings : Json) (scope : Option String) (category : PresetCategory)
    (slug : String) : lookUp? settings scope (.preset category.segment slug) =
      (Preset.bySlug? category settings scope slug).bind (·.member? category.valueKey) := by
  rw [lookUp?, PresetCategory.ofSegment?_segment]
  rfl

/-- What a text names in a tree, if it is a reference that names something. -/
def target? (tree : Json) (scope : Option String) (space text : String) : Option Json :=
  (parse? text space).bind (lookUp? ((tree.get? ["settings"]).getD .null) scope)

/-- Follow references for at most so many steps, stopping at a text that was met before. -/
def follow (next? : String → Option Json) : Nat → List String → Json → Json
  | 0, _, value => value
  | steps + 1, met, value =>
    match value with
    | .str text =>
      if text ∈ met then value
      else
        match next? text with
        | none => value
        | some found => follow next? steps (text :: met) found
    | _ => value

/-- The value that a value stands for. -/
def resolve (tree : Json) (scope : Option String) (value : Json) (space : String) : Json :=
  follow (target? tree scope space) (tree.stringCount + 2) [] value

end Reference

end GlobalStyles
