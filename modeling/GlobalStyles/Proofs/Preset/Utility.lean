import GlobalStyles.Proofs.Preset.Declared
import GlobalStyles.Proofs.Stylesheet.Alike
import GlobalStyles.Proofs.Text.NormalForm

/-!
# Utility classes

A settings node gives utility classes for the items of its catalogs, and declares the custom
properties that the classes refer to. The two walk through the catalogs separately, and they do not
put a slug into kebab case equally often: once for a declaration, and for a class once for the
selector and then once more for the name. The names are the same because kebab case of ASCII is its
own kebab case (`Text.kebabCase_kebabCase`).

Which classes there are is said by their places (`ClassPlace`): an item of a catalog and one of the
classes of its category. The rules of a node are one for each place, in the order of places
(`SettingsNode.forall₂_utilityClasses`), so every item with a slug has all classes of its category,
and no class comes twice.
-/

namespace GlobalStyles

open Json
open Text (kebabCase)

/-! ### Places -/

/-- Positions in a list ascend. -/
theorem pairwise_zipIdx {α : Type} (items : List α) :
    items.zipIdx.Pairwise fun a b ↦ a.2 < b.2 := by
  have hpositions : (items.zipIdx.map Prod.snd).Pairwise (· < ·) := by
    rw [List.zipIdx_map_snd]
    exact List.pairwise_lt_range'
  exact List.pairwise_map.1 hpositions

/-- Where a utility class comes from: an item of a catalog, and a class of the category, both by
their positions. -/
structure ClassPlace where
  category : PresetCategory
  origin : Origin
  item : Nat
  utility : Nat

namespace ClassPlace

/-- The order of places: by category, then by origin, then by item, and by class for each item. -/
inductive Precedes : ClassPlace → ClassPlace → Prop
  | category {place other : ClassPlace} (h : place.category.index < other.category.index) :
    Precedes place other
  | origin {category : PresetCategory} {origin later : Origin} {i j k l : Nat}
    (h : Origin.all.idxOf origin < Origin.all.idxOf later) :
    Precedes ⟨category, origin, i, k⟩ ⟨category, later, j, l⟩
  | item {category : PresetCategory} {origin : Origin} {i j k l : Nat} (h : i < j) :
    Precedes ⟨category, origin, i, k⟩ ⟨category, origin, j, l⟩
  | utility {category : PresetCategory} {origin : Origin} {i k l : Nat} (h : k < l) :
    Precedes ⟨category, origin, i, k⟩ ⟨category, origin, i, l⟩

/-- The item at a place. -/
def item? (place : ClassPlace) (presets : Json) : Option Json :=
  (place.category.catalog presets place.origin)[place.item]?

/-- Some catalogs have a class at a place: the origin is one whose items get classes, the item has a
slug, and the category has the class. -/
structure IsIn (place : ClassPlace) (presets : Json) : Prop where
  origin : place.origin ∈ place.category.classOrigins
  item : ∃ item, place.item? presets = some item ∧ (Preset.slug? item).isSome
  utility : place.utility < place.category.classes.length

/-- The places of an item, one for each class if it has a slug. -/
def ofItem (category : PresetCategory) (origin : Origin) (item : Json × Nat) : List ClassPlace :=
  if (Preset.slug? item.1).isSome then
    (List.range category.classes.length).map (⟨category, origin, item.2, ·⟩)
  else []

/-- The places of an origin. -/
def ofOrigin (presets : Json) (category : PresetCategory) (origin : Origin) : List ClassPlace :=
  (category.catalog presets origin).zipIdx.flatMap (ofItem category origin)

/-- The places of some catalogs, in their order. -/
def all (presets : Json) : List ClassPlace :=
  PresetCategory.all.flatMap fun category ↦
    category.classOrigins.flatMap (ofOrigin presets category)

section

variable {category : PresetCategory} {origin : Origin} {item : Json × Nat} {place : ClassPlace}

theorem mem_ofItem_iff :
    place ∈ ofItem category origin item ↔
      (Preset.slug? item.1).isSome ∧
        ∃ k < category.classes.length, ⟨category, origin, item.2, k⟩ = place := by
  rw [ofItem]
  split <;> rename_i hslug
  · simp only [List.mem_map, List.mem_range, hslug, true_and]
  · simp [hslug]

theorem mem_ofOrigin_iff (presets : Json) :
    place ∈ ofOrigin presets category origin ↔
      place.category = category ∧ place.origin = origin ∧
        (∃ item, place.item? presets = some item ∧ (Preset.slug? item).isSome) ∧
        place.utility < place.category.classes.length := by
  simp only [ofOrigin, List.mem_flatMap, mem_ofItem_iff]
  constructor
  · rintro ⟨⟨item, i⟩, hitem, hslug, k, hk, rfl⟩
    exact ⟨rfl, rfl, ⟨item, List.mem_zipIdx_iff_getElem?.1 hitem, hslug⟩, hk⟩
  · rintro ⟨rfl, rfl, ⟨item, hitem, hslug⟩, hk⟩
    exact ⟨(item, place.item), List.mem_zipIdx_iff_getElem?.2 hitem, hslug, _, hk, rfl⟩

/-- **The places are those where catalogs have a class.** -/
theorem mem_all_iff (presets : Json) (place : ClassPlace) :
    place ∈ all presets ↔ place.IsIn presets := by
  simp only [all, List.mem_flatMap, mem_ofOrigin_iff]
  constructor
  · rintro ⟨_, -, _, horigin, rfl, rfl, hitem, hutility⟩
    exact ⟨horigin, hitem, hutility⟩
  · rintro ⟨horigin, hitem, hutility⟩
    exact ⟨_, PresetCategory.mem_all _, _, horigin, rfl, rfl, hitem, hutility⟩

theorem pairwise_ofItem (item : Json × Nat) :
    (ofItem category origin item).Pairwise Precedes := by
  rw [ofItem]
  split
  · exact List.pairwise_map.2 (List.pairwise_lt_range.imp .utility)
  · exact .nil

theorem pairwise_ofOrigin (presets : Json) :
    (ofOrigin presets category origin).Pairwise Precedes := by
  refine List.pairwise_flatMap.2 ⟨fun item _ ↦ pairwise_ofItem item, ?_⟩
  refine (pairwise_zipIdx _).imp fun hlt place hplace other hother ↦ ?_
  obtain ⟨-, k, -, rfl⟩ := mem_ofItem_iff.1 hplace
  obtain ⟨-, l, -, rfl⟩ := mem_ofItem_iff.1 hother
  exact .item hlt

end

theorem pairwise_classOrigins (category : PresetCategory) :
    category.classOrigins.Pairwise fun origin later ↦
      Origin.all.idxOf origin < Origin.all.idxOf later := by
  cases category <;> decide

/-- **The places stand in their order**, so no place comes twice. -/
theorem pairwise_all (presets : Json) : (all presets).Pairwise Precedes := by
  have hcategories : PresetCategory.all.Pairwise fun a b ↦ a.index < b.index := by decide
  refine List.pairwise_flatMap.2 ⟨fun category _ ↦ List.pairwise_flatMap.2 ⟨fun _ _ ↦
    pairwise_ofOrigin presets, ?_⟩, ?_⟩
  · refine (pairwise_classOrigins category).imp fun hlt place hplace other hother ↦ ?_
    rcases place with ⟨_, _, i, k⟩
    rcases other with ⟨_, _, j, l⟩
    obtain ⟨rfl, rfl, -⟩ := (mem_ofOrigin_iff presets).1 hplace
    obtain ⟨rfl, rfl, -⟩ := (mem_ofOrigin_iff presets).1 hother
    exact .origin hlt
  · refine hcategories.imp fun hlt place hplace other hother ↦ .category ?_
    obtain ⟨_, -, hplace⟩ := List.mem_flatMap.1 hplace
    obtain ⟨_, -, hother⟩ := List.mem_flatMap.1 hother
    rw [((mem_ofOrigin_iff presets).1 hplace).1, ((mem_ofOrigin_iff presets).1 hother).1]
    exact hlt

end ClassPlace

/-! ### The rules of a node -/

namespace Preset

/-- All slugs of some settings, at the root or in a block, are of ASCII. -/
def AsciiSlugs (settings : Json) : Prop :=
  ∀ source ∈ settings :: (settings.child "blocks").entries.map Prod.snd,
    ∀ category ∈ PresetCategory.all, ∀ origin ∈ Origin.all,
      ∀ item ∈ category.catalog source origin, ∀ slug ∈ slug? item, Text.IsAscii slug

instance (settings : Json) : Decidable (AsciiSlugs settings) :=
  inferInstanceAs (Decidable (∀ source ∈ _, _))

/-- The name that the utility classes of a slug refer to. -/
def utilityName (space : String) (category : PresetCategory) (slug : String) : String :=
  Reference.propertyName space ["preset", category.segment, kebabCase slug]

/-- The rule of a class, for a slug. -/
def utilityRule (selector space : String) (category : PresetCategory) (slug : String)
    (utility : UtilityClass) : Rule :=
  ⟨Selector.append selector (".has-" ++ kebabCase slug ++ "-" ++ utility.suffix),
    [⟨utility.property, "var(" ++ utilityName space category slug ++ ") !important"⟩], .terminated⟩

theorem utilityRules_eq (selector space : String) (category : PresetCategory) (slug : String) :
    utilityRules selector space category slug =
      category.classes.map (utilityRule selector space category slug) := by
  rw [utilityRules, List.map_eq_flatMap]
  rfl

/-- The items of a catalog gone through with their positions. -/
theorem flatMap_filterMap_slug? (items : List Json) (f : String → List Rule) :
    (items.filterMap slug?).flatMap f =
      items.zipIdx.flatMap fun item ↦ (slug? item.1).toList.flatMap f := by
  rw [← List.flatMap_map Prod.fst fun item ↦ (slug? item).toList.flatMap f, List.zipIdx_map_fst,
    ← List.flatMap_assoc, ← List.filterMap_eq_flatMap_toList]

end Preset

namespace SettingsNode

/-- The selector before the utility classes of a node. -/
def classSelector (node : SettingsNode) : String :=
  if node.scope.isNone then "" else node.selector

variable (node : SettingsNode) (settings : Json) (space : String)

/-- A rule is the utility class at a place: its selector is made of the slug of the item there and
the suffix of the class, and it sets the property of the class to the `var()` of a name, which the
node declares if the item has a value. -/
def GivesClass (place : ClassPlace) (rule : Rule) : Prop :=
  ∃ item slug utility name,
    place.item? node.presets = some item ∧ Preset.slug? item = some slug ∧
      place.category.classes[place.utility]? = some utility ∧
      rule.selector = Selector.append node.classSelector
        (".has-" ++ kebabCase slug ++ "-" ++ utility.suffix) ∧
      rule.declarations = [⟨utility.property, "var(" ++ name ++ ") !important"⟩] ∧
      ((Preset.css? place.category item settings space).isSome →
        node.Declares settings space name)

/-- The name that a class refers to is declared. Its slug is put into kebab case once more than that
of the declaration. -/
theorem declares_utilityName {category : PresetCategory} {origin : Origin} {item : Json}
    (hitem : item ∈ category.catalog node.presets origin) {slug : String}
    (hslug : Preset.slug? item = some slug) (hascii : Text.IsAscii slug)
    (hvalue : (Preset.css? category item settings space).isSome) :
    node.Declares settings space (Preset.utilityName space category slug) := by
  refine (declares_preset_iff node settings space _).2 ⟨category, origin, item, hitem, slug, hslug,
    hvalue, ?_⟩
  rw [List.map_cons, List.map_singleton, category.kebabCase_segment,
    Text.kebabCase_kebabCase hascii]

variable (hascii : ∀ category origin, ∀ item ∈ PresetCategory.catalog category node.presets origin,
  ∀ slug ∈ Preset.slug? item, Text.IsAscii slug)
include hascii

/-- The rules of an item are its classes. -/
theorem forall₂_ofItem {category : PresetCategory} {origin : Origin} {item : Json × Nat}
    (hitem : item ∈ (category.catalog node.presets origin).zipIdx) :
    List.Forall₂ (node.GivesClass settings space) (ClassPlace.ofItem category origin item)
      ((Preset.slug? item.1).toList.flatMap
        (Preset.utilityRules node.classSelector space category)) := by
  have hplace := List.mem_zipIdx_iff_getElem?.1 hitem
  rcases hslug : Preset.slug? item.1 with - | slug
  · simp [ClassPlace.ofItem, hslug]
  · rw [ClassPlace.ofItem, hslug, Option.isSome_some, if_pos rfl, Option.toList_some,
      List.flatMap_singleton, Preset.utilityRules_eq]
    refine List.forall₂_iff_get.2 ⟨by simp, fun k hk hk' ↦ ?_⟩
    rw [List.length_map, List.length_range] at hk
    have hmem := List.mem_of_getElem? hplace
    simp only [List.get_eq_getElem, List.getElem_map, List.getElem_range]
    exact ⟨item.1, slug, category.classes[k], Preset.utilityName space category slug, hplace, hslug,
      List.getElem?_eq_getElem hk, rfl, rfl,
      node.declares_utilityName settings space hmem hslug (hascii _ _ _ hmem slug hslug)⟩

/-- **The rules of a node are its classes**, one for each place, in the order of places. -/
theorem forall₂_utilityClasses :
    List.Forall₂ (node.GivesClass settings space) (ClassPlace.all node.presets)
      (node.utilityClasses space) := by
  rw [utilityClasses, Preset.utilityClasses, ClassPlace.all, ← classSelector]
  refine forall₂_flatMap (fun category ↦ forall₂_flatMap (fun origin ↦ ?_) _) _
  rw [Preset.flatMap_filterMap_slug?, ClassPlace.ofOrigin]
  exact forall₂_flatMap_of_mem fun item hitem ↦ node.forall₂_ofItem settings space hascii hitem

end SettingsNode

/-! ### A bundle -/

theorem Stylesheet.sameSettings_withSeparatorColors (tree : Json) :
    SameSettings (withSeparatorColors tree) tree :=
  ⟨congrArg (Option.getD · null) (member?_withSeparatorColors tree)⟩

/-- The catalogs of a node are those of the settings of the root or of a block. -/
theorem SettingsNode.exists_source {tree : Json} {registry : Registry} {node : SettingsNode}
    (h : node ∈ all tree registry) :
    ∃ source ∈ Stylesheet.settings tree ::
        ((Stylesheet.settings tree).child "blocks").entries.map Prod.snd,
      ∀ category origin, PresetCategory.catalog category node.presets origin =
        category.catalog source origin := by
  rcases (mem_all_iff node).1 h with hroot | ⟨member, hmember, hblock⟩
  · obtain rfl := eq_of_ofSettings? hroot
    exact ⟨_, List.mem_cons_self, fun category ↦ category.catalog_pickPresets _⟩
  · obtain ⟨_, -, hnode⟩ := Option.bind_eq_some_iff.1 hblock
    obtain rfl := eq_of_ofSettings? hnode
    rw [blocks_eq_entries_settings] at hmember
    exact ⟨member.2, List.mem_cons_of_mem _ (List.mem_map_of_mem hmember),
      fun category ↦ category.catalog_pickPresets _⟩

/-- The custom properties are those of the settings nodes. -/
theorem customProperties_compile (tree : Json) (registry : Registry) (options : CompileOptions) :
    (compile tree registry options).customProperties =
      (SettingsNode.all tree registry).flatMap
        (·.customProperties (Stylesheet.settings tree) options.space) := by
  have hsame := Stylesheet.sameSettings_withSeparatorColors tree
  simp only [compile, hsame.settingsNodes_eq, hsame.settings_eq]

section

variable {tree : Json} (registry : Registry) (options : CompileOptions)

/-- **Utility classes never dangle.** The styles are the reset, the rules of the style nodes, the
alignments, the margins of block gaps and then the utility classes of each settings node; the custom
properties are those of the same settings nodes. The classes of a node are one for each class of the
category of each item with a slug, by category, origin and item, and the name that a class refers to
is declared by the node if the item has a value. -/
theorem compile_utilityClasses (h : Preset.AsciiSlugs (Stylesheet.settings tree)) :
    let settings := Stylesheet.settings tree
    let nodes := SettingsNode.all tree registry
    let bundle := compile tree registry options
    let lined := Stylesheet.withSeparatorColors tree
    (bundle.styles =
      Stylesheet.reset settings options.space
          (StyleContext.ofTree lined options.space).paddingAlign ++
        (StyleNode.all lined registry options.skipFilters).flatMap
          (Stylesheet.nodeRules lined options) ++
        Stylesheet.alignments ++
        Stylesheet.gapRules lined options ++
        nodes.flatMap (·.utilityClasses options.space)) ∧
      bundle.customProperties = nodes.flatMap (·.customProperties settings options.space) ∧
      ∀ node ∈ nodes, ∃ places : List ClassPlace, places.Pairwise ClassPlace.Precedes ∧
        (∀ place, place ∈ places ↔ place.IsIn node.presets) ∧
        List.Forall₂ (node.GivesClass settings options.space) places
          (node.utilityClasses options.space) := by
  have hsame := Stylesheet.sameSettings_withSeparatorColors tree
  intro settings nodes bundle lined
  refine ⟨?_, customProperties_compile tree registry options, fun node hnode ↦ ?_⟩
  · show Stylesheet.styles lined registry options = _
    rw [Stylesheet.styles, hsame.settings_eq, hsame.settingsNodes_eq]
  · obtain ⟨source, hsource, hcatalog⟩ := SettingsNode.exists_source hnode
    refine ⟨ClassPlace.all node.presets, ClassPlace.pairwise_all _,
      ClassPlace.mem_all_iff node.presets, node.forall₂_utilityClasses _ _ ?_⟩
    intro category origin item hitem
    rw [hcatalog] at hitem
    exact h source hsource category category.mem_all origin origin.mem_all item hitem

end

/-- A tree with a colour of the theme, and a block with a size of its own beside an item without a
slug and one without a size. -/
def treeWithClasses : Json :=
  .obj [("settings", .obj
    [("color", .obj [("palette", .obj [("theme", .arr
      [.obj [("slug", .str "XLarge ink"), ("color", .str "#111")]])])]),
      ("blocks", .obj [("core/quote", .obj [("typography", .obj [("fontSizes", .obj
        [("custom", .arr [.obj [("name", .str "none")], .obj [("slug", .str "2xl"),
          ("size", .str "3rem")], .obj [("slug", .str "bare")]])])])])])])]

/-- The classes of both nodes at the end of the styles, and what they refer to. The class of the item
without a size is there, and nothing is declared for it. -/
theorem compile_utilityClasses_quote :
    Preset.AsciiSlugs (Stylesheet.settings treeWithClasses) ∧
      (∀ node ∈ SettingsNode.all treeWithClasses registryOfQuote, ∃ places : List ClassPlace,
        places.Pairwise ClassPlace.Precedes ∧ (∀ place, place ∈ places ↔ place.IsIn node.presets) ∧
          List.Forall₂ (node.GivesClass (Stylesheet.settings treeWithClasses) "wp") places
            (node.utilityClasses "wp")) ∧
      (SettingsNode.all treeWithClasses registryOfQuote).map
          (fun node ↦ (node.utilityClasses "wp").map Rule.selector) =
        [[".has-x-large-ink-color", ".has-x-large-ink-background-color",
            ".has-x-large-ink-border-color"],
          ["blockquote.has-2-xl-font-size", "blockquote.has-bare-font-size"]] ∧
      (compile treeWithClasses registryOfQuote .standard).styles.map Rule.selector =
        ["body", ".wp-site-blocks > .alignleft", ".wp-site-blocks > .alignright",
          ".wp-site-blocks > .aligncenter", ":where(.wp-site-blocks) > *",
          ":where(.wp-site-blocks) > :first-child:first-child",
          ":where(.wp-site-blocks) > :last-child:last-child", ".has-x-large-ink-color",
          ".has-x-large-ink-background-color", ".has-x-large-ink-border-color",
          "blockquote.has-2-xl-font-size", "blockquote.has-bare-font-size"] ∧
      ((compile treeWithClasses registryOfQuote .standard).customProperties.map fun rule ↦
          (rule.selector, rule.declarations.map Declaration.text)) =
        [("body", ["--wp--preset--color--x-large-ink: #111"]),
          ("blockquote", ["--wp--preset--font-size--2-xl: 3rem"])] := by
  have hascii : Preset.AsciiSlugs (Stylesheet.settings treeWithClasses) := by decide +kernel
  exact ⟨hascii, (compile_utilityClasses registryOfQuote .standard hascii).2.2, by decide +kernel,
    by decide +kernel, by decide +kernel⟩

end GlobalStyles
