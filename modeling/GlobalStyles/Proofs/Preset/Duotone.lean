import GlobalStyles.Proofs.Preset.Cascade
import GlobalStyles.Proofs.Preset.Utility

/-!
# Duotones and their filters

A duotone preset is declared as the address of a filter, which the host draws from the data that the
bundle lists. The two are made apart. Declarations go through the catalogs that settings nodes have
picked, and so only through those of registered blocks; filters are collected from the settings as
they are, those of the root and of all blocks, but only from the default and the theme origin.

What is collected is said by places (`FilterPlace`): the settings, the origin, and the position in
the catalog. There is one filter for each place with a slug, in the order of places
(`DuotoneFilter.forall₂_collect`). The settings of every node are among those that are gone through,
and the id in an address is put together as that of the filter is
(`DuotoneFilter.duotoneAddress_eq`), so no address of the two origins dangles
(`compile_duotones`).
-/

namespace GlobalStyles

open Json

/-! ### Places -/

namespace DuotoneFilter

/-- The settings that filters are collected from: those of the root, then those of each block. -/
def sources (settings : Json) : List Json :=
  settings :: (settings.child "blocks").entries.map Prod.snd

theorem collect_eq (settings : Json) (space : String) :
    collect settings space = (sources settings).flatMap (ofSource space) := by
  have hblocks : ((settings.get? ["blocks"]).bind Json.fields?).getD [] =
      (settings.child "blocks").entries := by
    rw [← entries_get?]
    rcases settings.get? ["blocks"] with _ | blocks
    · rfl
    · cases blocks <;> rfl
  rw [collect, hblocks, sources]

end DuotoneFilter

/-- Where a filter comes from: settings of the root or of a block, by their position, an origin, and
the position of an item in its catalog. -/
structure FilterPlace where
  source : Nat
  origin : Origin
  position : Nat

namespace FilterPlace

/-- The order of places: by settings, then by origin, then by position. -/
inductive Precedes : FilterPlace → FilterPlace → Prop
  | source {place other : FilterPlace} (h : place.source < other.source) : Precedes place other
  | origin {source i j : Nat} {origin later : Origin}
    (h : Origin.all.idxOf origin < Origin.all.idxOf later) :
    Precedes ⟨source, origin, i⟩ ⟨source, later, j⟩
  | position {source i j : Nat} {origin : Origin} (h : i < j) :
    Precedes ⟨source, origin, i⟩ ⟨source, origin, j⟩

/-- The item at a place. -/
def item? (settings : Json) (place : FilterPlace) : Option Json :=
  (DuotoneFilter.sources settings)[place.source]?.bind fun source ↦
    (PresetCategory.duotone.catalog source place.origin)[place.position]?

/-- Some settings have a duotone at a place: the origin is the default or the theme, and the item
has a slug. -/
structure IsIn (settings : Json) (place : FilterPlace) : Prop where
  origin : place.origin ∈ [Origin.default, Origin.theme]
  item : ∃ item, place.item? settings = some item ∧ (Preset.slug? item).isSome

/-- A filter is that of the item at a place. -/
def Gives (settings : Json) (space : String) (place : FilterPlace) (filter : DuotoneFilter) :
    Prop :=
  ∃ item slug, place.item? settings = some item ∧ Preset.slug? item = some slug ∧
    filter = ⟨slug, space ++ "-duotone-" ++ Text.kebabCase slug, DuotoneFilter.stopsOf item⟩

/-- The place of an item, if it has a slug. -/
def ofItem (source : Nat) (origin : Origin) (item : Json × Nat) : List FilterPlace :=
  if (Preset.slug? item.1).isSome then [⟨source, origin, item.2⟩] else []

/-- The places of some settings. -/
def ofSource (source : Json × Nat) : List FilterPlace :=
  DuotoneFilter.origins.flatMap fun origin ↦
    (PresetCategory.duotone.catalog source.1 origin).zipIdx.flatMap (ofItem source.2 origin)

/-- The places of all settings, in their order. -/
def all (settings : Json) : List FilterPlace :=
  (DuotoneFilter.sources settings).zipIdx.flatMap ofSource

theorem mem_ofItem_iff {source : Nat} {origin : Origin} {item : Json × Nat} {place : FilterPlace} :
    place ∈ ofItem source origin item ↔
      (Preset.slug? item.1).isSome ∧ place = ⟨source, origin, item.2⟩ := by
  rw [ofItem]
  split <;> rename_i hslug
  · simp [hslug]
  · simp [hslug]

theorem mem_ofSource_iff {source : Json × Nat} {place : FilterPlace} :
    place ∈ ofSource source ↔
      place.source = source.2 ∧ place.origin ∈ DuotoneFilter.origins ∧
        ∃ item, (PresetCategory.duotone.catalog source.1 place.origin)[place.position]? =
          some item ∧ (Preset.slug? item).isSome := by
  simp only [ofSource, List.mem_flatMap, mem_ofItem_iff]
  constructor
  · rintro ⟨origin, horigin, item, hitem, hslug, rfl⟩
    exact ⟨rfl, horigin, item.1, List.mem_zipIdx_iff_getElem?.1 hitem, hslug⟩
  · rintro ⟨hsource, horigin, item, hitem, hslug⟩
    refine ⟨place.origin, horigin, (item, place.position), ?_, hslug, by rw [← hsource]⟩
    exact List.mem_zipIdx_iff_getElem?.2 hitem

/-- **The places are those where some settings have a duotone.** -/
theorem mem_all_iff (settings : Json) (place : FilterPlace) :
    place ∈ all settings ↔ place.IsIn settings := by
  simp only [all, List.mem_flatMap, mem_ofSource_iff]
  constructor
  · rintro ⟨source, hsource, hplace, horigin, item, hitem, hslug⟩
    have hget := List.mem_zipIdx_iff_getElem?.1 hsource
    refine ⟨horigin, item, ?_, hslug⟩
    rw [item?, hplace, hget, Option.bind_some, hitem]
  · rintro ⟨horigin, item, hitem, hslug⟩
    obtain ⟨source, hget, hitem⟩ := Option.bind_eq_some_iff.1 hitem
    exact ⟨(source, place.source), List.mem_zipIdx_iff_getElem?.2 hget, rfl, horigin, item, hitem,
      hslug⟩

theorem pairwise_ofSource (source : Json × Nat) : (ofSource source).Pairwise Precedes := by
  have horigins : DuotoneFilter.origins.Pairwise fun origin later ↦
      Origin.all.idxOf origin < Origin.all.idxOf later := by decide
  refine List.pairwise_flatMap.2 ⟨fun origin _ ↦ List.pairwise_flatMap.2 ⟨fun item _ ↦ ?_, ?_⟩, ?_⟩
  · rw [ofItem]
    split
    · exact List.pairwise_singleton _ _
    · exact .nil
  · refine (pairwise_zipIdx _).imp fun hlt place hplace other hother ↦ ?_
    obtain ⟨-, rfl⟩ := mem_ofItem_iff.1 hplace
    obtain ⟨-, rfl⟩ := mem_ofItem_iff.1 hother
    exact .position hlt
  · refine horigins.imp fun hlt place hplace other hother ↦ ?_
    obtain ⟨_, -, hplace⟩ := List.mem_flatMap.1 hplace
    obtain ⟨_, -, hother⟩ := List.mem_flatMap.1 hother
    obtain ⟨-, rfl⟩ := mem_ofItem_iff.1 hplace
    obtain ⟨-, rfl⟩ := mem_ofItem_iff.1 hother
    exact .origin hlt

/-- **The places stand in their order**, so no place comes twice. -/
theorem pairwise_all (settings : Json) : (all settings).Pairwise Precedes := by
  refine List.pairwise_flatMap.2 ⟨fun source _ ↦ pairwise_ofSource source, ?_⟩
  refine (pairwise_zipIdx _).imp fun hlt place hplace other hother ↦ .source ?_
  rw [(mem_ofSource_iff.1 hplace).1, (mem_ofSource_iff.1 hother).1]
  exact hlt

end FilterPlace

/-! ### Collecting -/

namespace DuotoneFilter

theorem ofItem?_eq_some_iff (space : String) (item : Json) (filter : DuotoneFilter) :
    ofItem? space item = some filter ↔
      ∃ slug, Preset.slug? item = some slug ∧
        filter = ⟨slug, idOf space slug, stopsOf item⟩ := by
  rw [ofItem?, Option.map_eq_some_iff]
  exact exists_congr fun slug ↦ and_congr_right' eq_comm

/-- **One filter is collected for each place**, in the order of places. -/
theorem forall₂_collect (settings : Json) (space : String) :
    List.Forall₂ (FilterPlace.Gives settings space) (FilterPlace.all settings)
      (collect settings space) := by
  have hsources : (sources settings).flatMap (ofSource space) =
      (sources settings).zipIdx.flatMap fun source ↦ ofSource space source.1 := by
    rw [← List.flatMap_map Prod.fst, List.zipIdx_map_fst]
  have hitems (items : List Json) : items.filterMap (ofItem? space) =
      items.zipIdx.flatMap fun item ↦ (ofItem? space item.1).toList := by
    rw [← List.flatMap_map Prod.fst fun item ↦ (ofItem? space item).toList, List.zipIdx_map_fst,
      List.filterMap_eq_flatMap_toList]
  rw [collect_eq, hsources, FilterPlace.all]
  refine forall₂_flatMap_of_mem fun source hsource ↦ forall₂_flatMap (fun origin ↦ ?_) _
  rw [hitems]
  refine forall₂_flatMap_of_mem fun item hitem ↦ ?_
  rcases hslug : Preset.slug? item.1 with - | slug
  · simp [FilterPlace.ofItem, ofItem?, hslug]
  · rw [FilterPlace.ofItem, ofItem?, hslug, Option.isSome_some, if_pos rfl]
    refine .cons ⟨item.1, slug, ?_, hslug, rfl⟩ .nil
    rw [FilterPlace.item?, List.mem_zipIdx_iff_getElem?.1 hsource, Option.bind_some]
    exact List.mem_zipIdx_iff_getElem?.1 hitem

/-- The filter of every item with a slug is collected. -/
theorem mem_collect {settings source item : Json} {origin : Origin} {slug : String}
    (hsource : source ∈ sources settings) (horigin : origin ∈ origins)
    (hitem : item ∈ PresetCategory.duotone.catalog source origin)
    (hslug : Preset.slug? item = some slug) (space : String) :
    ⟨slug, idOf space slug, stopsOf item⟩ ∈ collect settings space := by
  rw [collect_eq]
  refine List.mem_flatMap.2 ⟨source, hsource, List.mem_flatMap.2 ⟨origin, horigin, ?_⟩⟩
  exact List.mem_filterMap.2 ⟨item, hitem, (ofItem?_eq_some_iff _ _ _).2 ⟨slug, hslug, rfl⟩⟩

end DuotoneFilter

/-! ### A bundle -/

/-- **Address and id agree**, though each is put together by itself. -/
theorem DuotoneFilter.duotoneAddress_eq (space slug : String) :
    Preset.duotoneAddress space slug = "url( '#" ++ idOf space slug ++ "' )" := by
  simp only [Preset.duotoneAddress, idOf, String.append_assoc]

/-- What is declared for a duotone is the address of its filter. -/
theorem Preset.declaration?_duotone_eq_some {settings item : Json} {space : String}
    {declaration : Declaration}
    (h : declaration? .duotone settings space item = some declaration) :
    ∃ slug, slug? item = some slug ∧
      declaration.value = "url( '#" ++ DuotoneFilter.idOf space slug ++ "' )" := by
  obtain ⟨slug, hslug, hvalue, -⟩ := (declaration?_eq_some_iff _ _ _ _ _).1 h
  obtain ⟨own, hown, hurl⟩ := Option.map_eq_some_iff.1 hvalue
  rw [hslug, Option.some.injEq] at hown
  exact ⟨slug, hslug, hurl.symm.trans (hown ▸ DuotoneFilter.duotoneAddress_eq space slug)⟩

/-- The rule of a node has all its declarations. -/
theorem SettingsNode.exists_rule_of_mem_declarations {node : SettingsNode} {settings : Json}
    {space : String} {declaration : Declaration}
    (h : declaration ∈ node.declarations settings space) :
    ∃ rule ∈ node.customProperties settings space,
      rule.selector = node.selector ∧ declaration ∈ rule.declarations :=
  ⟨_, Rule.mem_make_iff.2 ⟨List.ne_nil_of_mem h, rfl⟩, rfl, h⟩

section

variable (tree : Json) (registry : Registry) (options : CompileOptions)

theorem filters_compile :
    (compile tree registry options).filters =
      DuotoneFilter.collect (Stylesheet.settings tree) options.space := by
  have hsame := Stylesheet.sameSettings_withSeparatorColors tree
  simp only [compile, hsame.settings_eq]

/-- What a place declares is in the custom properties, in the rule of the node. -/
theorem exists_rule_of_declaration? {node : SettingsNode} {place : ItemPlace}
    {declaration : Declaration} (hnode : node ∈ SettingsNode.all tree registry)
    (hplace : place ∈ ItemPlace.all node.presets)
    (h : place.declaration? node.presets (Stylesheet.settings tree) options.space =
      some declaration) :
    ∃ rule ∈ (compile tree registry options).customProperties,
      rule.selector = node.selector ∧ declaration ∈ rule.declarations := by
  have hpreset : declaration ∈
      Preset.declarations node.presets (Stylesheet.settings tree) options.space := by
    rw [ItemPlace.declarations_eq]
    exact List.mem_filterMap.2 ⟨place, hplace, h⟩
  obtain ⟨rule, hrule, hown⟩ :=
    SettingsNode.exists_rule_of_mem_declarations (List.mem_append_left _ hpreset)
  rw [customProperties_compile]
  exact ⟨rule, List.mem_flatMap.2 ⟨node, hnode, hrule⟩, hown⟩

/-- What a place of a duotone declares is the address of a filter with the slug of its item. -/
theorem exists_filter_of_declaration? {node : SettingsNode} {place : ItemPlace}
    {declaration : Declaration} (hnode : node ∈ SettingsNode.all tree registry)
    (hduotone : place.category = .duotone) (horigin : place.origin ∈ [Origin.default, Origin.theme])
    (h : place.declaration? node.presets (Stylesheet.settings tree) options.space =
      some declaration) :
    ∃ filter ∈ (compile tree registry options).filters,
      declaration.value = "url( '#" ++ filter.filterId ++ "' )" ∧
        (place.item? node.presets).bind Preset.slug? = some filter.presetSlug := by
  obtain ⟨item, hitem, hmade⟩ := Option.bind_eq_some_iff.1 h
  rw [hduotone] at hmade
  obtain ⟨slug, hslug, hvalue⟩ := Preset.declaration?_duotone_eq_some hmade
  -- a node shows the catalogs of one of the settings that the filters are taken from
  obtain ⟨source, hsource, hcatalog⟩ := SettingsNode.exists_source hnode
  have hmem : item ∈ PresetCategory.duotone.catalog source place.origin := by
    rw [← hcatalog, ← hduotone]
    exact List.mem_of_getElem? hitem
  rw [filters_compile]
  exact ⟨_, DuotoneFilter.mem_collect hsource horigin hmem hslug options.space, hvalue,
    by rw [hitem, Option.bind_some, hslug]⟩

/-- **No address of a filter dangles.** The custom properties are those of the settings nodes, and a
node declares its presets place by place. What it declares for a duotone of the default or the theme
origin is the address of a filter of the bundle with the slug of the item. The filters are one for
each duotone of these two origins that has a slug, by settings, origin and position. -/
theorem compile_duotones :
    let settings := Stylesheet.settings tree
    let nodes := SettingsNode.all tree registry
    let bundle := compile tree registry options
    bundle.customProperties = nodes.flatMap (·.customProperties settings options.space) ∧
      (∀ node : SettingsNode, Preset.declarations node.presets settings options.space =
        (ItemPlace.all node.presets).filterMap
          (ItemPlace.declaration? node.presets settings options.space)) ∧
      (∀ node ∈ nodes, ∀ place ∈ ItemPlace.all node.presets, place.category = .duotone →
        place.origin ∈ [Origin.default, Origin.theme] → ∀ declaration,
          place.declaration? node.presets settings options.space = some declaration →
            (∃ rule ∈ bundle.customProperties, rule.selector = node.selector ∧
              declaration ∈ rule.declarations) ∧
            ∃ filter ∈ bundle.filters,
              declaration.value = "url( '#" ++ filter.filterId ++ "' )" ∧
                (place.item? node.presets).bind Preset.slug? = some filter.presetSlug) ∧
      ∃ places : List FilterPlace, places.Pairwise FilterPlace.Precedes ∧
        (∀ place, place ∈ places ↔ place.IsIn settings) ∧
        List.Forall₂ (FilterPlace.Gives settings options.space) places bundle.filters := by
  intro settings nodes bundle
  refine ⟨customProperties_compile tree registry options,
    fun node ↦ ItemPlace.declarations_eq _ _ _,
    fun node hnode place hplace hduotone horigin declaration h ↦
      ⟨exists_rule_of_declaration? tree registry options hnode hplace h,
        exists_filter_of_declaration? tree registry options hnode hduotone horigin h⟩,
    FilterPlace.all settings, FilterPlace.pairwise_all settings, FilterPlace.mem_all_iff settings,
    ?_⟩
  rw [show bundle.filters = _ from filters_compile tree registry options]
  exact DuotoneFilter.forall₂_collect settings options.space

end

/-- The duotones of a quote, of which the first has no slug. -/
private def duotonesOfQuote : Json :=
  .obj [("color", .obj [("duotone", .obj [("theme", .arr
    [.obj [("name", .str "none")],
      .obj [("slug", .str "dusk"), ("colors", .arr [.str "#000", .str "dusky"])]])])])]

/-- A tree with duotones of all origins, of a block that is not registered, and of a quote. -/
private def treeWithDuotones : Json :=
  .obj [("settings", .obj
    [("color", .obj [("duotone", .obj
      [("custom", .arr [.obj [("slug", .str "mine")]]),
        ("theme", .arr [.obj [("slug", .str "blueRed")]]),
        ("default", .arr [.obj [("slug", .str "gray")]])])]),
      ("blocks", .obj
        [("core/old", .obj [("color", .obj [("duotone", .obj [("default", .arr
          [.obj [("slug", .str "sepia")]])])])]),
          ("core/quote", duotonesOfQuote)])])]

/-- The node of the quote declares the address of a filter, which is the last one of the bundle. -/
theorem compile_duotones_quote :
    ∃ node ∈ SettingsNode.all treeWithDuotones registryOfQuote, node.scope = some "core/quote" ∧
      ItemPlace.declaration? node.presets (Stylesheet.settings treeWithDuotones) "wp"
          ⟨.duotone, .theme, 1⟩ =
        some ⟨"--wp--preset--duotone--dusk", "url( '#wp-duotone-dusk' )"⟩ ∧
      (∃ filter ∈ (compile treeWithDuotones registryOfQuote .standard).filters,
        "url( '#wp-duotone-dusk' )" = "url( '#" ++ filter.filterId ++ "' )" ∧
          some "dusk" = some filter.presetSlug) ∧
      (compile treeWithDuotones registryOfQuote .standard).filters.map DuotoneFilter.filterId =
        ["wp-duotone-gray", "wp-duotone-blue-red", "wp-duotone-sepia", "wp-duotone-dusk"] := by
  have hnode : ⟨some "core/quote", "blockquote", SettingsNode.pickPresets duotonesOfQuote, none⟩ ∈
      SettingsNode.all treeWithDuotones registryOfQuote := .tail _ (.head _)
  have hplace : (⟨.duotone, .theme, 1⟩ : ItemPlace) ∈
      ItemPlace.all (SettingsNode.pickPresets duotonesOfQuote) := by decide +kernel
  have hdeclaration : ItemPlace.declaration? (SettingsNode.pickPresets duotonesOfQuote)
      (Stylesheet.settings treeWithDuotones) "wp" ⟨.duotone, .theme, 1⟩ =
        some ⟨"--wp--preset--duotone--dusk", "url( '#wp-duotone-dusk' )"⟩ := by decide +kernel
  have hfilter := ((compile_duotones treeWithDuotones registryOfQuote .standard).2.2.1 _ hnode _
    hplace rfl (by decide) _ hdeclaration).2
  exact ⟨_, hnode, rfl, hdeclaration, hfilter, by decide +kernel⟩

end GlobalStyles
