import GlobalStyles.Proofs.Preset.Declared
import GlobalStyles.Reference.Resolve

/-!
# A look-up and the cascade

A preset is overridden in two ways. A look-up goes through the origins from the strongest to the
weakest and stops at the first item with the slug. The declarations go through them the other way,
all items are declared, and the last declaration of a name wins. Both walks are put as lists of
places here (`ItemPlace`), so that one can ask where an item comes from, and not only which one it
is.

Only items of the category with the slug have the name, because categories and slugs can be read off
a name. So both walks meet the same places in each catalog, and of the catalogs that have one both
take the strongest (`map_head?_flatMap_reverse`). Inside this catalog the look-up takes the first
place and the cascade the last one, so they take the same item if there is only one.
-/

namespace GlobalStyles

open Text (kebabCase)

/-! ### Places -/

/-- Where an item stands: in a catalog, at a position. -/
structure ItemPlace where
  category : PresetCategory
  origin : Origin
  position : Nat
  deriving DecidableEq

namespace ItemPlace

/-- The catalog of a place. -/
def source (place : ItemPlace) : PresetCategory × Origin :=
  (place.category, place.origin)

/-- The item at a place. -/
def item? (presets : Json) (place : ItemPlace) : Option Json :=
  (place.category.catalog presets place.origin)[place.position]?

/-- The declaration of the item at a place. -/
def declaration? (presets settings : Json) (space : String) (place : ItemPlace) :
    Option Declaration :=
  (place.item? presets).bind (Preset.declaration? place.category settings space)

/-- The places of a catalog. -/
def ofCatalog (presets : Json) (category : PresetCategory) (origin : Origin) : List ItemPlace :=
  (category.catalog presets origin).zipIdx.map fun item ↦ ⟨category, origin, item.2⟩

/-- All places, in the order in which items are declared. -/
def all (presets : Json) : List ItemPlace :=
  PresetCategory.all.flatMap fun category ↦ Origin.all.flatMap (ofCatalog presets category)

/-- The places of a category, in the order in which items are looked up. -/
def byPriority (presets : Json) (category : PresetCategory) : List ItemPlace :=
  Origin.byPriority.flatMap (ofCatalog presets category)

/-- The place at which the look-up of a slug stops. -/
def found? (settings : Json) (category : PresetCategory) (slug : String) : Option ItemPlace :=
  (byPriority settings category).find? fun place ↦
    (place.item? settings).any (Preset.hasSlug slug)

/-- The place of the last declaration of a name. -/
def lastDeclared? (presets settings : Json) (space name : String) : Option ItemPlace :=
  (all presets).findRev? fun place ↦
    (place.declaration? presets settings space).any (·.property == name)

section

variable (presets : Json) (category : PresetCategory) (origin : Origin)

theorem source_of_mem_ofCatalog {place : ItemPlace}
    (h : place ∈ ofCatalog presets category origin) : place.source = (category, origin) := by
  obtain ⟨item, -, rfl⟩ := List.mem_map.1 h
  rfl

/-- What stands at the places of a catalog are its items. -/
theorem map_item?_ofCatalog :
    (ofCatalog presets category origin).map (item? presets) =
      (category.catalog presets origin).map some := by
  have hitem : ∀ item ∈ (category.catalog presets origin).zipIdx,
      item? presets ⟨category, origin, item.2⟩ = some item.1 := fun item hmem ↦
    List.mem_zipIdx_iff_getElem?.1 hmem
  calc (ofCatalog presets category origin).map (item? presets)
      = (category.catalog presets origin).zipIdx.map (some ∘ Prod.fst) := by
        rw [ofCatalog, List.map_map]
        exact List.map_congr_left hitem
    _ = (category.catalog presets origin).map some := by
        rw [← List.map_map, List.zipIdx_map_fst]

theorem filterMap_ofCatalog {β : Type} (f : Json → Option β) :
    (ofCatalog presets category origin).filterMap (fun place ↦ (place.item? presets).bind f) =
      (category.catalog presets origin).filterMap f := by
  have hmap := congrArg (List.filterMap (Option.bind · f))
    (map_item?_ofCatalog presets category origin)
  rwa [List.filterMap_map, List.filterMap_map] at hmap

/-- As many places of a catalog pass a test as items do. -/
theorem length_filter_ofCatalog (p : Json → Bool) :
    ((ofCatalog presets category origin).filter fun place ↦ (place.item? presets).any p).length =
      ((category.catalog presets origin).filter p).length := by
  have hmap := congrArg (fun items ↦ (items.filter (Option.any p)).length)
    (map_item?_ofCatalog presets category origin)
  simp only [List.filter_map, List.length_map] at hmap
  exact hmap

end

/-- **The declarations are those of the places.** -/
theorem declarations_eq (presets settings : Json) (space : String) :
    Preset.declarations presets settings space =
      (all presets).filterMap (declaration? presets settings space) := by
  simp only [Preset.declarations, all, List.filterMap_flatMap]
  refine List.flatMap_congr fun category _ ↦ List.flatMap_congr fun origin _ ↦ ?_
  rw [← filterMap_ofCatalog]
  refine List.filterMap_congr fun place hplace ↦ ?_
  rw [declaration?, (Prod.mk.inj (source_of_mem_ofCatalog _ _ _ hplace)).1]

/-- **The last declaration of a name is that of its last place.** -/
theorem findRev?_declarations (presets settings : Json) (space name : String) :
    (Preset.declarations presets settings space).findRev? (·.property == name) =
      (lastDeclared? presets settings space name).bind (declaration? presets settings space) := by
  rw [declarations_eq, lastDeclared?, List.findRev?_eq_find?_reverse,
    List.findRev?_eq_find?_reverse, ← List.filterMap_reverse, List.find?_filterMap]

/-- **A look-up in the root finds the item at the place where it stops.** -/
theorem bySlug?_eq (settings : Json) (category : PresetCategory) (slug : String) :
    Preset.bySlug? category settings none slug =
      (found? settings category slug).bind (item? settings) := by
  have hcandidates : Preset.candidates category settings none =
      (byPriority settings category).filterMap (item? settings) := by
    rw [Preset.candidates, Preset.sources, Option.bind_none, Option.toList_none, List.nil_append,
      List.flatMap_singleton, byPriority, List.filterMap_flatMap]
    refine List.flatMap_congr fun origin _ ↦ ?_
    simpa using (filterMap_ofCatalog settings category origin some).symm
  rw [Preset.bySlug?, hcandidates, List.find?_filterMap, found?]

end ItemPlace

/-! ### First and last -/

/-- Where at most one part of a list gives anything, it gives everything. -/
theorem flatMap_eq_of_forall_ne {α β : Type} {f : α → List β} {items : List α} {item : α}
    (hnodup : items.Nodup) (hmem : item ∈ items) (h : ∀ other, other ≠ item → f other = []) :
    items.flatMap f = f item := by
  obtain ⟨before, after, rfl⟩ := List.append_of_mem hmem
  rw [List.nodup_middle, List.nodup_cons, List.mem_append, not_or] at hnodup
  have hnil {others : List α} (hothers : item ∉ others) : others.flatMap f = [] :=
    List.flatMap_eq_nil_iff.2 fun other hother ↦ h other (ne_of_mem_of_not_mem hother hothers)
  rw [List.flatMap_append, List.flatMap_cons, hnil hnodup.1.1, hnil hnodup.1.2, List.nil_append,
    List.append_nil]

/-- The first of all, gone through backwards group by group, and the last of all stand in the same
group. -/
theorem map_head?_flatMap_reverse {α β γ : Type} {group : α → List β} {tag : β → γ} {key : α → γ}
    (h : ∀ a, ∀ b ∈ group a, tag b = key a) (as : List α) :
    (as.reverse.flatMap group).head?.map tag = (as.flatMap group).getLast?.map tag := by
  induction as with
  | nil => rfl
  | cons a as ih =>
    have hgroup : (group a).head?.map tag = (group a).getLast?.map tag := by
      rcases eq_or_ne (group a) [] with hnil | hne
      · rw [hnil]
        rfl
      · rw [List.head?_eq_some_head hne, List.getLast?_eq_some_getLast hne, Option.map_some,
          Option.map_some, h a _ (List.head_mem hne), h a _ (List.getLast_mem hne)]
    rw [List.reverse_cons, List.flatMap_append, List.flatMap_singleton, List.flatMap_cons,
      List.head?_append, List.getLast?_append, Option.map_or, Option.map_or, ih, hgroup]

/-! ### The two walks -/

/-- Every item of a category that has a slug has a value in CSS. -/
def Preset.SlugIsValued (settings : Json) (space : String) (category : PresetCategory)
    (slug : String) : Prop :=
  ∀ origin ∈ Origin.all, ∀ item ∈ category.catalog settings origin, hasSlug slug item = true →
    (css? category item settings space).isSome = true

instance (settings : Json) (space : String) (category : PresetCategory) (slug : String) :
    Decidable (Preset.SlugIsValued settings space category slug) :=
  inferInstanceAs (Decidable (∀ origin ∈ Origin.all, _))

namespace ItemPlace

/-- The places with a slug in one catalog. -/
def withSlug (settings : Json) (category : PresetCategory) (slug : String) (origin : Origin) :
    List ItemPlace :=
  (ofCatalog settings category origin).filter fun place ↦
    (place.item? settings).any (Preset.hasSlug slug)

theorem found?_eq (settings : Json) (category : PresetCategory) (slug : String) :
    found? settings category slug =
      (Origin.all.reverse.flatMap (withSlug settings category slug)).head? := by
  rw [found?, ← List.head?_filter, byPriority, List.filter_flatMap]
  rfl

theorem source_of_mem_withSlug {settings : Json} {category : PresetCategory} {slug : String}
    {origin : Origin} {place : ItemPlace} (h : place ∈ withSlug settings category slug origin) :
    place.source = (category, origin) :=
  source_of_mem_ofCatalog _ _ _ (List.mem_filter.1 h).1

theorem mem_withSlug_origin {settings : Json} {category : PresetCategory} {slug : String}
    {origins : List Origin} {place : ItemPlace}
    (h : place ∈ origins.flatMap (withSlug settings category slug)) :
    place.category = category ∧ place ∈ withSlug settings category slug place.origin := by
  obtain ⟨origin, -, hplace⟩ := List.mem_flatMap.1 h
  obtain ⟨hcategory, horigin⟩ := Prod.mk.inj (source_of_mem_withSlug hplace)
  exact ⟨hcategory, horigin ▸ hplace⟩

/-- Where only one item of a catalog has the slug, there is one place only. -/
theorem eq_of_mem_withSlug {settings : Json} {category : PresetCategory} {slug : String}
    {origin : Origin} {place other : ItemPlace}
    (h : ((category.catalog settings origin).filter (Preset.hasSlug slug)).length = 1)
    (hplace : place ∈ withSlug settings category slug origin)
    (hother : other ∈ withSlug settings category slug origin) : other = place := by
  rw [← length_filter_ofCatalog] at h
  obtain ⟨only, honly⟩ := List.length_eq_one_iff.1 h
  rw [withSlug, honly, List.mem_singleton] at hplace hother
  rw [hplace, hother]

section

variable {settings : Json} {space : String} {category : PresetCategory} {slug : String}
  (h : Preset.SlugIsValued settings space category slug)
include h

/-- The name of a category and a slug is declared for the items of the category with the slug. -/
theorem any_declaration?_iff (place : ItemPlace) :
    (place.declaration? settings settings space).any (·.property ==
        Reference.propertyName space ["preset", category.segment, slug]) = true ↔
      place.category = category ∧ (place.item? settings).any (Preset.hasSlug slug) = true := by
  simp only [declaration?, Option.any_eq_true, Option.bind_eq_some_iff, beq_iff_eq,
    Preset.declaration?_eq_some_iff, Preset.hasSlug_iff]
  constructor
  · rintro ⟨declaration, ⟨item, hitem, own, hown, -, hproperty⟩, hname⟩
    obtain ⟨-, hsegments⟩ :=
      (Reference.propertyName_cons_eq_iff _ _ _ _ _).1 (hproperty.symm.trans hname)
    simp only [List.map_cons, List.map_nil, PresetCategory.kebabCase_segment, List.cons.injEq,
      and_true] at hsegments
    exact ⟨PresetCategory.segment_injective hsegments.1, item, hitem, own, hown, hsegments.2⟩
  · rintro ⟨rfl, item, hitem, own, hown, hsame⟩
    have hslug : Preset.hasSlug slug item = true := (Preset.hasSlug_iff _ _).2 ⟨own, hown, hsame⟩
    obtain ⟨value, hvalue⟩ := Option.isSome_iff_exists.1
      (h place.origin place.origin.mem_all item (List.mem_of_getElem? hitem) hslug)
    refine ⟨⟨Reference.propertyName space ["preset", place.category.segment, own], value⟩,
      ⟨item, hitem, own, hown, hvalue, rfl⟩, ?_⟩
    refine (Reference.propertyName_cons_eq_iff _ _ _ _ _).2 ⟨rfl, ?_⟩
    simp only [List.map_cons, List.map_nil, hsame]

/-- The places of a category that have the slug, catalog by catalog. -/
theorem filter_all_eq :
    (all settings).filter (fun place ↦ (place.declaration? settings settings space).any
        (·.property == Reference.propertyName space ["preset", category.segment, slug])) =
      Origin.all.flatMap (withSlug settings category slug) := by
  have hcategories : PresetCategory.all.Nodup := by decide
  have hcatalog (other : PresetCategory) {origin : Origin} {place : ItemPlace}
      (hplace : place ∈ ofCatalog settings other origin) : place.category = other :=
    (Prod.mk.inj (source_of_mem_ofCatalog _ _ _ hplace)).1
  simp only [all, List.filter_flatMap]
  rw [flatMap_eq_of_forall_ne hcategories category.mem_all]
  · refine List.flatMap_congr fun origin _ ↦ List.filter_congr fun place hplace ↦ ?_
    rw [Bool.eq_iff_iff, any_declaration?_iff h, and_iff_right (hcatalog category hplace)]
  · intro other hne
    refine List.flatMap_eq_nil_iff.2 fun origin _ ↦ List.filter_eq_nil_iff.2 fun place hplace ↦ ?_
    rw [any_declaration?_iff h, hcatalog other hplace]
    exact fun hdeclares ↦ hne hdeclares.1

theorem lastDeclared?_eq :
    lastDeclared? settings settings space
        (Reference.propertyName space ["preset", category.segment, slug]) =
      (Origin.all.flatMap (withSlug settings category slug)).getLast? := by
  rw [lastDeclared?, List.findRev?_eq_find?_reverse, ← List.getLast?_filter, filter_all_eq h]

theorem map_source_found? :
    (found? settings category slug).map source =
      (lastDeclared? settings settings space
        (Reference.propertyName space ["preset", category.segment, slug])).map source := by
  rw [found?_eq, lastDeclared?_eq h]
  exact map_head?_flatMap_reverse (fun _ _ ↦ source_of_mem_withSlug) _

/-- The first place of a catalog is the last one if it is the only one. -/
theorem lastDeclared?_of_found? {place : ItemPlace}
    (hfound : found? settings category slug = some place)
    (hone : ((place.category.catalog settings place.origin).filter
      (Preset.hasSlug slug)).length = 1) :
    lastDeclared? settings settings space
      (Reference.propertyName space ["preset", category.segment, slug]) = some place := by
  have hsource := map_source_found? h
  rw [hfound, Option.map_some] at hsource
  obtain ⟨other, hother, hsame⟩ := Option.map_eq_some_iff.1 hsource.symm
  rw [found?_eq] at hfound
  obtain ⟨hcategory, hin⟩ := mem_withSlug_origin (List.mem_of_mem_head? hfound)
  have hotherIn := (mem_withSlug_origin
    (List.mem_of_mem_getLast? ((lastDeclared?_eq h).symm.trans hother))).2
  rw [(Prod.mk.inj hsame).2] at hotherIn
  rw [hcategory] at hone
  rw [hother, eq_of_mem_withSlug hone hin hotherIn]

end

/-- **A look-up and the cascade take the same catalog**, provided that every item of the category
with the slug has a value. A look-up stops at a place, and the last declaration of the name is that
of a place; there is the one place if there is the other, and they are in the same catalog. They are
one place if only one item of the catalog has the slug. -/
theorem source_found?_eq_source_lastDeclared? {settings : Json} {space : String}
    {category : PresetCategory} {slug : String}
    (h : Preset.SlugIsValued settings space category slug) :
    let name := Reference.propertyName space ["preset", category.segment, slug]
    let found := found? settings category slug
    let last := lastDeclared? settings settings space name
    Preset.bySlug? category settings none slug = found.bind (item? settings) ∧
      Reference.lookUp? settings none (.preset category.segment slug) =
        (found.bind (item? settings)).bind (·.member? category.valueKey) ∧
      (Preset.declarations settings settings space).findRev? (·.property == name) =
        last.bind (declaration? settings settings space) ∧
      found.map source = last.map source ∧
      ∀ place ∈ found,
        ((place.category.catalog settings place.origin).filter (Preset.hasSlug slug)).length = 1 →
          last = some place := by
  intro name found last
  have hitem := bySlug?_eq settings category slug
  exact ⟨hitem, hitem ▸ Reference.lookUp?_preset settings none category slug,
    findRev?_declarations settings settings space name, map_source_found? h,
    fun _ hfound hone ↦ lastDeclared?_of_found? h hfound hone⟩

/-- Inks of two origins under one slug, a gradient with this slug, an item whose slug is no text, a
catalog that is none, and a paper that the theme has twice. -/
private def inksAndPapers : Json :=
  .obj [("color", .obj
    [("palette", .obj
      [("default", .arr [.obj [("slug", .str "ink"), ("color", .str "#111")]]),
        ("theme", .arr [.obj [("slug", .num (.int 3))],
          .obj [("slug", .str "Ink"), ("color", .str "#222")],
          .obj [("slug", .str "paper"), ("color", .str "#eee")],
          .obj [("slug", .str "Paper"), ("color", .str "#fff")]]),
        ("custom", .str "none")]),
      ("gradients", .obj [("custom", .arr
        [.obj [("slug", .str "ink"), ("gradient", .str "none")]])])])]

/-- Both walks take the ink of the theme. Of the two papers the look-up takes the first and the
cascade the second, but they are of one catalog as well. -/
theorem source_found?_eq_source_lastDeclared?_ink :
    Preset.SlugIsValued inksAndPapers "wp" .color "ink" ∧
      found? inksAndPapers .color "ink" = some ⟨.color, .theme, 1⟩ ∧
      lastDeclared? inksAndPapers inksAndPapers "wp" "--wp--preset--color--ink" =
        some ⟨.color, .theme, 1⟩ ∧
      Preset.SlugIsValued inksAndPapers "wp" .color "paper" ∧
      found? inksAndPapers .color "paper" = some ⟨.color, .theme, 2⟩ ∧
      (lastDeclared? inksAndPapers inksAndPapers "wp" "--wp--preset--color--paper").map source =
        some (.color, .theme) ∧
      lastDeclared? inksAndPapers inksAndPapers "wp" "--wp--preset--color--paper" =
        some ⟨.color, .theme, 3⟩ := by
  have hink : Preset.SlugIsValued inksAndPapers "wp" .color "ink" := by decide +kernel
  have hpaper : Preset.SlugIsValued inksAndPapers "wp" .color "paper" := by decide +kernel
  have hfoundInk : found? inksAndPapers .color "ink" = some ⟨.color, .theme, 1⟩ := by
    decide +kernel
  have hfoundPaper : found? inksAndPapers .color "paper" = some ⟨.color, .theme, 2⟩ := by
    decide +kernel
  have hnameInk : Reference.propertyName "wp" ["preset", PresetCategory.color.segment, "ink"] =
      "--wp--preset--color--ink" := by decide +kernel
  have hnamePaper : Reference.propertyName "wp" ["preset", PresetCategory.color.segment, "paper"] =
      "--wp--preset--color--paper" := by decide +kernel
  have hlastInk := (source_found?_eq_source_lastDeclared? hink).2.2.2.2 _ hfoundInk
    (by decide +kernel)
  have hsource := (source_found?_eq_source_lastDeclared? hpaper).2.2.2.1
  rw [hnameInk] at hlastInk
  rw [hnamePaper, hfoundPaper] at hsource
  exact ⟨hink, hfoundInk, hlastInk, hpaper, hfoundPaper, hsource.symm, by decide +kernel⟩

end ItemPlace

end GlobalStyles
