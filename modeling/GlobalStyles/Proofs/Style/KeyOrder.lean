import GlobalStyles.Proofs.Json.KeyOrder
import GlobalStyles.Proofs.Style.Agreement
import Mathlib.Data.List.Find

/-!
# Declarations do not depend on the order of keys

A style subtree is read along paths, and so is the tree it is compiled in: for the places that
values point at, for the options of fluid sizes and for the catalogs of presets. Nothing goes
through the entries of an object, so neither the declarations nor the reports show in which order
they stand (`StyleContext.declarations_eq_of_reordered`).

Each reader is shown to tell nothing from the ordered form of what it reads. Subtrees only have to
agree for that, while settings are read down to the items of their catalogs, which agreement leaves
open.
-/

namespace GlobalStyles

open Json

/-! ### Settings -/

namespace FluidOptions

/-- Whether fluid sizes are on does not depend on an order. -/
theorem isOn_inKeyOrder (value : Json) : isOn value.inKeyOrder = isOn value := by
  cases value with
  | obj fields =>
    rw [inKeyOrder, isOn, isOn, (Entries.sorted_perm _).isEmpty_eq, fieldsInKeyOrder_eq,
      List.isEmpty_map]
  | _ => rfl

/-- The options for fluid sizes are single members. -/
theorem ofTypography_inKeyOrder {typography : Json} (h : typography.WellFormed) :
    ofTypography typography.inKeyOrder = ofTypography typography := by
  simp only [ofTypography, get?_inKeyOrder h, Option.bind_map, Option.any_map, Function.comp_def,
    text?_inKeyOrder, isOn_inKeyOrder]

end FluidOptions

namespace Preset

theorem slug?_inKeyOrder {item : Json} (h : item.WellFormed) :
    slug? item.inKeyOrder = slug? item := by
  rw [slug?, slug?, member?_inKeyOrder h, Option.bind_map]
  simp only [Function.comp_def, text?_inKeyOrder]

theorem sources_inKeyOrder {settings : Json} (h : settings.WellFormed) (scope : Option String) :
    sources settings.inKeyOrder scope = (sources settings scope).map inKeyOrder := by
  rw [sources, sources, List.map_append]
  rcases scope with _ | name
  · rfl
  · simp only [Option.bind_some, get?_inKeyOrder h, Option.toList_map]
    rfl

/-- A catalog is an array and keeps its order; its items are put in key order. -/
theorem catalog_inKeyOrder (category : PresetCategory) {source : Json} (h : source.WellFormed)
    (origin : Origin) :
    category.catalog source.inKeyOrder origin =
      (category.catalog source origin).map inKeyOrder := by
  rw [PresetCategory.catalog, PresetCategory.catalog, PresetCategory.catalog?,
    PresetCategory.catalog?, get?_inKeyOrder h, Option.bind_map]
  rcases source.get? (category.path ++ [origin.key]) with _ | value
  · rfl
  · simp only [Option.bind_some, Function.comp_apply, items?_inKeyOrder]
    cases value.items? <;> rfl

/-- The settings that a look-up goes through are well formed. -/
theorem wellFormed_of_mem_sources {settings : Json} (h : settings.WellFormed)
    {scope : Option String} {source : Json} (hmem : source ∈ sources settings scope) :
    source.WellFormed := by
  rcases List.mem_append.1 hmem with hblock | hroot
  · obtain ⟨name, -, hget⟩ := Option.bind_eq_some_iff.1 (Option.mem_toList.1 hblock)
    exact wellFormed_of_get? h hget
  · rw [List.mem_singleton.1 hroot]
    exact h

theorem wellFormed_of_mem_catalog {category : PresetCategory} {source : Json}
    (h : source.WellFormed) {origin : Origin} {item : Json}
    (hmem : item ∈ category.catalog source origin) : item.WellFormed := by
  rw [PresetCategory.catalog, PresetCategory.catalog?] at hmem
  rcases hget : source.get? (category.path ++ [origin.key]) with _ | value
  · rw [hget] at hmem
    cases hmem
  · rw [hget, Option.bind_some] at hmem
    rcases hitems : value.items? with _ | items
    · rw [hitems] at hmem
      cases hmem
    · rw [hitems] at hmem
      exact wellFormed_of_mem_items? (wellFormed_of_get? h hget) hitems hmem

/-- A look-up meets the same items, in the same order. -/
theorem candidates_inKeyOrder (category : PresetCategory) {settings : Json}
    (h : settings.WellFormed) (scope : Option String) :
    candidates category settings.inKeyOrder scope =
      (candidates category settings scope).map inKeyOrder := by
  rw [candidates, candidates, sources_inKeyOrder h, List.flatMap_map, List.map_flatMap]
  refine List.flatMap_congr fun source hsource ↦ ?_
  rw [List.map_flatMap]
  refine List.flatMap_congr fun origin _ ↦ ?_
  exact catalog_inKeyOrder category (wellFormed_of_mem_sources h hsource) origin

/-- The items that a look-up meets are well formed. -/
theorem wellFormed_of_mem_candidates {category : PresetCategory} {settings : Json}
    (h : settings.WellFormed) {scope : Option String} {item : Json}
    (hmem : item ∈ candidates category settings scope) : item.WellFormed := by
  obtain ⟨source, hsource, hmem⟩ := List.mem_flatMap.1 hmem
  obtain ⟨origin, -, hmem⟩ := List.mem_flatMap.1 hmem
  exact wellFormed_of_mem_catalog (wellFormed_of_mem_sources h hsource) hmem

/-- The item with a slug is the same, in order. -/
theorem bySlug?_inKeyOrder (category : PresetCategory) {settings : Json} (h : settings.WellFormed)
    (scope : Option String) (slug : String) :
    bySlug? category settings.inKeyOrder scope slug =
      (bySlug? category settings scope slug).map inKeyOrder := by
  rw [bySlug?, bySlug?, candidates_inKeyOrder category h, List.find?_map]
  congr 1
  refine List.find?_congr fun item hitem ↦ ?_
  rw [Function.comp_apply, hasSlug, hasSlug,
    slug?_inKeyOrder (wellFormed_of_mem_candidates h hitem)]

end Preset

/-- **Whether a token names a preset does not depend on the order of keys.** -/
theorem Reference.presetExists_inKeyOrder {settings : Json} (h : settings.WellFormed)
    (scope : Option String) (value space : String) :
    presetExists settings.inKeyOrder scope value space =
      presetExists settings scope value space := by
  simp only [presetExists, Preset.bySlug?_inKeyOrder _ h]
  split
  · rename_i category slug _
    cases PresetCategory.ofSegment? category <;> simp
  · rfl

/-! ### Contexts -/

namespace StyleContext

/-- A context with its tree in order. -/
def inKeyOrder (ctx : StyleContext) : StyleContext :=
  { ctx with tree := ctx.tree.map Json.inKeyOrder }

/-- Two contexts are the same but for the order of keys in their trees. -/
def Reordered (ctx other : StyleContext) : Prop :=
  ctx.inKeyOrder = other.inKeyOrder

/-- The tree of a context, if it has one, is well formed. -/
def WellFormed (ctx : StyleContext) : Prop :=
  ∀ tree ∈ ctx.tree, tree.WellFormed

variable {ctx : StyleContext}

/-- What is read in the tree of a context, put in key order. -/
theorem bind_tree_inKeyOrder (h : ctx.WellFormed) (path : List String) :
    (ctx.inKeyOrder.tree.bind fun tree ↦ tree.get? path) =
      (ctx.tree.bind fun tree ↦ tree.get? path).map Json.inKeyOrder := by
  rw [inKeyOrder]
  rcases htree : ctx.tree with _ | tree
  · rfl
  · exact get?_inKeyOrder (h tree htree) path

/-- The settings of the context are put in key order. -/
theorem settings?_inKeyOrder (h : ctx.WellFormed) :
    ctx.inKeyOrder.settings? = ctx.settings?.map Json.inKeyOrder :=
  bind_tree_inKeyOrder h ["settings"]

/-- The settings of a well-formed tree are well formed. -/
theorem wellFormed_of_settings? (h : ctx.WellFormed) {settings : Json}
    (hsettings : ctx.settings? = some settings) : settings.WellFormed := by
  obtain ⟨tree, htree, hget⟩ := Option.bind_eq_some_iff.1 hsettings
  exact wellFormed_of_get? (h tree htree) hget

/-- A place is named by its keys, so its text stays. -/
theorem placeText?_inKeyOrder (h : ctx.WellFormed) (place : String) :
    ctx.inKeyOrder.placeText? place = ctx.placeText? place := by
  rw [placeText?, placeText?, bind_tree_inKeyOrder h, Option.bind_map]
  simp only [Function.comp_def, css?_inKeyOrder]

theorem fluid_inKeyOrder (h : ctx.WellFormed) : ctx.inKeyOrder.fluid = ctx.fluid := by
  rw [fluid, fluid, settings?_inKeyOrder h]
  rcases hsettings : ctx.settings? with _ | settings
  · rfl
  · have hwell := wellFormed_of_settings? h hsettings
    simp only [Option.map_some, Option.bind_some, get?_inKeyOrder hwell]
    rcases htypography : settings.get? ["typography"] with _ | typography
    · rfl
    · rw [Option.map_some, Option.map_some,
        FluidOptions.ofTypography_inKeyOrder (wellFormed_of_get? hwell htypography)]
      rfl

/-- An entry is compiled to the same declaration. -/
theorem declare_inKeyOrder (h : ctx.WellFormed) : ctx.inKeyOrder.declare = ctx.declare := by
  funext entry
  rw [declare, declare, fluid_inKeyOrder h]
  rfl

theorem reports_inKeyOrder (h : ctx.WellFormed) : ctx.inKeyOrder.reports = ctx.reports := by
  funext text
  rw [reports, reports, settings?_inKeyOrder h]
  rcases hsettings : ctx.settings? with _ | settings
  · rfl
  · have hexists := Reference.presetExists_inKeyOrder (wellFormed_of_settings? h hsettings)
      ctx.scope text ctx.space
    have hspace : ctx.inKeyOrder.space = ctx.space := rfl
    have hscope : ctx.inKeyOrder.scope = ctx.scope := rfl
    rw [hspace, hscope]
    rcases Reference.parse? text ctx.space with _ | _ | _
    · rfl
    · simp only [Option.map_some, hexists]
    · rfl

/-- A context reads all styles as its ordered form does. -/
theorem written_inKeyOrder (h : ctx.WellFormed) : ctx.inKeyOrder.written = ctx.written := by
  funext styles isRoot
  have hspace : ctx.inKeyOrder.space = ctx.space := rfl
  exact written_congr hspace rfl (placeText?_inKeyOrder h) (.refl styles) isRoot

theorem declarations_inKeyOrder (h : ctx.WellFormed) :
    ctx.inKeyOrder.declarations = ctx.declarations := by
  funext styles isRoot
  rw [declarations, declarations, written_inKeyOrder h, declare_inKeyOrder h]

theorem diagnostics_inKeyOrder (h : ctx.WellFormed) :
    ctx.inKeyOrder.diagnostics = ctx.diagnostics := by
  funext styles isRoot
  rw [diagnostics, diagnostics, written_inKeyOrder h, reports_inKeyOrder h]

/-- Contexts that are the same up to the order of keys declare and report the same. -/
theorem Reordered.declarations_eq {other : StyleContext} (hsame : ctx.Reordered other)
    (h : ctx.WellFormed) (hother : other.WellFormed) :
    ctx.declarations = other.declarations ∧ ctx.diagnostics = other.diagnostics := by
  rw [← declarations_inKeyOrder h, ← declarations_inKeyOrder hother, ← diagnostics_inKeyOrder h,
    ← diagnostics_inKeyOrder hother, show ctx.inKeyOrder = other.inKeyOrder from hsame]
  exact ⟨rfl, rfl⟩

/-- The context of a tree in key order is its context in key order. -/
theorem inKeyOrder_ofTree {tree : Json} (h : tree.WellFormed) (space : String)
    (scope : Option String) :
    ((ofTree tree space).within scope).inKeyOrder =
      (ofTree tree.inKeyOrder space).within scope := by
  rw [ofTree, ofTree, get?_inKeyOrder h, Option.any_map]
  simp only [isTruthy_inKeyOrder]
  rfl

/-- Trees that are the same but for the order of keys give such contexts. -/
theorem reordered_ofTree {tree other : Json} (h : tree.WellFormed) (hother : other.WellFormed)
    (hsame : tree.Reordered other) (space : String) (scope : Option String) :
    ((ofTree tree space).within scope).Reordered ((ofTree other space).within scope) := by
  rw [Reordered, inKeyOrder_ofTree h, inKeyOrder_ofTree hother, show _ = _ from hsame]

/-- A well-formed tree is a well-formed context, in every scope. -/
theorem wellFormed_ofTree {tree : Json} (h : tree.WellFormed) (space : String)
    (scope : Option String) : ((ofTree tree space).within scope).WellFormed := by
  rintro _ ⟨⟩
  exact h

/-- **Neither the order of keys in a subtree nor that in its context is seen in its
declarations.** -/
theorem declarations_eq_of_reordered_contexts {other : StyleContext} (h : ctx.WellFormed)
    (hother : other.WellFormed) (hsame : ctx.Reordered other) {styles styles' : Json}
    (hstyles : styles.WellFormed) (hstyles' : styles'.WellFormed)
    (hreordered : styles.Reordered styles') (isRoot : Bool) :
    ctx.declarations styles isRoot = other.declarations styles' isRoot ∧
      ctx.diagnostics styles isRoot = other.diagnostics styles' isRoot := by
  obtain ⟨hdeclarations, hdiagnostics⟩ := hsame.declarations_eq h hother
  have hagree := hreordered.agree hstyles hstyles'
  rw [hdeclarations, hdiagnostics]
  exact ⟨(Matches.refl other).declarations_eq hagree isRoot,
    (Matches.refl other).diagnostics_eq hagree isRoot⟩

/-- **Declarations do not depend on the order of keys.** Styles that are the same but for the order
of keys have the same declarations and the same reports, each in the same order, in any two contexts
that are the same but for the order of keys in their trees; in particular in those of two such
trees, whatever the namespace and the scope. -/
theorem declarations_eq_of_reordered {styles styles' : Json} (hstyles : styles.WellFormed)
    (hstyles' : styles'.WellFormed) (hreordered : styles.Reordered styles') (isRoot : Bool) :
    (∀ ctx other : StyleContext, ctx.WellFormed → other.WellFormed → ctx.Reordered other →
      ctx.declarations styles isRoot = other.declarations styles' isRoot ∧
        ctx.diagnostics styles isRoot = other.diagnostics styles' isRoot) ∧
    ∀ tree tree' : Json, tree.WellFormed → tree'.WellFormed → tree.Reordered tree' →
      ∀ (space : String) (scope : Option String),
        ((ofTree tree space).within scope).declarations styles isRoot =
          ((ofTree tree' space).within scope).declarations styles' isRoot ∧
        ((ofTree tree space).within scope).diagnostics styles isRoot =
          ((ofTree tree' space).within scope).diagnostics styles' isRoot := by
  refine ⟨fun ctx other h hother hsame ↦ ?_, fun tree tree' h h' hsame space scope ↦ ?_⟩
  · exact declarations_eq_of_reordered_contexts h hother hsame hstyles hstyles' hreordered isRoot
  · exact declarations_eq_of_reordered_contexts (wellFormed_ofTree h space scope)
      (wellFormed_ofTree h' space scope) (reordered_ofTree h h' hsame space scope) hstyles hstyles'
      hreordered isRoot

/-- Styles with an unknown preset, and a value that points at the tree. -/
private def linkStyles : Json :=
  .obj [("color", .obj [("text", .str "ref:preset|color|ink"),
      ("background", .obj [("ref", .str "styles.color.background")])]),
    ("shadow", .str "ref:preset|shadow|deep")]

private def linkStylesTurned : Json :=
  .obj [("shadow", .str "ref:preset|shadow|deep"),
    ("color", .obj [("background", .obj [("ref", .str "styles.color.background")]),
      ("text", .str "ref:preset|color|ink")])]

/-- Settings with one colour of the theme. -/
private def paletteOf (item : Json) : Json :=
  .obj [("color", .obj [("palette", .obj [("theme", .arr [item])])])]

private def inkTree : Json :=
  .obj [("settings", paletteOf (.obj [("slug", .str "ink"), ("color", .str "#111")])),
    ("styles", .obj [("color", .obj [("background", .str "white")])])]

private def inkTreeTurned : Json :=
  .obj [("styles", .obj [("color", .obj [("background", .str "white")])]),
    ("settings", paletteOf (.obj [("color", .str "#111"), ("slug", .str "ink")]))]

/-- A link with a colour from the tree, both turned around. -/
theorem declarations_eq_of_reordered_link :
    linkStyles.WellFormed ∧ linkStylesTurned.WellFormed ∧ linkStyles.Reordered linkStylesTurned ∧
      inkTree.WellFormed ∧ inkTreeTurned.WellFormed ∧ inkTree.Reordered inkTreeTurned ∧
      (ofTree inkTreeTurned "wp").declarations linkStylesTurned true =
        (ofTree inkTree "wp").declarations linkStyles true ∧
      (ofTree inkTree "wp").diagnostics linkStyles true =
        [.unresolvedReference "ref:preset|shadow|deep" none] ∧
      (ofTree inkTreeTurned "wp").diagnostics linkStylesTurned true =
        [.unresolvedReference "ref:preset|shadow|deep" none] := by
  have hwell : linkStyles.WellFormed ∧ linkStylesTurned.WellFormed ∧
      inkTree.WellFormed ∧ inkTreeTurned.WellFormed := by
    simp [linkStyles, linkStylesTurned, inkTree, inkTreeTurned, paletteOf, Json.WellFormed,
      Json.FieldsWellFormed, Json.ItemsWellFormed]
  obtain ⟨hstyles, hstyles', htree, htree'⟩ := hwell
  have hcolor : (Json.obj [("text", .str "ref:preset|color|ink"),
        ("background", .obj [("ref", .str "styles.color.background")])]).Reordered
      (.obj [("background", .obj [("ref", .str "styles.color.background")]),
        ("text", .str "ref:preset|color|ink")]) :=
    (reordered_obj_iff (by decide)).2 (.swap _ _ _)
  have hsettings : (paletteOf (.obj [("slug", .str "ink"), ("color", .str "#111")])).Reordered
      (paletteOf (.obj [("color", .str "#111"), ("slug", .str "ink")])) := by
    have hitem : (Json.obj [("slug", .str "ink"), ("color", .str "#111")]).Reordered
        (.obj [("color", .str "#111"), ("slug", .str "ink")]) :=
      (reordered_obj_iff (by decide)).2 (.swap _ _ _)
    simp only [Json.Reordered, paletteOf, Json.inKeyOrder, itemsInKeyOrder, fieldsInKeyOrder]
      at hitem ⊢
    rw [hitem]
  have hsame : linkStyles.Reordered linkStylesTurned := by
    refine (reordered_obj_iff (by decide)).2 ?_
    simp only [List.map_cons, List.map_nil, Prod.map_apply, show _ = _ from hcolor]
    exact .swap _ _ _
  have hsame' : inkTree.Reordered inkTreeTurned := by
    refine (reordered_obj_iff (by decide)).2 ?_
    simp only [List.map_cons, List.map_nil, Prod.map_apply, show _ = _ from hsettings]
    exact .swap _ _ _
  obtain ⟨hdeclarations, hdiagnostics⟩ :=
    (declarations_eq_of_reordered hstyles hstyles' hsame true).2 _ _ htree htree' hsame' "wp" none
  have hreport : (ofTree inkTree "wp").diagnostics linkStyles true =
      [.unresolvedReference "ref:preset|shadow|deep" none] := by decide
  exact ⟨hstyles, hstyles', hsame, htree, htree', hsame', hdeclarations.symm, hreport,
    hdiagnostics.symm.trans hreport⟩

end StyleContext

end GlobalStyles
