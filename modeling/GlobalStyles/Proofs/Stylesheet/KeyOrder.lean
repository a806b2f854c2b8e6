import GlobalStyles.Proofs.Preset.KeyOrder
import GlobalStyles.Proofs.Stylesheet.SplitOrder

/-!
# What reordered trees compile to

The order of keys is the order in which blocks, the elements of blocks, pseudo-selectors, layout
kinds and custom values are walked through. It decides nothing else, so a tree compiles to the same
rules, texts, filters and reports whatever the order of its keys; only the order of these is another
one (`compile_of_reordered`).

Contexts of reordered trees declare and report the same (`StyleContext.Reordered.declarations_eq`),
so that the two sides of the question come apart: the same nodes in another tree, and other nodes in
the same tree.
-/

namespace GlobalStyles

open Json

/-! ### The same nodes in another tree -/

namespace StyleNode

variable {ctx other : StyleContext} (node : StyleNode) (variationStyles : Bool)

/-- The rules of a node see a context through its declarations only. -/
theorem rules_eq_of_declarations (h : ctx.declarations = other.declarations)
    (layout : List Rule) :
    node.rules ctx variationStyles layout = node.rules other variationStyles layout := by
  have hgroups : FeaturePart.groups ctx = FeaturePart.groups other := by
    funext parts
    rw [FeaturePart.groups, FeaturePart.groups, h]
  have hvariations : VariationParts.rules ctx = VariationParts.rules other := by
    funext parts
    rw [VariationParts.rules, VariationParts.rules, hgroups, h]
  rw [rules, rules, hgroups, hvariations, h]

/-- The problems met in a node see a context through its diagnostics only. -/
theorem styleDiagnostics_eq_of_diagnostics (h : ctx.diagnostics = other.diagnostics) :
    node.styleDiagnostics ctx variationStyles = node.styleDiagnostics other variationStyles := by
  have hfeatures : FeaturePart.diagnostics ctx = FeaturePart.diagnostics other := by
    funext parts
    rw [FeaturePart.diagnostics, FeaturePart.diagnostics, h]
  have hvariations : VariationParts.diagnostics ctx = VariationParts.diagnostics other := by
    funext parts
    rw [VariationParts.diagnostics, VariationParts.diagnostics, hfeatures, h]
  rw [styleDiagnostics, styleDiagnostics, hfeatures, hvariations, h]

/-- Layout rules in another order are rules of the node in another order. -/
theorem perm_content_rules (ctx : StyleContext) {layout others : List Rule}
    (h : (layout.map Rule.content).Perm (others.map Rule.content)) :
    ((node.rules ctx variationStyles layout).map Rule.content).Perm
      ((node.rules ctx variationStyles others).map Rule.content) := by
  simp only [rules, List.map_append]
  exact ((h.append_left _).append_right _).append_right _

end StyleNode

namespace Stylesheet

section

variable {a b : Json} (h : a.Reordered b) (ha : a.WellFormed) (hb : b.WellFormed)
include h ha hb

/-- Whether block gaps are supported is one look-up. -/
theorem supportsBlockGap_of_reordered (options : CompileOptions) :
    supportsBlockGap a options = supportsBlockGap b options := by
  have hfind : ((a.find? ["settings", "spacing", "blockGap"]).map inKeyOrder) =
      (b.find? ["settings", "spacing", "blockGap"]).map inKeyOrder := by
    rw [← find?_inKeyOrder ha, ← find?_inKeyOrder hb, h.inKeyOrder_eq]
  -- only whether a `null` stands there is looked at
  have hsupport (tree : Json) : supportsBlockGap tree options = options.blockGap.getD
      !((tree.find? ["settings", "spacing", "blockGap"]).map inKeyOrder).any isNull := by
    rw [supportsBlockGap]
    rcases tree.find? ["settings", "spacing", "blockGap"] with _ | value
    · rfl
    · cases value <;> rfl
  rw [hsupport, hsupport, hfind]

/-- The reset reads single members of the settings. -/
theorem reset_of_reordered (space : String) (paddingAlign : Bool) :
    reset a space paddingAlign = reset b space paddingAlign := by
  have hagree := h.agree ha hb
  have hsize (key : String) : (a.get? ["layout", key]).bind Json.css? =
      (b.get? ["layout", key]).bind Json.css? :=
    hagree.bind_get?_eq _ fun _ _ hvalue ↦ hvalue.css?_eq
  simp only [reset, globalSizes, hsize]

/-- A gap is written row before column, however its members are ordered. -/
theorem gapRules_of_reordered (options : CompileOptions) :
    gapRules a options = gapRules b options := by
  rw [gapRules, gapRules, supportsBlockGap_of_reordered h ha hb,
    (h.agree ha hb).bind_get?_eq ["styles", "spacing", "blockGap"]
      fun _ _ hvalue ↦ GapSupport.css?_congr hvalue options.space]

/-- Reordered trees are contexts that declare and report the same. -/
theorem contexts_of_reordered (space : String) (scope : Option String) :
    ((StyleContext.ofTree a space).within scope).declarations =
        ((StyleContext.ofTree b space).within scope).declarations ∧
      ((StyleContext.ofTree a space).within scope).diagnostics =
        ((StyleContext.ofTree b space).within scope).diagnostics :=
  (StyleContext.reordered_ofTree ha hb h space scope).declarations_eq
    (StyleContext.wellFormed_ofTree ha space scope) (StyleContext.wellFormed_ofTree hb space scope)

/-- A node has the same rules in a reordered tree, in some order. -/
theorem perm_content_nodeRules (options : CompileOptions) (node : StyleNode) :
    ((nodeRules a options node).map Rule.content).Perm
      ((nodeRules b options node).map Rule.content) := by
  simp only [nodeRules]
  rw [node.rules_eq_of_declarations options.variationStyles
    (contexts_of_reordered h ha hb options.space node.place.scope?).1]
  refine node.perm_content_rules options.variationStyles _ ?_
  split
  · exact .nil
  · rw [supportsBlockGap_of_reordered h ha hb]
    exact node.perm_content_layoutRules _ _ (LayoutKind.perm_all h ha hb)

/-- A node meets the same problems within either tree. -/
theorem nodeDiagnostics_of_reordered (options : CompileOptions) (node : StyleNode) :
    nodeDiagnostics a options node = nodeDiagnostics b options node :=
  node.styleDiagnostics_eq_of_diagnostics options.variationStyles
    (contexts_of_reordered h ha hb options.space node.place.scope?).2

end

/-! ### Other nodes in the same tree -/

theorem TreesAlike.refl {tree : Json} (h : tree.WellFormed) : TreesAlike tree tree where
  settings := rfl
  agree := .refl tree
  branches :=
    { agree := .refl _
      wellFormed := StyleNode.wellFormed_branch h
      wellFormed' := StyleNode.wellFormed_branch h
      blocks := rfl
      element _ := rfl
      blockElements _ := rfl
      blockElement _ _ := rfl }

section

variable {tree : Json} (htree : tree.WellFormed) (options : CompileOptions)
include htree

/-- The rules of a node do not see the order of keys, but for their own order. -/
theorem orderBlind_nodeRules :
    StyleNode.OrderBlind fun node ↦ (nodeRules tree options node).map Rule.content where
  picked node a b hab ha hb hkeys hkeys' := by
    rw [((TreesAlike.refl htree).readAlike_nodeRules options).picked node hab ha hb hkeys hkeys']
  plain {place} selector a b hplace hab ha hb := by
    simp only [nodeRules, StyleNode.layoutRules_plain hplace, ite_self,
      StyleNode.rules_plain hplace, List.map_append, List.map_flatMap]
    have hdeclarations {v w : Json} (hvalue : v.Reordered w) (hv : v.WellFormed)
        (hw : w.WellFormed) := (StyleContext.Matches.refl ((StyleContext.ofTree tree
          options.space).within place.scope?)).declarations_eq (hvalue.agree hv hw) false
    refine .append (.of_eq ?_) ?_
    · exact congrArg _ (congrArg _ (hdeclarations hab ha hb))
    · refine hab.perm_flatMap_filter ha hb NodeParts.isPseudo fun key v w hvalue hv hw ↦ ?_
      exact .of_eq (congrArg _ (congrArg _ (hdeclarations hvalue hv hw)))

theorem orderBlind_nodeDiagnostics : StyleNode.OrderBlind (nodeDiagnostics tree options) where
  picked := ((TreesAlike.refl htree).readAlike_nodeDiagnostics options).picked
  plain {place} selector a b hplace hab ha hb := by
    simp only [nodeDiagnostics, StyleNode.styleDiagnostics_plain hplace]
    have hdiagnostics {v w : Json} (hvalue : v.Reordered w) (hv : v.WellFormed)
        (hw : w.WellFormed) := (StyleContext.Matches.refl ((StyleContext.ofTree tree
          options.space).within place.scope?)).diagnostics_eq (hvalue.agree hv hw) false
    refine .append (.of_eq (hdiagnostics hab ha hb)) ?_
    refine hab.perm_flatMap_filter ha hb NodeParts.isPseudo fun key v w hvalue hv hw ↦ ?_
    exact .of_eq (hdiagnostics hvalue hv hw)

end

/-! ### Parts of the bundle -/

/-- The author's text for all blocks together. -/
def globalCss (tree : Json) : String :=
  ((tree.get? ["styles", "css"]).bind Json.text?).getD ""

/-- The author's texts for the blocks, in order. -/
def blockTexts (tree : Json) (registry : Registry) : List String :=
  (StyleNode.blocks tree).map (blockCss registry)

section

variable {a b : Json} (h : a.Reordered b) (ha : a.WellFormed) (hb : b.WellFormed)
  (registry : Registry) (options : CompileOptions)
include h ha hb

/-- **The styles of reordered trees are the same rules**, in some order. -/
theorem perm_content_styles :
    ((styles a registry options).map Rule.content).Perm
      ((styles b registry options).map Rule.content) := by
  have hsettings := reordered_settings h ha hb
  have hreset := reset_of_reordered hsettings (SettingsNode.wellFormed_settings ha)
    (SettingsNode.wellFormed_settings hb) options.space
  have hcontexts : _ = _ := StyleContext.reordered_ofTree ha hb h options.space none
  have halign : (StyleContext.ofTree a options.space).paddingAlign =
      (StyleContext.ofTree b options.space).paddingAlign :=
    (congrArg StyleContext.paddingAlign hcontexts :)
  have hnodes : ((((StyleNode.all a registry options.skipFilters).flatMap
        (nodeRules a options)).map Rule.content)).Perm
      (((StyleNode.all b registry options.skipFilters).flatMap
        (nodeRules b options)).map Rule.content) := by
    rw [List.map_flatMap, List.map_flatMap]
    refine (List.Perm.flatMap_left _ fun node _ ↦ perm_content_nodeRules h ha hb options node).trans
      ?_
    exact StyleNode.perm_flatMap_all h ha hb (orderBlind_nodeRules hb options)
      options.skipFilters registry
  have hclasses := (SettingsNode.perm_utilityClasses h ha hb registry options.space).map
    Rule.content
  simp only [styles, List.map_append, hreset, halign, gapRules_of_reordered h ha hb]
  exact (((hnodes.append_left _).append_right _).append_right _).append hclasses

/-- The reports are the same, in some order. -/
theorem perm_reports : (reports a registry options).Perm (reports b registry options) := by
  rw [reports, reports]
  refine .append (.append (StyleNode.perm_diagnostics h ha hb registry)
    (SettingsNode.perm_diagnostics h ha hb registry)) ?_
  rw [show nodeDiagnostics a options = nodeDiagnostics b options from
    funext fun node ↦ nodeDiagnostics_of_reordered h ha hb options node]
  exact StyleNode.perm_flatMap_all h ha hb (orderBlind_nodeDiagnostics hb options)
    options.skipFilters registry

theorem globalCss_of_reordered : globalCss a = globalCss b := by
  rw [globalCss, globalCss, (h.agree ha hb).bind_get?_eq ["styles", "css"]
    fun _ _ hvalue ↦ hvalue.text?_eq]

/-- The author's CSS of blocks is the same texts, in some order. -/
theorem perm_blockTexts : (blockTexts a registry).Perm (blockTexts b registry) := by
  have hblocks := StyleNode.reordered_blocks h ha hb
  rw [blockTexts, blockTexts, List.map_eq_flatMap, List.map_eq_flatMap,
    StyleNode.blocks_eq_entries, StyleNode.blocks_eq_entries]
  refine hblocks.perm_flatMap_entries (wellFormed_child (StyleNode.wellFormed_branch ha) _)
    (wellFormed_child (StyleNode.wellFormed_branch hb) _) fun scope v w hvalue hv hw ↦ ?_
  rw [blockCss, blockCss, (hvalue.agree hv hw).bind_get?_eq ["css"]
    fun _ _ hinner ↦ hinner.text?_eq]

/-! ### The tree that is compiled -/

theorem reordered_withSeparatorColors :
    (withSeparatorColors a).Reordered (withSeparatorColors b) := by
  have hcolor (keys : List String) :
      (separatorColor? a keys).map inKeyOrder = (separatorColor? b keys).map inKeyOrder := by
    rw [separatorColor?, separatorColor?]
    rcases h.get?_cases ha hb (["styles", "blocks", separatorScope] ++ keys) with
      ⟨hnone, hnone'⟩ | ⟨v, w, hv, hw, hvalue, hwv, hww⟩
    · rw [hnone, hnone']
    · rw [hv, hw, Option.filter_some, Option.filter_some, (hvalue.agree hwv hww).isTruthy_eq]
      split
      · exact congrArg some hvalue
      · rfl
  have hsome (keys : List String) :
      (separatorColor? a keys).isSome = (separatorColor? b keys).isSome := by
    rw [← Option.isSome_map, hcolor, Option.isSome_map]
  have hline : (separatorLine? a).map inKeyOrder = (separatorLine? b).map inKeyOrder := by
    rw [separatorLine?, separatorLine?, hsome, hsome]
    split
    · rfl
    · exact hcolor _
  rw [withSeparatorColors_eq, withSeparatorColors_eq]
  rcases hv : separatorLine? a with _ | v <;> rcases hw : separatorLine? b with _ | w <;>
    rw [hv, hw] at hline
  · exact h
  · cases hline
  · cases hline
  · exact h.set ha hb (Option.some.inj hline) _

end

end Stylesheet

/-- Two bundles that are the same up to the order of their rules, of the declarations in each, of
the author's texts for blocks, of the filters and of the reports. -/
structure Bundle.SameUpToOrder (a b : Bundle) : Prop where
  customProperties : (a.customProperties.map Rule.content).Perm
    (b.customProperties.map Rule.content)
  styles : (a.styles.map Rule.content).Perm (b.styles.map Rule.content)
  customCss : ∃ (all : String) (texts others : List String), texts.Perm others ∧
    a.customCss = all ++ String.join texts ∧ b.customCss = all ++ String.join others
  filters : a.filters.Perm b.filters
  diagnostics : a.diagnostics.Perm b.diagnostics

/-- **Reordered trees compile to the same**, up to order. -/
theorem compile_of_reordered {a b : Json} (h : a.Reordered b) (ha : a.WellFormed)
    (hb : b.WellFormed) (registry : Registry) (options : CompileOptions) :
    (compile a registry options).SameUpToOrder (compile b registry options) := by
  have hfilled := Stylesheet.reordered_withSeparatorColors h ha hb
  have hwell := Stylesheet.wellFormed_withSeparatorColors ha
  have hwell' := Stylesheet.wellFormed_withSeparatorColors hb
  exact
    { customProperties :=
        SettingsNode.perm_content_customProperties hfilled hwell hwell' registry options.space
      styles := Stylesheet.perm_content_styles hfilled hwell hwell' registry options
      customCss := ⟨Stylesheet.globalCss (Stylesheet.withSeparatorColors b), _, _,
        Stylesheet.perm_blockTexts hfilled hwell hwell' registry, by
          rw [← Stylesheet.globalCss_of_reordered hfilled hwell hwell']
          rfl, rfl⟩
      filters := DuotoneFilter.perm_collect (Stylesheet.reordered_settings hfilled hwell hwell')
        (SettingsNode.wellFormed_settings hwell) (SettingsNode.wellFormed_settings hwell')
        options.space
      diagnostics := Diagnostics.perm_toList_ofReports
        (Stylesheet.perm_reports hfilled hwell hwell' registry options) }

end GlobalStyles
