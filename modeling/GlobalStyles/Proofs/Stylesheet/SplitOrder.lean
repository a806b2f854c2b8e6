import GlobalStyles.Proofs.Registry.Sameness
import GlobalStyles.Proofs.Reports
import GlobalStyles.Proofs.Stylesheet.Alike
import GlobalStyles.Proofs.Stylesheet.History

/-!
# Registries that compare equal

The order of features and of variations counts when registries are compared, and that of the scopes
does not show in what is compiled. The order of the parts inside a split feature does not count when
registries are compared, but it does show: it is the order in which the parts are taken, and so the
order in which their selectors get their rules.

What is compiled with two registries that compare equal is therefore the same up to the order of
the rules of features, and up to the order of the declarations in these. Everything else of the
bundle is equal, and all of it is if no split feature names its parts in another order
(`compile_of_equal_registries`).
-/

namespace GlobalStyles

/-! ### Nodes -/

namespace VariationParts

/-- Two variations with the same features up to the order of their parts. -/
structure Rearranged (ctx : StyleContext) (a b : VariationParts) : Prop where
  name : a.name = b.name
  selector : a.selector = b.selector
  features : (FeaturePart.gathered ctx a.features).Perm (FeaturePart.gathered ctx b.features)
  own : a.own.Agree b.own

variable {ctx : StyleContext}

/-- Rearranged variations have the same rules, in some order. -/
theorem Rearranged.perm_rules {a b : VariationParts} (h : Rearranged ctx a b) :
    ((a.rules ctx).map Rule.content).Perm ((b.rules ctx).map Rule.content) := by
  rw [rules, rules, h.name, h.selector, (StyleContext.Matches.refl ctx).declarations_eq h.own,
    List.map_append, List.map_append]
  exact (FeaturePart.perm_content_groups h.features .unterminated
    (Selector.withVariation b.name)).append_right _

theorem Rearranged.perm_diagnostics {a b : VariationParts} (h : Rearranged ctx a b) :
    (a.diagnostics ctx).Perm (b.diagnostics ctx) := by
  rw [diagnostics, diagnostics, (StyleContext.Matches.refl ctx).diagnostics_eq h.own]
  exact (FeaturePart.perm_diagnostics h.features).append_right _

/-- Reordered features rearrange a variation. -/
theorem rearranged_ofStyles? (ctx : StyleContext) (node : StyleNode)
    {features : Entries FeatureSelector}
    (hfeatures : FeaturesReordered node.featureSelectors features) {a b : Json} (h : a.Agree b)
    (ha : a.WellFormed) (hb : b.WellFormed) (variation : String × String) :
    List.Forall₂ (Rearranged ctx) (ofStyles? node a variation).toList
      (ofStyles? { node with featureSelectors := features } b variation).toList := by
  rw [ofStyles?, ofStyles?]
  rcases h.get?_cases ["variations", variation.1] with
    ⟨hnone, hnone'⟩ | ⟨v, w, hsome, hsome', hvalue⟩
  · rw [hnone, hnone']
    exact .nil
  · obtain ⟨hparts, hown⟩ := FeaturePart.rearranged_take ctx hfeatures hvalue
      (Json.wellFormed_of_get? ha hsome) (Json.wellFormed_of_get? hb hsome')
    rw [hsome, hsome']
    exact .cons ⟨rfl, rfl, hparts, hown⟩ .nil

end VariationParts

namespace NodeParts

open FeaturePart (gathered)

/-- Two nodes that say the same part by part, up to the order of the parts of features. -/
structure Rearranged (ctx : StyleContext) (a b : NodeParts) : Prop where
  features : (gathered ctx a.features).Perm (gathered ctx b.features)
  variations : List.Forall₂ (VariationParts.Rearranged ctx) a.variations b.variations
  duotone : gathered ctx a.duotoneParts = gathered ctx b.duotoneParts
  own : a.own.Agree b.own
  pseudo : gathered ctx a.pseudoParts = gathered ctx b.pseudoParts

/-- Only styles without pseudo-selectors are sure to keep them in order, having none. -/
theorem rearranged_ofNode (ctx : StyleContext) {node : StyleNode} (hwell : node.styles.WellFormed)
    (hkeys : ∀ key ∈ Entries.keys node.styles.entries, isPseudo key = false)
    {features : Entries FeatureSelector} (h : FeaturesReordered node.featureSelectors features)
    (variationStyles : Bool) :
    Rearranged ctx (ofNode node variationStyles)
      (ofNode { node with featureSelectors := features } variationStyles) := by
  obtain ⟨hparts, hleft⟩ := FeaturePart.rearranged_take ctx h (.refl node.styles) hwell hwell
  have hwellLeft := FeaturePart.wellFormed_take node.featureSelectors hwell
  have hwellLeft' := FeaturePart.wellFormed_take features hwell
  obtain ⟨hduotone, hown⟩ :=
    takeDuotone_alike (.refl ctx) node.duotoneSelector hleft hwellLeft hwellLeft'
  refine ⟨hparts, ?_, hduotone, hown, ?_⟩
  · simp only [ofNode]
    split
    · rw [List.filterMap_eq_flatMap_toList, List.filterMap_eq_flatMap_toList]
      exact forall₂_flatMap
        (VariationParts.rearranged_ofStyles? ctx node h hleft hwellLeft hwellLeft') _
    · exact .nil
  · have hnone := pseudo_eq_nil hkeys variationStyles
    have hnone' :=
      @pseudo_eq_nil { node with featureSelectors := features } hkeys variationStyles
    rw [pseudoParts, pseudoParts, hnone, hnone']

end NodeParts

namespace StyleNode

section

variable {ctx : StyleContext} {node other : StyleNode} {variationStyles : Bool}
  (h : NodeParts.Rearranged ctx (.ofNode node variationStyles) (.ofNode other variationStyles))
  (hroot : node.isRoot = other.isRoot)
include h hroot

/-- A node whose parts were rearranged has the same rules, in some order. -/
theorem perm_rules_of_rearranged (hselector : node.selector = other.selector)
    (layout : List Rule) :
    ((node.rules ctx variationStyles layout).map Rule.content).Perm
      ((other.rules ctx variationStyles layout).map Rule.content) := by
  have hduotone := FeaturePart.flatMap_make_congr (.refl ctx) h.duotone .terminated id
  have hpseudo := FeaturePart.flatMap_make_congr (.refl ctx) h.pseudo .terminated
    (Selector.append other.selector)
  simp only [NodeParts.duotoneParts, NodeParts.pseudoParts, List.flatMap_map, id]
    at hduotone hpseudo
  simp only [rules, hselector, hroot, (StyleContext.Matches.refl ctx).declarations_eq h.own,
    hduotone, hpseudo, List.map_append]
  have hfeatures := FeaturePart.perm_content_groups h.features .unterminated id
  have hvariations := perm_flatMap_of_forall₂ (fun _ _ h ↦ h.perm_rules) h.variations
  rw [← List.map_flatMap, ← List.map_flatMap] at hvariations
  exact ((((hfeatures.append hvariations).append_right _).append_right _).append_right
    _).append_right _

theorem perm_styleDiagnostics_of_rearranged :
    (node.styleDiagnostics ctx variationStyles).Perm
      (other.styleDiagnostics ctx variationStyles) := by
  have hduotone := FeaturePart.diagnostics_congr (.refl ctx) h.duotone
  have hpseudo := FeaturePart.diagnostics_congr (.refl ctx) h.pseudo
  simp only [FeaturePart.diagnostics, NodeParts.duotoneParts, NodeParts.pseudoParts,
    List.flatMap_map] at hduotone hpseudo
  simp only [styleDiagnostics, hroot, (StyleContext.Matches.refl ctx).diagnostics_eq h.own,
    hduotone, hpseudo]
  have hfeatures := FeaturePart.perm_diagnostics h.features
  have hvariations := perm_flatMap_of_forall₂ (fun _ _ h ↦ h.perm_diagnostics) h.variations
  exact (((hfeatures.append hvariations).append_right _).append_right _).append_right _

end

/-- Two nodes that differ at most in the order of the parts of their features. Features are only
taken out of well-formed styles without pseudo-selectors. -/
inductive Reordered : StyleNode → StyleNode → Prop
  | same (node : StyleNode) : Reordered node node
  | features {node : StyleNode} {features : Entries FeatureSelector}
    (hwell : node.styles.WellFormed)
    (hkeys : ∀ key ∈ Entries.keys node.styles.entries, NodeParts.isPseudo key = false)
    (h : FeaturesReordered node.featureSelectors features) :
    Reordered node { node with featureSelectors := features }

/-- The rules of reordered nodes within one tree. -/
theorem Reordered.perm_nodeRules {node other : StyleNode} (h : node.Reordered other) (tree : Json)
    (options : CompileOptions) :
    ((Stylesheet.nodeRules tree options node).map Rule.content).Perm
      ((Stylesheet.nodeRules tree options other).map Rule.content) := by
  cases h with
  | same => exact .refl _
  | features hwell hkeys h =>
    exact perm_rules_of_rearranged (NodeParts.rearranged_ofNode _ hwell hkeys h _) rfl rfl _

/-- The problems met in reordered nodes. -/
theorem Reordered.perm_nodeDiagnostics {node other : StyleNode} (h : node.Reordered other)
    (tree : Json) (options : CompileOptions) :
    (Stylesheet.nodeDiagnostics tree options node).Perm
      (Stylesheet.nodeDiagnostics tree options other) := by
  cases h with
  | same => exact .refl _
  | features hwell hkeys h =>
    exact perm_styleDiagnostics_of_rearranged (NodeParts.rearranged_ofNode _ hwell hkeys h _) rfl

end StyleNode

/-! ### What is compiled -/

section

variable {a b : Registry} (h : a.Reordered b)
include h

/-- Reordered registries give a block reordered nodes, one for one. -/
theorem StyleNode.forall₂_ofBlock (skipFilters : Bool) {member : String × Json}
    (hwell : member.2.WellFormed) :
    List.Forall₂ Reordered (ofBlock a skipFilters member) (ofBlock b skipFilters member) := by
  rw [ofBlock, ofBlock]
  rcases h member.1 with ⟨hnone, hnone'⟩ | ⟨entry, features, hentry, hfeatures, hother⟩
  · rw [hnone, hnone']
    exact .nil
  · rw [hentry, hother]
    refine List.rel_append ?_ (List.forall₂_same.2 fun node _ ↦ .same node)
    rw [block?, block?]
    simp only
    split
    · exact .nil
    · refine .cons (.features (wellFormed_pick _ skipFilters hwell) ?_ hfeatures) .nil
      intro key hkey
      exact NodeParts.isPseudo_of_mem_pickedKeys (keys_pick_subset _ skipFilters _ hkey)

theorem StyleNode.forall₂_all (skipFilters : Bool) {tree : Json} (htree : tree.WellFormed) :
    List.Forall₂ Reordered (all tree a skipFilters) (all tree b skipFilters) := by
  have hblocks : ∀ member ∈ blocks tree, member.2.WellFormed := by
    rw [blocks_eq_entries]
    exact (Json.fieldsWellFormed_iff _).1
      (Json.fieldsWellFormed_entries (Json.wellFormed_child (wellFormed_branch htree) "blocks"))
  refine List.rel_append (List.forall₂_same.2 fun node _ ↦ .same node) ?_
  exact forall₂_flatMap_of_mem fun member hmember ↦
    forall₂_ofBlock h skipFilters (hblocks member hmember)

/-- Settings nodes ask the registry for selectors only. -/
theorem SettingsNode.all_of_reordered (tree : Json) : all tree a = all tree b := by
  have hblock : ofBlock? a = ofBlock? b := by
    funext member
    rw [ofBlock?, ofBlock?]
    rcases h member.1 with ⟨hnone, hnone'⟩ | ⟨entry, features, hentry, -, hother⟩
    · rw [hnone, hnone']
    · rw [hentry, hother]
      rfl
  rw [all, all, hblock]

theorem Stylesheet.customCss_of_reordered (tree : Json) : customCss tree a = customCss tree b := by
  have hblock : blockCss a = blockCss b := by
    funext member
    rw [blockCss, blockCss]
    rcases h member.1 with ⟨hnone, hnone'⟩ | ⟨entry, features, hentry, -, hother⟩
    · rw [hnone, hnone']
    · rw [hentry, hother]
      cases (member.2.get? ["css"]).bind Json.text? <;> rfl
  rw [customCss, customCss, hblock]

/-- Reordered registries know the same scopes. -/
theorem unregistered_of_reordered (scopes : List String) :
    unregistered a scopes = unregistered b scopes := by
  have hnone : (fun scope ↦ (Entries.get? a scope).isNone) =
      fun scope ↦ (Entries.get? b scope).isNone := by
    funext scope
    rcases h scope with ⟨hnone, hnone'⟩ | ⟨entry, features, hentry, -, hother⟩
    · rw [hnone, hnone']
    · rw [hentry, hother]
      rfl
  rw [unregistered, unregistered, hnone]

/-- **Reordered registries give the same rules**, in some order. -/
theorem Stylesheet.perm_styles_of_reordered {tree : Json} (htree : tree.WellFormed)
    (options : CompileOptions) :
    ((styles tree a options).map Rule.content).Perm ((styles tree b options).map Rule.content) := by
  have hnodes := perm_flatMap_of_forall₂ (fun _ _ hnode ↦ hnode.perm_nodeRules tree options)
    (StyleNode.forall₂_all h options.skipFilters htree)
  rw [← List.map_flatMap, ← List.map_flatMap] at hnodes
  simp only [styles, SettingsNode.all_of_reordered h, List.map_append]
  exact (((hnodes.append_left _).append_right _).append_right _).append_right _

theorem Stylesheet.perm_reports_of_reordered {tree : Json} (htree : tree.WellFormed)
    (options : CompileOptions) : (reports tree a options).Perm (reports tree b options) := by
  rw [reports, reports, StyleNode.diagnostics, StyleNode.diagnostics, SettingsNode.diagnostics,
    SettingsNode.diagnostics, unregistered_of_reordered h, unregistered_of_reordered h]
  exact (perm_flatMap_of_forall₂ (fun _ _ hnode ↦ hnode.perm_nodeDiagnostics tree options)
    (StyleNode.forall₂_all h options.skipFilters htree)).append_left _

end

/-- The same problems, reported in another order, are kept in another order. -/
theorem Diagnostics.perm_toList_ofReports {reports others : List Diagnostic}
    (h : reports.Perm others) : (ofReports reports).toList.Perm (ofReports others).toList := by
  refine (List.perm_ext_iff_of_nodup (nodup_toList_ofReports _) (nodup_toList_ofReports _)).2 ?_
  intro diagnostic
  rw [mem_toList_ofReports_iff, mem_toList_ofReports_iff, h.mem_iff]

/-- **What registries that compare equal compile to.** For well-formed trees and registries: the
custom properties, the author's CSS and the filters are equal; the styles are the same up to the
order of rules and of the declarations in each, and the diagnostics up to their order; and the whole
bundles are equal if the split features name their parts in the same order. -/
theorem compile_of_equal_registries {a b : Registry} (ha : a.WellFormed) (h : a.same b = true)
    {tree : Json} (htree : tree.WellFormed) (options : CompileOptions) :
    (compile tree a options).customProperties = (compile tree b options).customProperties ∧
      (compile tree a options).customCss = (compile tree b options).customCss ∧
      (compile tree a options).filters = (compile tree b options).filters ∧
      ((compile tree a options).styles.map Rule.content).Perm
        ((compile tree b options).styles.map Rule.content) ∧
      (compile tree a options).diagnostics.Perm (compile tree b options).diagnostics ∧
      (a.SplitsInOrder b → compile tree a options = compile tree b options) := by
  have hreordered := Registry.reordered_of_same ha h
  have hfilled := Stylesheet.wellFormed_withSeparatorColors htree
  refine ⟨?_, ?_, rfl, ?_, ?_, fun hsplits ↦ ?_⟩
  · simp only [compile, SettingsNode.all_of_reordered hreordered]
  · simp only [compile, Stylesheet.customCss_of_reordered hreordered]
  · exact Stylesheet.perm_styles_of_reordered hreordered hfilled options
  · exact Diagnostics.perm_toList_ofReports
      (Stylesheet.perm_reports_of_reordered hreordered hfilled options)
  · exact compile_congr_registry (hreordered.get?_eq hsplits) tree options

/-- An image whose border is split. -/
def imageWith (parts : Entries String) : String × BlockSelectors :=
  ("image",
    { BlockSelectors.ofSelector ".i" with featureSelectors := [("border", .split parts)] })

/-- The colour of the border goes to one selector and the width to another. -/
def colorFirst : Registry :=
  [imageWith [("color", ".a"), ("width", ".b")]]

/-- The same with the parts named the other way round. -/
def widthFirst : Registry :=
  [imageWith [("width", ".b"), ("color", ".a")]]

/-- A button beside the image. -/
def button : Registry :=
  [("button", .ofSelector ".button")]

/-- An image with a border. -/
def treeWithImage : Json :=
  .obj [("styles", .obj [("blocks", .obj [("image", .obj [("border", .obj
    [("color", .str "red"), ("width", .str "1px")])])])])]

/-- An image with two features in either order, beside a button in either place. -/
theorem compile_of_equal_registries_image :
    colorFirst.WellFormed ∧ colorFirst.same widthFirst = true ∧ treeWithImage.WellFormed ∧
      ((compile treeWithImage colorFirst .standard).styles.map Rule.content).Perm
        ((compile treeWithImage widthFirst .standard).styles.map Rule.content) ∧
      compile treeWithImage (colorFirst ++ button) .standard =
        compile treeWithImage (button ++ colorFirst) .standard := by
  have himage : (imageWith [("color", ".a"), ("width", ".b")]).2.WellFormed := by
    intro feature selectors hmem
    cases List.mem_singleton.1 hmem
    decide
  have hwell : colorFirst.WellFormed := by
    refine ⟨by decide, fun scope entry hget ↦ ?_⟩
    cases List.mem_singleton.1 (Entries.mem_of_get? hget)
    exact himage
  have hboth : (colorFirst ++ button).WellFormed := by
    refine ⟨by decide, fun scope entry hget ↦ ?_⟩
    rcases List.mem_pair.1 (Entries.mem_of_get? hget) with hscope | hscope
    · cases hscope
      exact himage
    · cases hscope
      exact fun _ _ hmem ↦ nomatch hmem
  have hsame : colorFirst.same widthFirst = true := by decide
  have hswapped : (colorFirst ++ button).same (button ++ colorFirst) = true := by decide
  have htree : treeWithImage.WellFormed := by
    simp [treeWithImage, Json.WellFormed, Json.FieldsWellFormed]
  obtain ⟨-, -, -, hstyles, -⟩ := compile_of_equal_registries hwell hsame htree .standard
  obtain ⟨-, -, -, -, -, hbundle⟩ := compile_of_equal_registries hboth hswapped htree .standard
  refine ⟨hwell, hsame, htree, hstyles, hbundle fun scope entry other hentry hother ↦ ?_⟩
  rw [Entries.get?_perm List.perm_append_comm hboth.nodup_keys scope, hother] at hentry
  rw [Option.some.inj hentry]

/-- **Registries that compare equal need not compile equally.** The rules of the two parts of a
border come in the order in which the registry names the parts. -/
theorem compile_ne_of_swapped_parts :
    colorFirst.same widthFirst = true ∧
      compile treeWithImage colorFirst .standard ≠ compile treeWithImage widthFirst .standard := by
  refine ⟨by decide, fun h ↦ ?_⟩
  have hselectors := congrArg (fun bundle ↦
    (bundle.styles.filter fun rule ↦ rule.shape = .unterminated).map Rule.selector) h
  have hfirst : ((compile treeWithImage colorFirst .standard).styles.filter
      fun rule ↦ rule.shape = .unterminated).map Rule.selector = [".a", ".b"] := by
    decide +kernel
  have hsecond : ((compile treeWithImage widthFirst .standard).styles.filter
      fun rule ↦ rule.shape = .unterminated).map Rule.selector = [".b", ".a"] := by
    decide +kernel
  rw [hfirst, hsecond] at hselectors
  revert hselectors
  decide

end GlobalStyles
