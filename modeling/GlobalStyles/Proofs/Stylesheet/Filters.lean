import GlobalStyles.Proofs.Style.Filter
import GlobalStyles.Proofs.Stylesheet.Pseudo
import GlobalStyles.Proofs.Stylesheet.Written

/-!
# Filters while they are skipped

To skip filters, the member `filter` is left out of the styles of every node
(`StyleNode.filter_notMem_keys`). So there is none for a feature to take, none for the selector that
filters go to, and none in the node's own styles (`StyleNode.not_declareFilter_directRules`). What
hangs further down keeps its own: the styles under a pseudo-selector and those of a block style
variation (`StyleNode.declareFilter_rules_iff`). And a layout definition may name the property
itself, as it may name any other. These are all the filters that are left
(`Stylesheet.declareFilter_compile_iff`).
-/

namespace GlobalStyles

open Json Stylesheet NodeParts

/-! ### Rules that declare a filter -/

namespace Rule

/-- The properties that a rule declares. -/
def properties (rule : Rule) : List String :=
  rule.declarations.map Declaration.property

/-- Some of the rules declares a filter. -/
def DeclareFilter (rules : List Rule) : Prop :=
  ∃ rule ∈ rules, "filter" ∈ rule.properties

@[simp] theorem declareFilter_nil : ¬DeclareFilter [] := by
  simp [DeclareFilter]

@[simp] theorem declareFilter_append (a b : List Rule) :
    DeclareFilter (a ++ b) ↔ DeclareFilter a ∨ DeclareFilter b := by
  simp only [DeclareFilter, List.mem_append, or_and_right, exists_or]

@[simp] theorem declareFilter_flatMap {α : Type} (items : List α) (rules : α → List Rule) :
    DeclareFilter (items.flatMap rules) ↔ ∃ item ∈ items, DeclareFilter (rules item) := by
  simp only [DeclareFilter, List.mem_flatMap]
  constructor
  · rintro ⟨rule, ⟨item, hitem, hrule⟩, hfilter⟩
    exact ⟨item, hitem, rule, hrule, hfilter⟩
  · rintro ⟨item, hitem, rule, hrule, hfilter⟩
    exact ⟨rule, ⟨item, hitem, hrule⟩, hfilter⟩

@[simp] theorem declareFilter_make (shape : RuleShape) (selector : String)
    (declarations : List Declaration) :
    DeclareFilter (make shape selector declarations) ↔
      "filter" ∈ declarations.map Declaration.property := by
  simp only [DeclareFilter, mem_make_iff]
  constructor
  · rintro ⟨rule, ⟨-, rfl⟩, hfilter⟩
    exact hfilter
  · intro hfilter
    have hne : declarations ≠ [] := by
      rintro rfl
      cases hfilter
    exact ⟨_, ⟨hne, rfl⟩, hfilter⟩

/-- Styles declare a filter exactly when they have one. -/
@[simp] theorem declareFilter_make_declarations (shape : RuleShape) (selector : String)
    (ctx : StyleContext) (styles : Json) (isRoot : Bool) :
    DeclareFilter (make shape selector (ctx.declarations styles isRoot)) ↔
      (ctx.filter? styles).isSome := by
  rw [declareFilter_make, ← ctx.mem_map_property_written_iff styles isRoot,
    StyleContext.declarations, List.map_map]
  rfl

/-- Compiling an entry keeps its property. -/
theorem declareFilter_map_compile (ctx : StyleContext) (rules : List WrittenRule) :
    DeclareFilter (rules.map (WrittenRule.compile ctx)) ↔
      "filter" ∈ (rules.flatMap WrittenRule.entries).map Written.property := by
  have hproperties (rule : WrittenRule) :
      (rule.compile ctx).properties = rule.entries.map Written.property := by
    rw [properties, WrittenRule.compile, List.map_map]
    rfl
  simp only [DeclareFilter, List.mem_map, exists_exists_and_eq_and, hproperties, List.map_flatMap,
    List.mem_flatMap]

end Rule

/-! ### Around the nodes -/

namespace Stylesheet

open Rule (DeclareFilter)

theorem map_property_fixed (declarations : List (String × String)) :
    (fixed declarations).map Declaration.property = declarations.map Prod.fst := by
  rw [fixed, List.map_map]
  rfl

/-- The global sizes are custom properties. -/
theorem filter_notMem_globalSizes (settings : Json) (space : String) :
    "filter" ∉ (globalSizes settings space).map Declaration.property := by
  intro hmem
  obtain ⟨declaration, hdeclaration, hname⟩ := List.mem_map.1 hmem
  obtain ⟨size, -, hsome⟩ := List.mem_filterMap.1 hdeclaration
  obtain ⟨css, -, rfl⟩ := Option.map_eq_some_iff.1 hsome
  have hhead := congrArg (fun name : String ↦ name.toList.head?) hname
  simp at hhead

theorem not_declareFilter_reset (settings : Json) (space : String) (paddingAlign : Bool) :
    ¬DeclareFilter (reset settings space paddingAlign) := by
  have hsizes := filter_notMem_globalSizes settings space
  have hpaddings : ¬DeclareFilter (paddingAlignments space) := by
    simp [paddingAlignments, map_property_fixed]
  rw [reset]
  split
  · simp [map_property_fixed, hsizes, hpaddings, rootPaddings]
  · simp [map_property_fixed, hsizes]

theorem not_declareFilter_alignments : ¬DeclareFilter alignments := by
  simp [alignments, map_property_fixed]

theorem not_declareFilter_gapRules (tree : Json) (options : CompileOptions) :
    ¬DeclareFilter (gapRules tree options) := by
  rw [gapRules]
  split
  · simp [gapMargins, map_property_fixed]
  · exact Rule.declareFilter_nil

/-- No utility class is about a filter. -/
theorem not_declareFilter_utilityClasses (node : SettingsNode) (space : String) :
    ¬DeclareFilter (node.utilityClasses space) := by
  have hclasses (category : PresetCategory) :
      ∀ utility ∈ category.classes, utility.property ≠ "filter" := by
    cases category <;> decide
  rw [SettingsNode.utilityClasses, Preset.utilityClasses]
  simp only [Rule.declareFilter_flatMap, Preset.utilityRules, Rule.declareFilter_make]
  rintro ⟨category, -, origin, -, slug, -, utility, hutility, hproperty⟩
  exact hclasses category utility hutility (List.mem_singleton.1 hproperty).symm

/-- Only the nodes can declare a filter. -/
theorem declareFilter_styles_iff (tree : Json) (registry : Registry) (options : CompileOptions) :
    DeclareFilter (styles tree registry options) ↔
      ∃ node ∈ StyleNode.all tree registry options.skipFilters,
        DeclareFilter (nodeRules tree options node) := by
  simp only [styles, Rule.declareFilter_append, Rule.declareFilter_flatMap,
    not_declareFilter_reset, not_declareFilter_alignments, not_declareFilter_gapRules,
    not_declareFilter_utilityClasses, and_false, exists_false, or_false, false_or]

end Stylesheet

/-! ### Nodes -/

/-- Gathering by selector neither loses nor makes up a filter, under whatever names. -/
theorem FeaturePart.declareFilter_groups_iff (ctx : StyleContext) (name : String → String)
    (parts : List FeaturePart) :
    Rule.DeclareFilter ((groups ctx parts).flatMap fun group ↦
        Rule.make .unterminated (name group.1) group.2) ↔
      ∃ part ∈ parts, (ctx.filter? part.styles).isSome := by
  rw [← map_compile_writtenRules, Rule.declareFilter_map_compile,
    ((perm_entries_writtenRules ctx name parts).map Written.property).mem_iff,
    mem_map_property_written_iff]

namespace VariationParts

/-- The rules of a subtree declare a filter, of a feature or of its own, when it has one. -/
theorem declareFilter_rules_iff (ctx : StyleContext) (name selector : String)
    (features : Entries FeatureSelector) {styles : Json} (h : styles.WellFormed) :
    Rule.DeclareFilter (rules ctx ⟨name, selector, (FeaturePart.take features styles).1,
        (FeaturePart.take features styles).2⟩) ↔
      (ctx.filter? styles).isSome := by
  rw [rules, Rule.declareFilter_append, Rule.declareFilter_make_declarations,
    ← FeaturePart.isSome_filter?_take_iff ctx features h]
  exact or_congr_left (FeaturePart.declareFilter_groups_iff ctx _ _)

/-- A variation declares a filter exactly when the styles have one for it. -/
theorem exists_filter_iff (ctx : StyleContext) (node : StyleNode) {styles : Json}
    (h : styles.WellFormed) (variation : String × String) :
    (∃ parts, ofStyles? node styles variation = some parts ∧
        Rule.DeclareFilter (parts.rules ctx)) ↔
      ∃ subtree, styles.get? ["variations", variation.1] = some subtree ∧
        (ctx.filter? subtree).isSome := by
  rw [ofStyles?]
  rcases hget : styles.get? ["variations", variation.1] with _ | subtree
  · simp
  · have hwell := wellFormed_of_get? h hget
    simp only [Option.map_some, Option.some.injEq, exists_eq_left', declareFilter_rules_iff ctx _ _ _
      hwell]

end VariationParts

/-- The variations of a node that are emitted and have a filter. -/
theorem NodeParts.declareFilter_variations_iff (ctx : StyleContext) {node : StyleNode}
    (h : node.styles.WellFormed) (variationStyles : Bool) :
    Rule.DeclareFilter ((ofNode node variationStyles).variations.flatMap
        (VariationParts.rules ctx)) ↔
      variationStyles = true ∧ ∃ variation ∈ node.variationSelectors, ∃ styles,
        (FeaturePart.take node.featureSelectors node.styles).2.get? ["variations", variation.1] =
          some styles ∧ (ctx.filter? styles).isSome := by
  cases variationStyles
  · simp [ofNode]
  · simp only [ofNode, if_true, Rule.declareFilter_flatMap, List.mem_filterMap, true_and,
      ← VariationParts.exists_filter_iff ctx node (FeaturePart.wellFormed_take _ h)]
    constructor
    · rintro ⟨parts, ⟨variation, hmem, hsome⟩, hfilter⟩
      exact ⟨variation, hmem, parts, hsome, hfilter⟩
    · rintro ⟨variation, hmem, parts, hsome, hfilter⟩
      exact ⟨parts, ⟨variation, hmem, hsome⟩, hfilter⟩

/-- Without a filter there is nothing to take out. -/
theorem NodeParts.takeDuotone_of_notMem {styles : Json}
    (h : "filter" ∉ Entries.keys styles.entries) (selector : Option String) :
    takeDuotone selector styles = (none, styles) := by
  cases hobject : styles.isObject
  · exact takeDuotone_of_not_isObject hobject selector
  · obtain ⟨fields, rfl⟩ := exists_obj hobject
    have hget : Entries.get? fields "filter" = none := by
      rwa [← Option.not_isSome_iff_eq_none, ← Entries.mem_keys_iff]
    cases selector with
    | none => rfl
    | some selector => rw [takeDuotone, hget]

namespace StyleNode

/-- The rules that the members of a node make by themselves: what features take, what goes to the
selector of filters, and the node's own styles. -/
def directRules (node : StyleNode) (ctx : StyleContext) (variationStyles : Bool) : List Rule :=
  let parts := ofNode node variationStyles
  ((FeaturePart.groups ctx parts.features).flatMap fun (selector, declarations) ↦
      Rule.make .unterminated selector declarations) ++
    parts.duotone.toList.flatMap (fun (selector, styles) ↦
      Rule.make .terminated selector (ctx.declarations styles false)) ++
    Rule.make .terminated node.selector (ctx.declarations parts.own node.isRoot)

/-- They are rules of the node; variations, layout and pseudo-selectors have the rest. -/
theorem directRules_sublist_rules (node : StyleNode) (ctx : StyleContext) (variationStyles : Bool)
    (layout : List Rule) :
    (node.directRules ctx variationStyles).Sublist (node.rules ctx variationStyles layout) := by
  let parts := ofNode node variationStyles
  have hvariations := List.sublist_append_left
    ((FeaturePart.groups ctx parts.features).flatMap fun (selector, declarations) ↦
      Rule.make .unterminated selector declarations)
    (parts.variations.flatMap (VariationParts.rules ctx))
  have hlayout := (hvariations.append_right (parts.duotone.toList.flatMap fun (selector, styles) ↦
    Rule.make .terminated selector (ctx.declarations styles false))).trans
      (List.sublist_append_left _ layout)
  exact (hlayout.append_right _).trans (List.sublist_append_left _ _)

/-- Where a node has a filter although filters are skipped: under a pseudo-selector, or in one of
the variations that are emitted. -/
inductive KeepsFilter (ctx : StyleContext) (variationStyles : Bool) (node : StyleNode) : Prop
  | pseudo {key : String} {styles : Json} (hmem : (key, styles) ∈ node.styles.entries)
    (hkey : isPseudo key = true) (hfilter : (ctx.filter? styles).isSome)
  | variation {name selector : String} {styles : Json} (hemitted : variationStyles = true)
    (hmem : (name, selector) ∈ node.variationSelectors)
    (hget : (FeaturePart.take node.featureSelectors node.styles).2.get? ["variations", name] =
      some styles)
    (hfilter : (ctx.filter? styles).isSome)

/-- The pseudo-selectors of a node are the members of its styles that are one, whatever was taken
out before. -/
theorem pseudo_of_mem_all {tree : Json} {registry : Registry} {skipFilters : Bool}
    {node : StyleNode} (h : node ∈ all tree registry skipFilters) (variationStyles : Bool) :
    (ofNode node variationStyles).pseudo =
      node.styles.entries.filter fun entry ↦ isPseudo entry.1 := by
  have hpicked {node : StyleNode} (hkeys : Entries.keys node.styles.entries ⊆ pickedKeys) :
      (ofNode node variationStyles).pseudo =
        node.styles.entries.filter fun entry ↦ isPseudo entry.1 := by
    have hnone (key : String) (hkey : key ∈ Entries.keys node.styles.entries) :=
      isPseudo_of_mem_pickedKeys (hkeys hkey)
    rw [pseudo_eq_nil hnone, eq_comm, List.filter_eq_nil_iff]
    intro entry hmem
    rw [hnone entry.1 (List.mem_map_of_mem hmem)]
    exact Bool.false_ne_true
  cases ofTree_of_mem_all h with
  | root => exact hpicked (List.Subset.trans (keys_pick_subset _ _ _) (List.subset_append_left _ _))
  | block => exact hpicked (keys_pick_subset _ _ _)
  | rootElement => rw [ofNode_plain]; rfl
  | blockElement => rw [ofNode_plain]; rfl

/-- No filter is picked while filters are skipped. -/
theorem filter_notMem_keys_pick (keys : List String) (styles : Json) :
    "filter" ∉ Entries.keys (pick keys true styles).entries := by
  intro hmem
  obtain ⟨entry, hentry, hkey⟩ := List.mem_map.1 hmem
  have hpicked := (List.mem_filter.1 hentry).2
  simp [hkey] at hpicked

/-- The filter of an element is left out. -/
theorem filter_notMem_keys_withoutFilter {styles : Json} (h : styles.WellFormed) :
    "filter" ∉ Entries.keys (withoutFilter true styles).entries := by
  rw [entries_withoutFilter, if_pos rfl, Entries.mem_keys_iff,
    Entries.get?_swapRemove (nodup_keys_entries h), if_pos rfl]
  exact Bool.false_ne_true

variable {tree : Json} (htree : tree.WellFormed) {registry : Registry} {node : StyleNode}
  (h : node ∈ all tree registry true)
include htree h

/-- The styles of a node are well formed, as the tree is. -/
theorem wellFormed_styles_of_mem_all : node.styles.WellFormed :=
  (styles_of_mem_all htree h).1 ▸ NodePlace.wellFormed_subtree htree true node.place

/-- **While filters are skipped no node has one among its members.** -/
theorem filter_notMem_keys : "filter" ∉ Entries.keys node.styles.entries := by
  have hwell := wellFormed_down htree node.place.path
  rw [(styles_of_mem_all htree h).1, NodePlace.subtree]
  generalize tree.down node.place.path = styles at hwell ⊢
  cases node.place with
  | root => exact filter_notMem_keys_pick _ styles
  | block => exact filter_notMem_keys_pick _ styles
  | rootElement => exact filter_notMem_keys_withoutFilter hwell
  | blockElement => exact filter_notMem_keys_withoutFilter hwell

/-- What features leave of a node has no filter either. -/
theorem filter_notMem_keys_take :
    "filter" ∉ Entries.keys (FeaturePart.take node.featureSelectors node.styles).2.entries :=
  fun hmem ↦ filter_notMem_keys htree h
    (FeaturePart.keys_take_subset node.featureSelectors _ hmem)

/-- There is no filter to take out of what features leave. -/
theorem takeDuotone_take :
    takeDuotone node.duotoneSelector (FeaturePart.take node.featureSelectors node.styles).2 =
      (none, (FeaturePart.take node.featureSelectors node.styles).2) :=
  takeDuotone_of_notMem (filter_notMem_keys_take htree h) _

/-- Features take a filter from nowhere. -/
theorem filter?_eq_none_of_mem_features (ctx : StyleContext) {variationStyles : Bool}
    {part : FeaturePart} (hpart : part ∈ (ofNode node variationStyles).features) :
    ctx.filter? part.styles = none := by
  have htake := (FeaturePart.isSome_filter?_take_iff ctx node.featureSelectors
    (wellFormed_styles_of_mem_all htree h)).1
  rw [ctx.filter?_of_notMem (filter_notMem_keys htree h)] at htake
  by_contra hne
  cases htake (.inl ⟨part, hpart, Option.isSome_iff_ne_none.2 hne⟩)

/-- Nothing goes to the selector of filters. -/
theorem duotone_eq_none (variationStyles : Bool) :
    (ofNode node variationStyles).duotone = none :=
  congrArg Prod.fst (takeDuotone_take htree h)

/-- No filter is left in the node's own styles. -/
theorem filter?_own (ctx : StyleContext) (variationStyles : Bool) :
    ctx.filter? (ofNode node variationStyles).own = none := by
  have hown : (ofNode node variationStyles).own =
      (FeaturePart.take node.featureSelectors node.styles).2 :=
    congrArg Prod.snd (takeDuotone_take htree h)
  rw [hown]
  exact ctx.filter?_of_notMem (filter_notMem_keys_take htree h)

/-- **The members of a node declare no filter by themselves.** -/
theorem not_declareFilter_directRules (ctx : StyleContext) (variationStyles : Bool) :
    ¬Rule.DeclareFilter (node.directRules ctx variationStyles) := by
  have hfeatures := (FeaturePart.declareFilter_groups_iff ctx id
    (ofNode node variationStyles).features).not.2 fun ⟨part, hpart, hfilter⟩ ↦ by
      rw [filter?_eq_none_of_mem_features htree h ctx hpart] at hfilter
      cases hfilter
  have hown := filter?_own htree h ctx variationStyles
  rw [directRules, Rule.declareFilter_append, Rule.declareFilter_append, duotone_eq_none htree h,
    Rule.declareFilter_make_declarations, hown]
  simpa using hfeatures

omit htree in
/-- The filters of pseudo-selectors are those under the members of the styles that are one. -/
theorem declareFilter_pseudo_iff (ctx : StyleContext) (variationStyles : Bool) :
    Rule.DeclareFilter ((ofNode node variationStyles).pseudo.flatMap fun (pseudo, styles) ↦
        Rule.make .terminated (Selector.append node.selector pseudo)
          (ctx.declarations styles false)) ↔
      ∃ entry ∈ node.styles.entries, isPseudo entry.1 = true ∧
        (ctx.filter? entry.2).isSome := by
  rw [pseudo_of_mem_all h]
  simp only [Rule.declareFilter_flatMap, Rule.declareFilter_make_declarations, List.mem_filter,
    and_assoc]

/-- **A rule of a node declares a filter exactly when the node keeps one**, apart from its
layout. -/
theorem declareFilter_rules_iff (ctx : StyleContext) (variationStyles : Bool)
    (layout : List Rule) :
    Rule.DeclareFilter (node.rules ctx variationStyles layout) ↔
      node.KeepsFilter ctx variationStyles ∨ Rule.DeclareFilter layout := by
  have hdirect := not_declareFilter_directRules htree h ctx variationStyles
  simp only [directRules, Rule.declareFilter_append, not_or] at hdirect
  obtain ⟨⟨hfeatures, hduotone⟩, hown⟩ := hdirect
  have hvariations := declareFilter_variations_iff ctx (wellFormed_styles_of_mem_all htree h)
    variationStyles
  have hpseudo := declareFilter_pseudo_iff h ctx variationStyles
  simp only [rules, Rule.declareFilter_append, hfeatures, hduotone, hown, hvariations, hpseudo,
    false_or, or_false]
  constructor
  · rintro ((⟨hemitted, ⟨name, selector⟩, hmem, styles, hget, hfilter⟩ | hlayout) |
      ⟨⟨key, styles⟩, hmem, hkey, hfilter⟩)
    · exact .inl (.variation hemitted hmem hget hfilter)
    · exact .inr hlayout
    · exact .inl (.pseudo hmem hkey hfilter)
  · rintro ((⟨hmem, hkey, hfilter⟩ | ⟨hemitted, hmem, hget, hfilter⟩) | hlayout)
    · exact .inr ⟨_, hmem, hkey, hfilter⟩
    · exact .inl (.inl ⟨hemitted, _, hmem, _, hget, hfilter⟩)
    · exact .inl (.inr hlayout)

end StyleNode

/-! ### In a stylesheet -/

namespace Stylesheet

open Rule (DeclareFilter)

/-- The layout rules of a node, unless the options leave them out. -/
def nodeLayout (tree : Json) (options : CompileOptions) (node : StyleNode) : List Rule :=
  if options.disableLayout then []
  else
    node.layoutRules (LayoutKind.all tree) (.ofBlockGap (supportsBlockGap tree options))
      options.space

/-- **The filters that are left while filters are skipped.** Of every well-formed tree, every
registry and options that skip filters: a rule of the styles declares a filter exactly when a node
keeps one under a pseudo-selector or in an emitted variation, or a layout rule of a node declares
the property by itself. In particular, among the rules of a node those of its own styles, of its
features and of the selector that filters go to declare none. -/
theorem declareFilter_compile_iff {tree : Json} (htree : tree.WellFormed) (registry : Registry)
    {options : CompileOptions} (hskip : options.skipFilters = true) :
    (DeclareFilter (compile tree registry options).styles ↔
      ∃ node ∈ StyleNode.all (withSeparatorColors tree) registry true,
        node.KeepsFilter (contextOf tree options node.place.scope?) options.variationStyles ∨
          DeclareFilter (nodeLayout (withSeparatorColors tree) options node)) ∧
      ∀ node ∈ StyleNode.all (withSeparatorColors tree) registry true,
        let direct := node.directRules (contextOf tree options node.place.scope?)
          options.variationStyles
        direct.Sublist (nodeRules (withSeparatorColors tree) options node) ∧
          ¬DeclareFilter direct := by
  have hwell := wellFormed_withSeparatorColors htree
  constructor
  · show DeclareFilter (styles (withSeparatorColors tree) registry options) ↔ _
    rw [declareFilter_styles_iff, hskip]
    exact exists_congr fun node ↦ and_congr_right fun hnode ↦
      StyleNode.declareFilter_rules_iff hwell hnode _ _ _
  · intro node hnode direct
    exact ⟨node.directRules_sublist_rules _ _ _,
      StyleNode.not_declareFilter_directRules hwell hnode _ _⟩

/-- Links with a filter while they are pointed at. -/
def treeWithHover : Json :=
  .obj [("styles", .obj [("elements", .obj [("link", .obj
    [("color", .obj [("text", .str "blue")]),
      (":hover", .obj [("filter", .obj [("duotone", .str "none")])])])])])]

/-- Images with a filter in one of their variations. -/
def treeWithPlainImages : Json :=
  .obj [("styles", .obj [("blocks", .obj [("core/image", .obj
    [("variations", .obj [("plain", .obj [("filter", .obj [("duotone", .str "none")])])])])])])]

/-- Images that have this variation. -/
def imageRegistry : Registry :=
  [("core/image", { BlockSelectors.ofSelector ".wp-block-image" with
    variationSelectors := [("plain", ".wp-block-image.is-style-plain")] })]

/-- The links of this tree. -/
def hoverNode : StyleNode :=
  .plain (.rootElement .link) "a" (StyleNode.withoutFilter true
    (treeWithHover.down ["styles", "elements", "link"]))

/-- Links that are pointed at declare the filter, and links as such do not. -/
theorem declareFilter_compile_iff_hover :
    treeWithHover.WellFormed ∧ CompileOptions.skippingFilters.skipFilters = true ∧
      DeclareFilter (compile treeWithHover [] .skippingFilters).styles ∧
      hoverNode.directRules (contextOf treeWithHover .skippingFilters none) true =
        [⟨"a", [⟨"color", "blue"⟩], .terminated⟩] ∧
      ¬DeclareFilter
        (hoverNode.directRules (contextOf treeWithHover .skippingFilters none) true) := by
  have htree : treeWithHover.WellFormed := by
    simp [treeWithHover, Json.WellFormed, Json.FieldsWellFormed]
  have hnode : hoverNode ∈ StyleNode.all (withSeparatorColors treeWithHover) [] true :=
    .tail _ (.head _)
  obtain ⟨hiff, hdirect⟩ :=
    declareFilter_compile_iff htree [] (rfl : CompileOptions.skippingFilters.skipFilters = true)
  have hfilter : (StyleContext.filter? (contextOf treeWithHover .skippingFilters none)
      (.obj [("filter", .obj [("duotone", .str "none")])])).isSome := by decide +kernel
  have hkeeps : hoverNode.KeepsFilter (contextOf treeWithHover .skippingFilters none) true :=
    .pseudo (.tail _ (.head _)) (by decide : isPseudo ":hover" = true) hfilter
  exact ⟨htree, rfl, hiff.2 ⟨_, hnode, .inl hkeeps⟩, by decide +kernel, (hdirect _ hnode).2⟩

/-- Two filters that are not skipped, one under a pseudo-selector and one in a variation. -/
theorem compile_skipping_filters :
    ⟨"a:hover", [⟨"filter", "none"⟩], .terminated⟩ ∈
        (compile treeWithHover [] .skippingFilters).styles ∧
      ⟨".wp-block-image.is-style-plain", [⟨"filter", "none"⟩], .unterminated⟩ ∈
        (compile treeWithPlainImages imageRegistry .skippingFilters).styles := by
  decide +kernel

end Stylesheet

end GlobalStyles
