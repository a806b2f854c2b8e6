import GlobalStyles.Proofs.Stylesheet.Settings

/-!
# The shape of stylesheets

Both stylesheets that are made of a tree are flat: rules one after another, none inside another and
none empty (`compile_isFlatSheet`). All that is asked for is that no brace stands in what goes into
them, the tree with its keys, what the registry says for rules, and the namespace.

The rules come from the style nodes, from the settings nodes and from fixed tables. In the tables
only the namespace and a few values of the tree stand besides fixed texts.
-/

namespace GlobalStyles

open Rule (AllFlat allFlat_nil allFlat_make)

/-! ### Fixed rules -/

namespace Stylesheet

/-- Fixed declarations without braces are flat. -/
theorem isFlat_of_mem_fixed {declarations : List (String × String)}
    (h : ∀ entry ∈ declarations, Braceless entry.1 ∧ Braceless entry.2) :
    ∀ declaration ∈ fixed declarations, declaration.IsFlat := by
  intro declaration hmem
  obtain ⟨entry, hentry, rfl⟩ := List.mem_map.1 hmem
  exact ⟨(h entry hentry).1, (h entry hentry).2⟩

theorem allFlat_alignments : AllFlat alignments := by
  refine .append (.append ?_ ?_) ?_
  all_goals exact allFlat_make (by decide) (isFlat_of_mem_fixed (by decide)) _

theorem allFlat_gapMargins {gap : String} (hgap : Braceless gap) : AllFlat (gapMargins gap) := by
  have hstart : ∀ entry ∈ [("margin-block-start", gap), ("margin-block-end", "0")],
      Braceless entry.1 ∧ Braceless entry.2 := by
    simp only [List.forall_mem_cons]
    exact ⟨⟨by decide, hgap⟩, by decide, List.forall_mem_nil _⟩
  refine .append (.append ?_ ?_) ?_
  · exact allFlat_make (by decide) (isFlat_of_mem_fixed hstart) _
  · exact allFlat_make (by decide) (isFlat_of_mem_fixed (by decide)) _
  · exact allFlat_make (by decide) (isFlat_of_mem_fixed (by decide)) _

section

variable {space : String} (hspace : Braceless space)
include hspace

/-- The name of a padding of the root has no brace. -/
theorem braceless_rootPadding {side : String} (hside : Braceless side) :
    Braceless (rootPadding space side) :=
  ((((by decide : Braceless "var(--").append hspace).append (by decide)).append hside).append
    (by decide)

theorem isFlat_of_mem_globalSizes {settings : Json} (h : settings.Meets .braceless) :
    ∀ declaration ∈ globalSizes settings space, declaration.IsFlat := by
  intro declaration hmem
  obtain ⟨entry, hentry, hsome⟩ := List.mem_filterMap.1 hmem
  obtain ⟨text, htext, rfl⟩ := Option.map_eq_some_iff.1 hsome
  have htable : ∀ entry ∈ [("contentSize", "content-size"), ("wideSize", "wide-size")],
      Braceless entry.2 := by decide
  have hname := ((by decide : Braceless "--").append hspace).append
    (by decide : Braceless "--style--global--")
  exact ⟨hname.append (htable entry hentry), h.css?_of_get? htext⟩

/-- The paddings of the root are made of names. -/
theorem isFlat_of_mem_rootPaddings :
    ∀ declaration ∈ rootPaddings space, declaration.IsFlat := by
  refine isFlat_of_mem_fixed ?_
  simp only [List.forall_mem_cons]
  exact ⟨by decide, by decide, ⟨by decide, braceless_rootPadding hspace (by decide)⟩,
    ⟨by decide, braceless_rootPadding hspace (by decide)⟩, List.forall_mem_nil _⟩

/-- The alignments of padded content are flat rules. -/
theorem allFlat_paddingAlignments : AllFlat (paddingAlignments space) := by
  have hright := braceless_rootPadding hspace (by decide : Braceless "right")
  have hleft := braceless_rootPadding hspace (by decide : Braceless "left")
  have hinline : ∀ declaration ∈ fixed [("padding-right", rootPadding space "right"),
      ("padding-left", rootPadding space "left")], declaration.IsFlat := by
    refine isFlat_of_mem_fixed ?_
    simp only [List.forall_mem_cons]
    exact ⟨⟨by decide, hright⟩, ⟨by decide, hleft⟩, List.forall_mem_nil _⟩
  have hcalc : ∀ declaration ∈ fixed
      [("margin-right", "calc(" ++ rootPadding space "right" ++ " * -1)"),
        ("margin-left", "calc(" ++ rootPadding space "left" ++ " * -1)")],
      declaration.IsFlat := by
    refine isFlat_of_mem_fixed ?_
    have hopen : Braceless "calc(" := by decide
    simp only [List.forall_mem_cons]
    exact ⟨⟨by decide, (hopen.append hright).append (by decide)⟩,
      ⟨by decide, (hopen.append hleft).append (by decide)⟩, List.forall_mem_nil _⟩
  -- a selector with its declarations each, in the order of the rules
  refine .append (.append (.append (.append (.append ?_ ?_) ?_) ?_) ?_) ?_
  · exact allFlat_make (by decide) hinline _
  · exact allFlat_make (by decide) (isFlat_of_mem_fixed (by decide)) _
  · exact allFlat_make (by decide) hcalc _
  · exact allFlat_make (by decide) (isFlat_of_mem_fixed (by decide)) _
  · exact allFlat_make (by decide +kernel) hinline _
  · exact allFlat_make (by decide +kernel) (isFlat_of_mem_fixed (by decide)) _

/-- The reset is flat, with or without the padding of the root. -/
theorem allFlat_reset {settings : Json} (h : settings.Meets .braceless) (paddingAlign : Bool) :
    AllFlat (reset settings space paddingAlign) := by
  have hmargin : ∀ declaration ∈ fixed [("margin", "0")], declaration.IsFlat :=
    isFlat_of_mem_fixed (by decide)
  have hsizes := List.forall_mem_append.2 ⟨hmargin, isFlat_of_mem_globalSizes hspace h⟩
  simp only [reset]
  split
  · refine .append (allFlat_make (by decide) ?_ _) (allFlat_paddingAlignments hspace)
    exact List.forall_mem_append.2 ⟨hsizes, isFlat_of_mem_rootPaddings hspace⟩
  · exact allFlat_make (by decide) hsizes _

end

end Stylesheet

/-! ### Stylesheets -/

section

variable {tree : Json} (h : tree.Meets .braceless) {registry : Registry}
  (hregistry : registry.IsBraceless) {options : CompileOptions} (hspace : Braceless options.space)
include h hspace

/-- The rules of a node without braces are flat. -/
theorem StyleNode.IsBraceless.allFlat_nodeRules {node : StyleNode} (hnode : node.IsBraceless) :
    AllFlat (Stylesheet.nodeRules tree options node) := by
  have hctx : ((StyleContext.ofTree tree options.space).within node.place.scope?).IsBraceless := by
    refine ⟨fun own hown ↦ ?_, hspace⟩
    obtain rfl : tree = own := Option.some.inj hown
    exact h
  simp only [Stylesheet.nodeRules]
  refine hnode.allFlat_rules hctx options.variationStyles ?_
  split
  · exact allFlat_nil
  · exact StyleNode.allFlat_layoutRules hnode.selector hnode.styles hnode.fallbackGap
      (fun kind hkind ↦ LayoutKind.isBraceless_of_mem_all h hkind) _ hspace

/-- A gap of a tree without braces has none. -/
theorem Stylesheet.allFlat_gapRules : AllFlat (gapRules tree options) := by
  rw [gapRules]
  split
  · refine allFlat_gapMargins ?_
    rcases hgap : (tree.get? ["styles", "spacing", "blockGap"]).bind
      (GapSupport.css? · options.space) with _ | gap
    · decide
    · obtain ⟨value, hget, hcss⟩ := Option.bind_eq_some_iff.1 hgap
      exact hspace.gap? (h.of_get? hget) hcss
  · exact allFlat_nil

include hregistry

/-- **All rules of the styles are flat** when neither tree, registry nor namespace has a brace. -/
theorem Stylesheet.allFlat_styles : AllFlat (styles tree registry options) := by
  have hsettings : (settings tree).Meets .braceless := by
    rw [settings]
    rcases hget : tree.get? ["settings"] with _ | settings
    · trivial
    · exact h.of_get? hget
  -- the reset, the style nodes, the alignments, the gaps and the settings nodes
  refine .append (.append (.append (.append ?_ ?_) ?_) ?_) ?_
  · exact allFlat_reset hspace hsettings _
  · refine .flatMap fun node hnode ↦ ?_
    exact (StyleNode.isBraceless_of_mem_all h hregistry hnode).allFlat_nodeRules h hspace
  · exact allFlat_alignments
  · exact allFlat_gapRules h hspace
  · refine .flatMap fun node hnode ↦ ?_
    exact (SettingsNode.isBraceless_of_mem_all h hregistry hnode).allFlat_utilityClasses hspace

end

/-- **Stylesheets are flat.** Where no brace stands in the tree, in what the registry says for rules
or in the namespace, both stylesheets are rules `S{B}` one after another, with no brace in `S` or
`B` and no blank `B`. So braces open and close in turn, and nothing follows the last rule. -/
theorem compile_isFlatSheet (merged : Json) (registry : Registry) (options : CompileOptions)
    (hmerged : merged.Meets .braceless) (hregistry : registry.IsBraceless)
    (hspace : Braceless options.space) :
    ∀ css ∈ [(compile merged registry options).customPropertiesCss,
        (compile merged registry options).stylesCss],
      IsFlatSheet css ∧ BracesAlternate css.toList ∧ ∀ c ∈ css.toList.getLast?, c = '\x7d' := by
  -- the separator's colour is a value of the tree, under keys of its own
  have htree : (Stylesheet.withSeparatorColors merged).Meets .braceless := by
    have hkeys : ∀ key ∈ Stylesheet.separatorColors ++ ["text"], Braceless key := by decide
    exact Stylesheet.meets_withSeparatorColors hmerged fun key hkey _ ↦ hkeys key hkey
  have hcustom : AllFlat (compile merged registry options).customProperties := by
    refine .flatMap fun node hnode ↦ ?_
    exact (SettingsNode.isBraceless_of_mem_all htree hregistry hnode).allFlat_customProperties
      hspace _
  have hstyles : AllFlat (compile merged registry options).styles :=
    Stylesheet.allFlat_styles htree hregistry hspace
  have hsheet {css : String} (hcss : IsFlatSheet css) :
      IsFlatSheet css ∧ BracesAlternate css.toList ∧ ∀ c ∈ css.toList.getLast?, c = '\x7d' :=
    ⟨hcss, hcss.bracesAlternate, hcss.getLast?_eq⟩
  simp only [List.forall_mem_cons]
  exact ⟨hsheet hcustom.isFlatSheet, hsheet hstyles.isFlatSheet, List.forall_mem_nil _⟩

/-- A tree with a preset, a custom value and a layout, and a button with a colour under the
pointer. -/
def treeOfButton : Json :=
  .obj
    [("settings", .obj
      [("color", .obj [("palette", .obj [("theme", .arr
          [.obj [("slug", .str "ink"), ("color", .str "navy")]])])]),
        ("custom", .obj [("lineHeight", .num (.int 2))]),
        ("layout", .obj [("definitions", .obj [("flex", .obj
          [("className", .str "is-layout-flex"), ("displayMode", .str "flex"),
            ("spacingStyles", .arr [.obj [("rules", .obj [("gap", .null)])]])])])])]),
      ("styles", .obj
        [("spacing", .obj [("blockGap", .str "1em")]),
          ("blocks", .obj [("core/button", .obj
            [("color", .obj [("text", .str "var:preset|color|ink")]),
              ("elements", .obj [("link", .obj
                [(":hover", .obj [("color", .obj [("text", .str "red")])])])])])])])]

/-- The registry of the button. -/
def registryOfButton : Registry :=
  [("core/button", .ofSelector ".button, .submit")]

/-- The stylesheets of the button are flat. The styles are fifteen rules, the custom properties are
one. -/
theorem compile_isFlatSheet_button :
    treeOfButton.Meets .braceless ∧ registryOfButton.IsBraceless ∧
      Braceless CompileOptions.standard.space ∧
      IsFlatSheet (compile treeOfButton registryOfButton .standard).stylesCss ∧
      (compile treeOfButton registryOfButton .standard).styles.length = 15 ∧
      IsFlatSheet (compile treeOfButton registryOfButton .standard).customPropertiesCss ∧
      (compile treeOfButton registryOfButton .standard).customPropertiesCss =
        "body\x7b--wp--preset--color--ink: navy;--wp--custom--line-height: 2;\x7d" := by
  have htree : treeOfButton.Meets .braceless := by
    simp only [treeOfButton, Json.Meets, Json.FieldsMeet, Json.ItemsMeet, Json.Norm.braceless]
    decide
  have hregistry : registryOfButton.IsBraceless := by
    refine List.forall_mem_singleton.2 ⟨?_, ?_, ?_, ?_, ?_, ?_⟩ <;> decide
  have hspace : Braceless CompileOptions.standard.space := by decide
  have hflat := compile_isFlatSheet treeOfButton registryOfButton .standard htree hregistry hspace
  obtain ⟨hcustom, -⟩ := hflat _ List.mem_cons_self
  obtain ⟨hstyles, -⟩ := hflat _ (List.mem_cons_of_mem _ List.mem_cons_self)
  exact ⟨htree, hregistry, hspace, hstyles, by decide +kernel, hcustom, by decide +kernel⟩

end GlobalStyles
