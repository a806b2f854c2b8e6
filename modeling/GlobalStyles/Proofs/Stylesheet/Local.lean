import GlobalStyles.Proofs.Stylesheet.Edited

/-!
# Edits are local

An edit of the styles of one block shows in the compiled stylesheets at one place only: the custom
properties and the filters stay, and the styles and the author's CSS keep everything before and
after what the block itself has (`compile_of_sameButBlock`).

The rules of the other nodes are made of their own styles, of the settings, and of the places
elsewhere at which their styles point. So the statement asks that no `ref` outside the block points
into it (`Json.NeverPointsIntoBlock`). Nothing is asked of the block, whose own values may point
anywhere: its rules are compared with those of the same tree only.
-/

namespace GlobalStyles

open Json

theorem Rule.textOfAll_append (rules more : List Rule) :
    textOfAll (rules ++ more) = textOfAll rules ++ textOfAll more := by
  rw [textOfAll, List.map_append, String.join_append]
  rfl

/-- No `ref` of a tree points into the styles of a block. -/
def Json.NeverPointsIntoBlock (tree : Json) (scope : String) : Prop :=
  tree.Meets (.refs fun place ↦ ¬["styles", "blocks", scope] <+: placeKeys place)

namespace Stylesheet

/-- The rules of a block and its elements. -/
def scopeRules (tree : Json) (registry : Registry) (options : CompileOptions) (scope : String) :
    List Rule :=
  ((StyleNode.all tree registry options.skipFilters).filter fun node ↦
    node.place.scope? = some scope).flatMap (nodeRules tree options)

/-- The author's CSS of a block. -/
def scopeCss (tree : Json) (registry : Registry) (scope : String) : String :=
  String.join (((StyleNode.blocks tree).filter fun member ↦ member.1 = scope).map
    (blockCss registry))

variable {scope : String}

/-- Drawing the line adds no value that points into a block. -/
theorem neverPointsIntoBlock_withSeparatorColors {tree : Json}
    (h : tree.NeverPointsIntoBlock scope) :
    (withSeparatorColors tree).NeverPointsIntoBlock scope :=
  meets_withSeparatorColors h fun key hkey text ↦ by
    refine Norm.refs_entry_of_ne ?_ text
    rintro rfl
    exact absurd hkey (by decide)

/-! ### Nodes of other blocks -/

/-- Values that do not point into a block have the same texts when it is edited. -/
theorem readAlike_withBlock (tree value : Json) (space : String) (owner : Option String) :
    StyleContext.ReadAlike (fun place ↦ ¬["styles", "blocks", scope] <+: placeKeys place)
      ((StyleContext.ofTree (tree.withBlock scope value) space).within owner)
      ((StyleContext.ofTree tree space).within owner) where
  space := rfl
  paddingAlign := (sameSettings_withBlock tree scope value).paddingAlign_eq space
  placeText place hplace := by
    show ((tree.withBlock scope value).get? (placeKeys place)).bind Json.css? =
      (tree.get? (placeKeys place)).bind Json.css?
    rw [bind_css?_get?, bind_css?_get?, withBlock, surface_find?_modify hplace]

/-- A node whose styles do not point into a block has the same rules when it is edited. -/
theorem nodeRules_withBlock (tree value : Json) (options : CompileOptions) {node : StyleNode}
    (h : node.styles.NeverPointsIntoBlock scope) :
    nodeRules (tree.withBlock scope value) options node = nodeRules tree options node := by
  have hsettings := sameSettings_withBlock tree scope value
  rw [nodeRules, nodeRules, hsettings.layoutKinds_eq, hsettings.supportsBlockGap_eq]
  refine StyleNode.rules_eq_of_sayAlike (fun _ hstyles isRoot ↦ ?_) h _
    (hsettings.declare_eq options.space _) _
  exact (readAlike_withBlock tree value options.space _).written_eq hstyles isRoot

theorem gapRules_withBlock (tree value : Json) (options : CompileOptions) :
    gapRules (tree.withBlock scope value) options = gapRules tree options := by
  rw [gapRules, gapRules, (sameSettings_withBlock tree scope value).supportsBlockGap_eq,
    get?_withBlock (by decide)]

/-! ### Around a block -/

/-- What is chosen stands together when nothing else is. -/
theorem filter_parts {α : Type} {p : α → Bool} {before run after : List α}
    (hrun : ∀ a ∈ run, p a) (hothers : ∀ a ∈ before ++ after, ¬p a) :
    (before ++ run ++ after).filter p = run := by
  obtain ⟨hbefore, hafter⟩ := List.forall_mem_append.1 hothers
  rw [List.filter_append, List.filter_append, List.filter_eq_self.2 hrun,
    List.filter_eq_nil_iff.2 hbefore, List.filter_eq_nil_iff.2 hafter, List.nil_append,
    List.append_nil]

section

variable {tree : Json} (htree : tree.WellFormed) (registry : Registry)
include htree

/-- **The styles are the same around the rules of a block, whatever these are.** -/
theorem exists_styles_withBlock (options : CompileOptions)
    (hrefs : (tree.withBlock scope null).NeverPointsIntoBlock scope) :
    ∃ before after : List Rule, ∀ value,
      styles (tree.withBlock scope value) registry options =
        before ++ scopeRules (tree.withBlock scope value) registry options scope ++ after := by
  obtain ⟨first, last, hothers, hall⟩ :=
    StyleNode.exists_all_withBlock htree registry options.skipFilters scope
  -- other nodes are there without the styles of the block, so they do not point into it
  have hmeets : ∀ node ∈ first ++ last, node.styles.NeverPointsIntoBlock scope := by
    intro node hnode
    obtain ⟨run, -, hnull⟩ := hall null
    have hmem : node ∈
        StyleNode.all (tree.withBlock scope null) registry options.skipFilters := by
      rw [hnull]
      rcases List.mem_append.1 hnode with hnode | hnode
      · exact List.mem_append_left _ (List.mem_append_left _ hnode)
      · exact List.mem_append_right _ hnode
    exact StyleNode.meets_of_mem_all hrefs hmem
  obtain ⟨hfirst, hlast⟩ := List.forall_mem_append.1 hmeets
  refine ⟨reset (settings tree) options.space
      (StyleContext.ofTree tree options.space).paddingAlign ++
      first.flatMap (nodeRules tree options),
    last.flatMap (nodeRules tree options) ++ alignments ++ gapRules tree options ++
      (SettingsNode.all tree registry).flatMap (·.utilityClasses options.space), fun value ↦ ?_⟩
  have hsettings := sameSettings_withBlock tree scope value
  have hrules {nodes : List StyleNode}
      (h : ∀ node ∈ nodes, node.styles.NeverPointsIntoBlock scope) :
      nodes.flatMap (nodeRules (tree.withBlock scope value) options) =
        nodes.flatMap (nodeRules tree options) :=
    List.flatMap_congr fun node hnode ↦ nodeRules_withBlock tree value options (h node hnode)
  obtain ⟨run, hrun, hvalue⟩ := hall value
  have hown : (StyleNode.all (tree.withBlock scope value) registry options.skipFilters).filter
      (fun node ↦ node.place.scope? = some scope) = run := by
    rw [hvalue]
    exact filter_parts (fun node hnode ↦ decide_eq_true (hrun node hnode)) fun node hnode h ↦
      hothers node hnode (of_decide_eq_true h)
  rw [scopeRules, hown, styles, hvalue, hsettings.settings_eq, hsettings.paddingAlign_eq,
    hsettings.settingsNodes_eq, gapRules_withBlock, List.flatMap_append, List.flatMap_append,
    hrules hfirst, hrules hlast]
  simp only [List.append_assoc]

/-- **The author's CSS is the same around that of a block.** -/
theorem exists_customCss_withBlock (scope : String) :
    ∃ before after : String, ∀ value,
      customCss (tree.withBlock scope value) registry =
        before ++ scopeCss (tree.withBlock scope value) registry scope ++ after := by
  obtain ⟨first, last, hothers, hblocks⟩ := StyleNode.exists_blocks_withBlock htree scope
  refine ⟨((tree.get? ["styles", "css"]).bind Json.text?).getD "" ++
      String.join (first.map (blockCss registry)),
    String.join (last.map (blockCss registry)), fun value ↦ ?_⟩
  obtain ⟨own, hown, hvalue⟩ := hblocks value
  have hchosen : (StyleNode.blocks (tree.withBlock scope value)).filter
      (fun member ↦ member.1 = scope) = own := by
    rw [hvalue]
    refine filter_parts (fun member hmember ↦ decide_eq_true (hown member hmember))
      fun member hmember h ↦ hothers ?_
    exact List.mem_map.2 ⟨member, hmember, of_decide_eq_true h⟩
  rw [scopeCss, hchosen, customCss, hvalue, get?_withBlock (by decide), List.map_append,
    List.map_append, String.join_append, String.join_append]
  simp only [String.append_assoc]

end

end Stylesheet

open Stylesheet

/-- **Edits of a block are local.** Of two trees that are the same but for the styles of a block,
into which no `ref` outside of it points, the custom properties and the filters are the same, and
the styles are the rules of the block and its elements between two texts that are the same for both.
So is the author's CSS, with that of the block. -/
theorem compile_of_sameButBlock {a b : Json} {scope : String} (ha : a.WellFormed)
    (h : SameButBlock scope a b) (hrefs : (a.withBlock scope null).NeverPointsIntoBlock scope)
    (registry : Registry) (options : CompileOptions) :
    (compile a registry options).customPropertiesCss =
        (compile b registry options).customPropertiesCss ∧
      (compile a registry options).filters = (compile b registry options).filters ∧
      (∃ before after : String,
        (compile a registry options).stylesCss = before ++
            Rule.textOfAll (scopeRules (withSeparatorColors a) registry options scope) ++ after ∧
          (compile b registry options).stylesCss = before ++
            Rule.textOfAll (scopeRules (withSeparatorColors b) registry options scope) ++ after) ∧
      ∃ before after : String,
        (compile a registry options).customCss =
            before ++ scopeCss (withSeparatorColors a) registry scope ++ after ∧
          (compile b registry options).customCss =
            before ++ scopeCss (withSeparatorColors b) registry scope ++ after := by
  have hfilled := wellFormed_withSeparatorColors ha
  have hsame : SameButBlock scope (withSeparatorColors a) (withSeparatorColors b) := by
    rw [SameButBlock, ← withSeparatorColors_withBlock_null, h, withSeparatorColors_withBlock_null]
  have hpoints : ((withSeparatorColors a).withBlock scope null).NeverPointsIntoBlock scope := by
    rw [← withSeparatorColors_withBlock_null]
    exact neverPointsIntoBlock_withSeparatorColors hrefs
  obtain ⟨first, hfirst⟩ := SameButBlock.exists_eq_withBlock (Eq.refl
    ((withSeparatorColors a).withBlock scope null))
  obtain ⟨second, hsecond⟩ := hsame.exists_eq_withBlock
  have hsettings : SameSettings (withSeparatorColors b) (withSeparatorColors a) := by
    rw [hsecond]
    exact sameSettings_withBlock _ scope second
  refine ⟨?_, ?_, ?_, ?_⟩
  · simp only [compile, Bundle.customPropertiesCss, hsettings.settings_eq,
      hsettings.settingsNodes_eq]
  · simp only [compile, hsettings.settings_eq]
  · obtain ⟨before, after, hstyles⟩ := exists_styles_withBlock hfilled registry options hpoints
    have htext (value : Json) :
        Rule.textOfAll (styles ((withSeparatorColors a).withBlock scope value) registry options) =
          Rule.textOfAll before ++ Rule.textOfAll
            (scopeRules ((withSeparatorColors a).withBlock scope value) registry options scope) ++
            Rule.textOfAll after := by
      rw [hstyles, Rule.textOfAll_append, Rule.textOfAll_append]
    refine ⟨Rule.textOfAll before, Rule.textOfAll after, ?_, ?_⟩
    · have hleft := htext first
      rwa [← hfirst] at hleft
    · have hright := htext second
      rwa [← hsecond] at hright
  · obtain ⟨before, after, hcss⟩ := exists_customCss_withBlock hfilled registry scope
    refine ⟨before, after, ?_, ?_⟩
    · have hleft := hcss first
      rwa [← hfirst] at hleft
    · have hright := hcss second
      rwa [← hsecond] at hright

/-- A tree with some styles for separators, next to a quote in the colour of the site. -/
def treeWithSeparator (separator : Json) : Json :=
  .obj
    [("styles", .obj
      [("color", .obj [("text", .str "navy")]),
        ("blocks", .obj
          [("core/separator", separator),
            ("core/quote", .obj [("color", .obj
              [("text", .obj [("ref", .str "styles.color.text")])])])])])]

/-- A separator that draws its line in its background. -/
def separatorWithLine : Json :=
  .obj [("color", .obj [("background", .str "red")])]

/-- A separator in the colour of the site, with CSS. -/
def separatorWithText : Json :=
  .obj
    [("css", .str "margin: 0"),
      ("color", .obj [("text", .obj [("ref", .str "styles.color.text")])])]

/-- The registry of the two blocks. -/
def registryOfSeparator : Registry :=
  [("core/quote", .ofSelector "blockquote"), ("core/separator", .ofSelector "hr")]

/-- The line in the background is a rule of the separator too. -/
theorem compile_of_sameButBlock_separator :
    (treeWithSeparator separatorWithLine).WellFormed ∧
      SameButBlock "core/separator" (treeWithSeparator separatorWithLine)
        (treeWithSeparator separatorWithText) ∧
      ((treeWithSeparator separatorWithLine).withBlock "core/separator" null).NeverPointsIntoBlock
        "core/separator" ∧
      ∃ before after : String,
        (compile (treeWithSeparator separatorWithLine) registryOfSeparator .standard).stylesCss =
            before ++ "hr\x7bcolor: red;background-color: red;\x7d" ++ after ∧
          (compile (treeWithSeparator separatorWithText) registryOfSeparator .standard).stylesCss =
            before ++ "hr\x7bcolor: navy;\x7d" ++ after := by
  have hwell : (treeWithSeparator separatorWithLine).WellFormed := by
    simp [treeWithSeparator, separatorWithLine, Json.WellFormed, Json.FieldsWellFormed]
  have hsame : SameButBlock "core/separator" (treeWithSeparator separatorWithLine)
      (treeWithSeparator separatorWithText) := sameButBlock_withBlock _ separatorWithText
  have hrefs : ((treeWithSeparator separatorWithLine).withBlock "core/separator"
      null).NeverPointsIntoBlock "core/separator" := by
    have hplace : ¬["styles", "blocks", "core/separator"] <+: placeKeys "styles.color.text" := by
      decide +kernel
    show (treeWithSeparator null).NeverPointsIntoBlock "core/separator"
    simp [NeverPointsIntoBlock, treeWithSeparator, Meets, FieldsMeet, Norm.refs, Json.text?, hplace]
  have hline : Rule.textOfAll (scopeRules (withSeparatorColors
      (treeWithSeparator separatorWithLine)) registryOfSeparator .standard "core/separator") =
      "hr\x7bcolor: red;background-color: red;\x7d" := by
    decide +kernel
  have htext : Rule.textOfAll (scopeRules (withSeparatorColors
      (treeWithSeparator separatorWithText)) registryOfSeparator .standard "core/separator") =
      "hr\x7bcolor: navy;\x7d" := by
    decide +kernel
  obtain ⟨-, -, hstyles, -⟩ :=
    compile_of_sameButBlock hwell hsame hrefs registryOfSeparator .standard
  rw [hline, htext] at hstyles
  exact ⟨hwell, hsame, hrefs, hstyles⟩

end GlobalStyles
