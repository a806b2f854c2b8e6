import GlobalStyles.Proofs.Node.Inherited
import GlobalStyles.Proofs.Preset.Utility
import GlobalStyles.Proofs.Style.Hollow
import GlobalStyles.Proofs.Stylesheet.Local
import GlobalStyles.Proofs.Stylesheet.Written

/-!
# Sparse styles

Branches of a tree may be empty at any depth. Where the whole style branch is hollow, made of
objects and `null` only, and there are no layout kinds, the styles of the bundle should be those of
a tree with empty styles. They are, but for one default: away from the root, a background image
covers its block, and an empty object counts as an image (`StyleContext.written_of_isHollow`).

Every subtree that a rule of a node is made of is hollow as well (`NodeParts.inherited_ofNode`), so
a node says `background-size: cover` for each of its subtrees with an image, and nothing else
(`StyleNode.written_of_isHollow`). The rest of the styles does not see what is hollow.
-/

namespace GlobalStyles

open Json

/-! ### What nodes say -/

namespace NodeParts

/-- What a node says is what its subtrees say. -/
theorem written_eq_flatMap (ctx : StyleContext) (node : StyleNode) (parts : NodeParts) :
    parts.written ctx node =
      (parts.subtrees node).flatMap fun subtree ↦ ctx.written subtree.1 subtree.2 := by
  simp only [written, subtrees, FeaturePart.written, List.flatMap_append, List.flatMap_map,
    List.flatMap_assoc, List.flatMap_singleton]
  rfl

end NodeParts

namespace StyleNode

/-- Whether no subtree of a node that is compiled away from the root has a background image. -/
def Imageless (node : StyleNode) (variationStyles : Bool) : Prop :=
  ∀ subtree ∈ (NodeParts.ofNode node variationStyles).subtrees node,
    subtree.2 = false → subtree.1.hasImage = false

instance (node : StyleNode) (variationStyles : Bool) :
    Decidable (node.Imageless variationStyles) :=
  inferInstanceAs (Decidable (∀ subtree ∈ _, _))

variable {node : StyleNode} (ctx : StyleContext) (variationStyles : Bool)

/-- **A hollow node says that images cover their block**, once for each image, and nothing else. -/
theorem written_of_isHollow (h : node.styles.isHollow = true) :
    (∀ entry ∈ node.written ctx variationStyles, entry = ⟨"background-size", "cover"⟩) ∧
      (node.written ctx variationStyles = [] ↔ node.Imageless variationStyles) := by
  have hsubtrees := NodeParts.inherited_ofNode inherited_isHollow h variationStyles
  rw [written, NodeParts.written_eq_flatMap]
  constructor
  · intro entry hmem
    obtain ⟨subtree, hsubtree, hmem⟩ := List.mem_flatMap.1 hmem
    rw [ctx.written_of_isHollow (hsubtrees subtree hsubtree)] at hmem
    split at hmem
    · exact List.mem_singleton.1 hmem
    · cases hmem
  · rw [List.flatMap_eq_nil_iff]
    refine forall₂_congr fun subtree hsubtree ↦ ?_
    rw [ctx.written_of_isHollow (hsubtrees subtree hsubtree)]
    cases subtree.2 <;> cases subtree.1.hasImage <;> simp

/-- Every rule that a node writes has an entry. -/
theorem entries_ne_nil_of_mem {rule : WrittenRule}
    (h : rule ∈ node.writtenRules ctx variationStyles) : rule.entries ≠ [] := by
  simp only [writtenRules, NodeParts.rulesBefore, NodeParts.rulesAfter, FeaturePart.writtenRules,
    VariationParts.writtenRules, List.mem_append, List.mem_flatMap] at h
  rcases h with ((⟨_, -, h⟩ | ⟨_, -, ⟨_, -, h⟩ | h⟩) | ⟨_, -, h⟩) | h | ⟨_, -, h⟩ <;>
    exact WrittenRule.entries_ne_nil_of_mem_make h

/-- A node has rules exactly if it says something, when there is no layout. -/
theorem rules_eq_nil_iff :
    node.rules ctx variationStyles [] = [] ↔ node.written ctx variationStyles = [] := by
  have hrules : node.rules ctx variationStyles [] =
      (node.writtenRules ctx variationStyles).map (WrittenRule.compile ctx) := by
    rw [rules_eq, List.append_nil, ← List.map_append]
    rfl
  have hperm := node.perm_entries_writtenRules ctx variationStyles
  rw [hrules, List.map_eq_nil_iff]
  constructor
  · intro hnil
    rw [hnil] at hperm
    exact hperm.symm.eq_nil
  · intro hnil
    rw [hnil] at hperm
    refine List.eq_nil_iff_forall_not_mem.2 fun rule hmem ↦ entries_ne_nil_of_mem ctx _ hmem ?_
    exact List.flatMap_eq_nil_iff.1 hperm.eq_nil rule hmem

/-- The rules of a hollow node have no declaration but that of images. -/
theorem eq_cover_of_mem_rules (h : node.styles.isHollow = true) {rule : Rule}
    (hrule : rule ∈ node.rules ctx variationStyles []) :
    ∀ declaration ∈ rule.declarations, declaration = ⟨"background-size", "cover"⟩ := by
  rcases (node.mem_rules_iff ctx variationStyles [] rule).1 hrule with hmem | ⟨made, hmade, rfl⟩
  · cases hmem
  · intro declaration hmem
    obtain ⟨entry, hentry, rfl⟩ := List.mem_map.1 hmem
    have hwritten := (node.mem_entries_writtenRules_iff ctx variationStyles entry).1
      ⟨made, hmade, hentry⟩
    rw [(written_of_isHollow ctx variationStyles h).1 entry hwritten]
    rfl

end StyleNode

/-! ### What is around the nodes -/

/-- Without layout kinds there are no layout rules. -/
theorem StyleNode.layoutRules_nil (node : StyleNode) (gap : GapSupport) (space : String) :
    node.layoutRules [] gap space = [] := by
  simp [layoutRules]

theorem GapSupport.css?_of_isHollow {value : Json} (h : value.isHollow = true) (space : String) :
    css? value space = none := by
  have hside (key : String) : side? value space key = none := by
    rw [side?]
    rcases hget : value.get? [key] with - | side
    · rfl
    · rw [Option.bind_some, Json.css?_of_isHollow (inherited_isHollow.of_get? h hget)]
      rfl
  cases value with
  | null => rfl
  | obj fields => rw [css?, hside, hside]
  | _ => simp [isHollow] at h

namespace Stylesheet

section

variable {P : Json → Prop} {E : String → Json → Prop} (hP : Inherited P E) {tree : Json}
  (h : P (tree.child "styles"))
include hP h

/-- What a tree's styles have, and objects share with their entries, the branch has. -/
theorem inherited_branch : P (StyleNode.branch tree) := by
  rw [StyleNode.branch, get?_eq_down, down_cons, down_nil]
  split
  · exact (hP.obj_iff []).2 (List.forall_mem_nil _)
  · exact h

/-- Separator colours are a part of the styles under keys of their own. -/
theorem inherited_withSeparatorColors
    (hkeys : ∀ key ∈ ["blocks", separatorScope, "color", "text"], ∀ other, P other → E key other) :
    P ((withSeparatorColors tree).child "styles") := by
  rw [withSeparatorColors_eq]
  split <;> rename_i hline
  · exact h
  · have hget := get?_of_separatorLine? hline
    rw [separatorColors, List.cons_append, get?_cons] at hget
    rw [separatorColors, List.cons_append, child_set_cons, if_pos rfl]
    exact hP.set h hkeys (hP.of_get? h hget)

end

variable {tree : Json}

/-- Hollow styles have no colour to draw a line in. -/
theorem isHollow_withSeparatorColors (h : (tree.child "styles").isHollow = true) :
    ((withSeparatorColors tree).child "styles").isHollow = true :=
  inherited_withSeparatorColors inherited_isHollow h fun _ _ _ hother ↦ hother

theorem isImageless_withSeparatorColors (h : (tree.child "styles").isImageless = true) :
    ((withSeparatorColors tree).child "styles").isImageless = true := by
  refine inherited_withSeparatorColors inherited_isImageless h fun key hkey _ hother ↦
    ⟨?_, hother⟩
  rintro rfl
  exact absurd hkey (by decide)

/-- The nodes of styles without an image have none. -/
theorem imageless_of_mem_all (h : (tree.child "styles").isImageless = true) {registry : Registry}
    {skipFilters : Bool} {node : StyleNode} (hnode : node ∈ StyleNode.all tree registry skipFilters)
    (variationStyles : Bool) : node.Imageless variationStyles := by
  have hnode := StyleNode.inherited_of_mem_all inherited_isImageless
    (inherited_branch inherited_isImageless h) hnode
  exact fun subtree hsubtree _ ↦ hasImage_of_isImageless
    (NodeParts.inherited_ofNode inherited_isImageless hnode variationStyles subtree hsubtree)

/-- The gap of hollow styles is the one that a root without a gap has. -/
theorem gapRules_of_isHollow (h : (tree.child "styles").isHollow = true)
    (options : CompileOptions) :
    gapRules tree options =
      if supportsBlockGap tree options then gapMargins GapSupport.rootFallback else [] := by
  have hgap : (tree.get? ["styles", "spacing", "blockGap"]).bind
      (GapSupport.css? · options.space) = none := by
    rw [get?_cons]
    rcases hget : (tree.child "styles").get? ["spacing", "blockGap"] with - | gap
    · rfl
    · exact GapSupport.css?_of_isHollow (inherited_isHollow.of_get? h hget) _
  simp only [gapRules, hgap, Option.getD_none]

/-! ### Hollow trees -/

/-- The rules that nodes have without a layout. -/
def bareRules (tree : Json) (registry : Registry) (options : CompileOptions) : List Rule :=
  (StyleNode.all tree registry options.skipFilters).flatMap fun node ↦
    node.rules ((StyleContext.ofTree tree options.space).within node.place.scope?)
      options.variationStyles []

/-- The rules after those of nodes, while the styles have no gap. -/
def closing (tree : Json) (registry : Registry) (options : CompileOptions) : List Rule :=
  alignments ++
    (if supportsBlockGap tree options then gapMargins GapSupport.rootFallback else []) ++
    (SettingsNode.all tree registry).flatMap (·.utilityClasses options.space)

section

variable (registry : Registry) (options : CompileOptions)
  (h : (tree.child "styles").isHollow = true)
include h

/-- Hollow styles and no layout kinds leave the reset, the covers of images and what closes the
styles. -/
theorem styles_of_isHollow (hkinds : LayoutKind.all tree = []) :
    styles tree registry options =
      reset (settings tree) options.space (StyleContext.ofTree tree options.space).paddingAlign ++
        bareRules tree registry options ++ closing tree registry options := by
  have hnode : nodeRules tree options = fun node ↦
      node.rules ((StyleContext.ofTree tree options.space).within node.place.scope?)
        options.variationStyles [] := by
    funext node
    simp only [nodeRules, hkinds, StyleNode.layoutRules_nil, ite_self]
  simp only [styles, hnode, gapRules_of_isHollow h, bareRules, closing, List.append_assoc]

/-- Hollow nodes have no declaration but that of images. -/
theorem eq_cover_of_mem_bareRules {rule : Rule} (hrule : rule ∈ bareRules tree registry options) :
    ∀ declaration ∈ rule.declarations, declaration = ⟨"background-size", "cover"⟩ := by
  obtain ⟨node, hnode, hmem⟩ := List.mem_flatMap.1 hrule
  exact StyleNode.eq_cover_of_mem_rules _ _ (StyleNode.inherited_of_mem_all inherited_isHollow
    (inherited_branch inherited_isHollow h) hnode) hmem

theorem bareRules_eq_nil_iff :
    bareRules tree registry options = [] ↔
      ∀ node ∈ StyleNode.all tree registry options.skipFilters,
        node.Imageless options.variationStyles := by
  rw [bareRules, List.flatMap_eq_nil_iff]
  refine forall₂_congr fun node hnode ↦ ?_
  have hstyles := StyleNode.inherited_of_mem_all inherited_isHollow
    (inherited_branch inherited_isHollow h) hnode
  rw [StyleNode.rules_eq_nil_iff, (StyleNode.written_of_isHollow _ _ hstyles).2]

end

/-- What is around the nodes is a matter of the settings. -/
theorem SameSettings.closing_eq {a b : Json} (h : SameSettings a b) (registry : Registry)
    (options : CompileOptions) : closing a registry options = closing b registry options := by
  rw [closing, closing, h.supportsBlockGap_eq, h.settingsNodes_eq]

end Stylesheet

/-! ### Texts -/

theorem Rule.text_ne_empty (rule : Rule) : rule.text ≠ "" := by
  intro hempty
  have hlength := congrArg String.length hempty
  simp [text, String.length_append] at hlength

theorem Rule.textOfAll_eq_empty_iff (rules : List Rule) : textOfAll rules = "" ↔ rules = [] := by
  constructor
  · cases rules with
    | nil => exact fun _ ↦ rfl
    | cons rule rest =>
      intro hempty
      rw [← List.singleton_append, textOfAll_append, String.append_eq_empty_iff] at hempty
      have hrule : textOfAll [rule] = rule.text := by simp [textOfAll]
      exact absurd (hrule.symm.trans hempty.1) rule.text_ne_empty
  · rintro rfl
    rfl

/-- Rules in the middle show in the text. -/
theorem Rule.textOfAll_middle_eq_iff (before extra after : List Rule) :
    textOfAll (before ++ extra ++ after) = textOfAll (before ++ after) ↔ extra = [] := by
  rw [textOfAll_append, textOfAll_append, textOfAll_append, String.append_left_inj,
    ← textOfAll_eq_empty_iff]
  constructor
  · intro heq
    have hlength := congrArg String.length heq
    rw [String.length_append] at hlength
    exact String.length_eq_zero_iff.1 (by omega)
  · intro hempty
    rw [hempty, String.append_empty]

/-! ### Sparse emission -/

/-- A tree with empty styles in the place of its own. -/
def Json.withoutStyles (tree : Json) : Json :=
  tree.set ["styles"] (.obj [])

theorem Json.child_withoutStyles (tree : Json) : tree.withoutStyles.child "styles" = .obj [] := by
  rw [withoutStyles, child_set_cons, if_pos rfl, set_nil]

/-- Taking the styles away leaves the settings. -/
theorem Stylesheet.sameSettings_withoutStyles (tree : Json) :
    SameSettings tree.withoutStyles tree :=
  ⟨by rw [withoutStyles, child_set_cons, if_neg (by decide)]⟩

/-- The styles of a hollow tree and of the tree with empty styles differ in the rules of nodes. -/
theorem Stylesheet.styles_withoutStyles {tree : Json} (registry : Registry)
    (options : CompileOptions) (h : (tree.child "styles").isHollow = true)
    (hkinds : LayoutKind.all tree = []) :
    ∃ before after,
      (compile tree registry options).styles =
        before ++ bareRules (withSeparatorColors tree) registry options ++ after ∧
      (compile tree.withoutStyles registry options).styles = before ++ after := by
  have hempty : tree.withoutStyles.child "styles" = .obj [] := tree.child_withoutStyles
  have hhollow : (tree.withoutStyles.child "styles").isHollow = true := by
    simp [hempty, isHollow_obj_iff]
  have himageless : (tree.withoutStyles.child "styles").isImageless = true := by
    simp [hempty, isImageless_obj_iff]
  have hsettings : SameSettings (withSeparatorColors tree.withoutStyles)
      (withSeparatorColors tree) :=
    ⟨(sameSettings_withSeparatorColors _).settings.trans
      ((sameSettings_withoutStyles tree).settings.trans
        (sameSettings_withSeparatorColors tree).settings.symm)⟩
  have hkinds' : LayoutKind.all (withSeparatorColors tree) = [] := by
    rw [(sameSettings_withSeparatorColors tree).layoutKinds_eq, hkinds]
  -- with empty styles no node says anything
  have hbare : bareRules (withSeparatorColors tree.withoutStyles) registry options = [] :=
    (bareRules_eq_nil_iff registry options (isHollow_withSeparatorColors hhollow)).2
      fun node hnode ↦ imageless_of_mem_all (isImageless_withSeparatorColors himageless) hnode _
  refine ⟨_, _, styles_of_isHollow registry options (isHollow_withSeparatorColors h) hkinds', ?_⟩
  show styles (withSeparatorColors tree.withoutStyles) registry options = _
  rw [styles_of_isHollow registry options (isHollow_withSeparatorColors hhollow)
      (hsettings.layoutKinds_eq.trans hkinds'), hbare, List.append_nil, hsettings.settings_eq,
    hsettings.paddingAlign_eq, hsettings.closing_eq]

/-- **Sparse emission.** If the styles of a tree are hollow and there are no layout kinds, its
styles are those of the tree with empty styles and rules among them that say
`background-size: cover` and nothing else. The text is the same exactly if no subtree that is
compiled away from the root has a background image, and that is so if there is no image anywhere in
the styles. -/
theorem compile_of_isHollow {tree : Json} (registry : Registry) (options : CompileOptions)
    (h : (tree.child "styles").isHollow = true) (hkinds : LayoutKind.all tree = []) :
    let sparse := compile tree registry options
    let empty := compile tree.withoutStyles registry options
    (∃ before extra after, sparse.styles = before ++ extra ++ after ∧
      empty.styles = before ++ after ∧ ∀ rule ∈ extra, ∀ declaration ∈ rule.declarations,
        declaration = ⟨"background-size", "cover"⟩) ∧
      (sparse.stylesCss = empty.stylesCss ↔
        ∀ node ∈ StyleNode.all (Stylesheet.withSeparatorColors tree) registry options.skipFilters,
          node.Imageless options.variationStyles) ∧
      ((tree.child "styles").isImageless = true → sparse.stylesCss = empty.stylesCss) := by
  intro sparse empty
  obtain ⟨before, after, hsparse, hempty⟩ :=
    Stylesheet.styles_withoutStyles registry options h hkinds
  have htree := Stylesheet.isHollow_withSeparatorColors h
  have hiff : sparse.stylesCss = empty.stylesCss ↔
      ∀ node ∈ StyleNode.all (Stylesheet.withSeparatorColors tree) registry options.skipFilters,
        node.Imageless options.variationStyles := by
    rw [Bundle.stylesCss, Bundle.stylesCss, hsparse, hempty, Rule.textOfAll_middle_eq_iff,
      Stylesheet.bareRules_eq_nil_iff registry options htree]
  refine ⟨⟨before, _, after, hsparse, hempty, fun rule hrule ↦
    Stylesheet.eq_cover_of_mem_bareRules registry options htree hrule⟩, hiff, fun himageless ↦ ?_⟩
  exact hiff.2 fun node hnode ↦ Stylesheet.imageless_of_mem_all
    (Stylesheet.isImageless_withSeparatorColors himageless) hnode _

/-- A tree whose styles have branches of many kinds, all of them without values; the root has an
image, which is not given a size. -/
def treeWithBranches : Json :=
  .obj [("settings", .obj [("spacing", .obj [("blockGap", .null)])]),
    ("styles", .obj [("background", .obj [("backgroundImage", .obj [])]), ("color", .null),
      ("elements", .obj [("link", .obj [(":hover", .obj [("color", .obj [("text", .null)])])])]),
      ("blocks", .obj [("core/image", .obj [("filter", .obj [("duotone", .obj [])]),
        ("border", .obj [("color", .obj [])]), ("spacing", .obj [("blockGap", .obj [])]),
        ("variations", .obj
          [("rounded", .obj [("background", .obj [("backgroundImage", .null)])])])])])])]

/-- The registry of an image, with a feature, a variation and a filter of its own. -/
def registryOfImage : Registry :=
  [("core/image", { BlockSelectors.ofSelector ".image" with
    duotoneSelector := some ".image img"
    featureSelectors := [("border", .split [("color", ".image img")])]
    variationSelectors := [("rounded", ".image.is-style-rounded")] })]

/-- Its styles are those of a tree with empty styles. -/
theorem compile_of_isHollow_branches :
    (treeWithBranches.child "styles").isHollow = true ∧ LayoutKind.all treeWithBranches = [] ∧
      (compile treeWithBranches registryOfImage .standard).stylesCss =
        (compile treeWithBranches.withoutStyles registryOfImage .standard).stylesCss := by
  have hhollow : (treeWithBranches.child "styles").isHollow = true := by decide +kernel
  have hkinds : LayoutKind.all treeWithBranches = [] := by
    simp [LayoutKind.all, treeWithBranches, get?, member?, Entries.get?, entries]
  refine ⟨hhollow, hkinds, ?_⟩
  exact (compile_of_isHollow registryOfImage .standard hhollow hkinds).2.1.2 (by decide +kernel)

/-- A tree with a block whose image is an empty object. -/
def treeWithEmptyImage : Json :=
  .obj [("styles", .obj [("blocks", .obj [("core/image", .obj
    [("background", .obj [("backgroundImage", .obj [])])])])])]

/-- **Not every branch without values is silent.** An image that is an empty object has no address,
so there is no image to be seen; the block is given a size for it all the same. -/
theorem compile_ne_of_empty_image :
    (treeWithEmptyImage.child "styles").isHollow = true ∧
      LayoutKind.all treeWithEmptyImage = [] ∧
      Rule.mk ".image" [⟨"background-size", "cover"⟩] .terminated ∈
        (compile treeWithEmptyImage registryOfImage .standard).styles ∧
      (compile treeWithEmptyImage registryOfImage .standard).stylesCss ≠
        (compile treeWithEmptyImage.withoutStyles registryOfImage .standard).stylesCss := by
  refine ⟨by decide +kernel, ?_, by decide +kernel, by decide +kernel⟩
  simp [LayoutKind.all, treeWithEmptyImage, get?, member?, Entries.get?, entries]

end GlobalStyles
