import GlobalStyles.Proofs.Node.Style
import GlobalStyles.Proofs.Stylesheet.Node
import GlobalStyles.Stylesheet.Compile

/-!
# Trees that compile alike

Two trees with the same settings whose styles agree compile to the same rules and the same text of
the author's CSS, provided that what is walked through stands in the same order
(`Stylesheet.TreesAlike`). This holds of the tree after separator colours were filled in; that step
keeps agreement as well, and it may change the order of the members of one category only, which
nobody walks through (`Stylesheet.inOrder_withSeparatorColors`).
-/

namespace GlobalStyles

open Json

/-! ### Branches -/

/-- The blocks that have settings, in the order of the tree. -/
theorem SettingsNode.blocks_eq_entries (tree : Json) :
    blocks tree = ((tree.child "settings").child "blocks").entries := by
  rw [blocks, get?_cons, entries_get?]

namespace StyleNode

/-- A tree without styles has the branch of one with empty styles. -/
theorem child_branch (tree : Json) (key : String) :
    (branch tree).child key = (tree.child "styles").child key := by
  rw [branch, get?_eq_down, down_cons, down_nil]
  split <;> rename_i h
  · rw [(isNull_eq_true_iff _).1 h]
    rfl
  · rfl

theorem wellFormed_branch {tree : Json} (h : tree.WellFormed) : (branch tree).WellFormed := by
  rw [branch]
  rcases hget : tree.get? ["styles"] with _ | styles
  · exact ⟨List.nodup_nil, trivial⟩
  · exact wellFormed_of_get? h hget

theorem agree_branch {a b : Json} (h : a.Agree b) : (branch a).Agree (branch b) := by
  rw [branch, branch]
  rcases h.get?_cases ["styles"] with ⟨hnone, hnone'⟩ | ⟨v, w, hsome, hsome', hvalue⟩
  · rw [hnone, hnone']
  · rw [hsome, hsome']
    exact hvalue

end StyleNode

namespace Stylesheet

open StyleNode (branch BranchesAlike ReadAlike)

/-! ### Settings -/

/-- Two trees with the same settings. -/
structure SameSettings (a b : Json) : Prop where
  settings : a.child "settings" = b.child "settings"

namespace SameSettings

variable {a b : Json} (h : SameSettings a b)
include h

/-- What is found inside the settings, a `null` among it. -/
theorem find?_settings (key : String) (path : List String) :
    a.find? ("settings" :: key :: path) = b.find? ("settings" :: key :: path) := by
  rw [find?_cons_cons, find?_cons_cons, h.settings]

theorem get?_settings (path : List String) :
    a.get? ("settings" :: path) = b.get? ("settings" :: path) := by
  rw [get?_cons, get?_cons, h.settings]

/-- Block gaps are supported in both trees or in neither. -/
theorem supportsBlockGap_eq (options : CompileOptions) :
    supportsBlockGap a options = supportsBlockGap b options := by
  rw [supportsBlockGap, supportsBlockGap, h.find?_settings]

theorem layoutKinds_eq : LayoutKind.all a = LayoutKind.all b := by
  rw [LayoutKind.all, LayoutKind.all, h.get?_settings]

/-- The settings are the same, and the same are missing. -/
theorem settings_eq : Stylesheet.settings a = Stylesheet.settings b := by
  rw [Stylesheet.settings, Stylesheet.settings, h.get?_settings]

theorem settingsNodes_eq (registry : Registry) :
    SettingsNode.all a registry = SettingsNode.all b registry := by
  simp only [SettingsNode.all, SettingsNode.blocks, h.get?_settings]

theorem settingsDiagnostics_eq (registry : Registry) :
    SettingsNode.diagnostics a registry = SettingsNode.diagnostics b registry := by
  simp only [SettingsNode.diagnostics, SettingsNode.blocks, h.get?_settings]

/-- Whether the padding of the root goes into custom properties is a setting. -/
theorem paddingAlign_eq (space : String) :
    (StyleContext.ofTree a space).paddingAlign = (StyleContext.ofTree b space).paddingAlign := by
  simp only [StyleContext.ofTree, h.get?_settings]

/-- Declarations see no more of a tree than its settings. -/
theorem declare_eq (space : String) (scope : Option String) :
    ((StyleContext.ofTree a space).within scope).declare =
      ((StyleContext.ofTree b space).within scope).declare := by
  have hsettings : ((StyleContext.ofTree a space).within scope).settings? =
      ((StyleContext.ofTree b space).within scope).settings? := h.get?_settings []
  have hfluid : ((StyleContext.ofTree a space).within scope).fluid =
      ((StyleContext.ofTree b space).within scope).fluid := by
    rw [StyleContext.fluid, StyleContext.fluid, hsettings]
  funext entry
  rw [StyleContext.declare, StyleContext.declare, hfluid]
  rfl

end SameSettings

/-- Two trees with the same settings, whose styles agree and have what is walked through in the same
order. -/
structure TreesAlike (a b : Json) : Prop extends SameSettings a b where
  agree : a.Agree b
  branches : BranchesAlike (branch a) (branch b)

namespace TreesAlike

variable {a b : Json} (h : TreesAlike a b)
include h

/-! ### Nodes -/

/-- Two trees that are alike are contexts that match, in every scope. -/
theorem matches_ofTree (space : String) (scope : Option String) :
    ((StyleContext.ofTree a space).within scope).Matches
      ((StyleContext.ofTree b space).within scope) where
  space := rfl
  scope := rfl
  paddingAlign := h.paddingAlign_eq space
  settings := h.get?_settings []
  placeText _ := h.agree.bind_get?_eq _ fun _ _ hvalue ↦ hvalue.css?_eq

/-- Rules do not tell agreeing subtrees apart. -/
theorem readAlike_nodeRules (options : CompileOptions) :
    ReadAlike (nodeRules a options) (nodeRules b options) where
  picked node x y hxy hx hy hkeys hkeys' := by
    simp only [nodeRules, h.layoutKinds_eq, h.supportsBlockGap_eq, node.layoutRules_congr hxy]
    have hparts := NodeParts.alike_of_picked (h.matches_ofTree options.space node.place.scope?) hxy
      hx hy options.variationStyles node
      (fun key hmem ↦ NodeParts.isPseudo_of_mem_pickedKeys (hkeys hmem))
      (fun key hmem ↦ NodeParts.isPseudo_of_mem_pickedKeys (hkeys' hmem))
    refine StyleNode.rules_congr (h.matches_ofTree options.space node.place.scope?) ?_ hparts ?_ _
    · rfl
    · rfl
  plain {place} selector x y hplace hxy hx hy horder := by
    simp only [nodeRules, StyleNode.layoutRules_plain hplace]
    have hparts := NodeParts.alike_of_plain (h.matches_ofTree options.space place.scope?) hxy hx hy
      options.variationStyles place selector horder
    refine StyleNode.rules_congr (h.matches_ofTree options.space place.scope?) ?_ hparts ?_ _
    · rfl
    · rfl
  empty selector styles hplace hempty := by
    simp only [nodeRules, StyleNode.layoutRules_plain hplace, ite_self]
    exact ⟨StyleNode.rules_plain_eq_nil hplace selector hempty _ _,
      StyleNode.rules_plain_eq_nil hplace selector hempty _ _⟩

/-- Nor do reports. -/
theorem readAlike_nodeDiagnostics (options : CompileOptions) :
    ReadAlike (nodeDiagnostics a options) (nodeDiagnostics b options) where
  picked node x y hxy hx hy hkeys hkeys' := by
    have hparts := NodeParts.alike_of_picked (h.matches_ofTree options.space node.place.scope?) hxy
      hx hy options.variationStyles node
      (fun key hmem ↦ NodeParts.isPseudo_of_mem_pickedKeys (hkeys hmem))
      (fun key hmem ↦ NodeParts.isPseudo_of_mem_pickedKeys (hkeys' hmem))
    refine StyleNode.styleDiagnostics_congr
      (h.matches_ofTree options.space node.place.scope?) ?_ hparts
    rfl
  plain {place} selector x y _ hxy hx hy horder := by
    have hparts := NodeParts.alike_of_plain (h.matches_ofTree options.space place.scope?) hxy hx hy
      options.variationStyles place selector horder
    refine StyleNode.styleDiagnostics_congr
      (h.matches_ofTree options.space place.scope?) ?_ hparts
    rfl
  empty selector styles hplace hempty :=
    ⟨StyleNode.styleDiagnostics_plain_eq_nil hplace selector hempty _ _,
      StyleNode.styleDiagnostics_plain_eq_nil hplace selector hempty _ _⟩

/-! ### Parts of the bundle -/

/-- The margins of block gaps are those of a gap, which stands at the root. -/
theorem gapRules_eq (options : CompileOptions) : gapRules a options = gapRules b options := by
  rw [gapRules, gapRules, h.supportsBlockGap_eq,
    h.agree.bind_get?_eq ["styles", "spacing", "blockGap"]
      fun _ _ hvalue ↦ GapSupport.css?_congr hvalue options.space]

/-- **Trees that are alike have the same styles**, as long as filters are not skipped. -/
theorem styles_eq (registry : Registry) {options : CompileOptions}
    (hoptions : options.skipFilters = false) :
    styles a registry options = styles b registry options := by
  have hnodes := StyleNode.flatMap_all_congr (h.readAlike_nodeRules options) registry h.branches
  rw [styles, styles, hoptions, h.settings_eq, h.paddingAlign_eq, hnodes, h.gapRules_eq,
    h.settingsNodes_eq]

/-- Blocks without a value have no CSS. -/
theorem customCss_eq (registry : Registry) : customCss a registry = customCss b registry := by
  have hblocks : String.join ((StyleNode.blocks a).map (blockCss registry)) =
      String.join ((StyleNode.blocks b).map (blockCss registry)) := by
    rw [← String.toList_inj, String.toList_join, String.toList_join, List.flatMap_map,
      List.flatMap_map, StyleNode.blocks_eq_entries, StyleNode.blocks_eq_entries,
      flatMap_live _ fun _ ↦ rfl, flatMap_live _ fun _ ↦ rfl]
    have hlive := forall₂_live (wellFormed_child h.branches.wellFormed "blocks")
      (wellFormed_child h.branches.wellFormed' "blocks") h.branches.blocks
    refine flatMap_eq_of_forall₂ ?_ hlive
    rintro ⟨scope, x⟩ ⟨_, y⟩ ⟨rfl, hx, hy⟩
    obtain rfl : x = ((branch a).child "blocks").child scope := hx
    obtain rfl : y = ((branch b).child "blocks").child scope := hy
    have hagree := (h.branches.agree.child "blocks").child scope
    rw [blockCss, blockCss, hagree.bind_get?_eq ["css"] fun _ _ hvalue ↦ hvalue.text?_eq]
  rw [customCss, customCss, hblocks,
    h.agree.bind_get?_eq ["styles", "css"] fun _ _ hvalue ↦ hvalue.text?_eq]

end TreesAlike

/-! ### Nodes in a stylesheet -/

/-- The rules of a node stand together in the styles. -/
theorem nodeRules_together {tree : Json} {registry : Registry} {options : CompileOptions}
    {node : StyleNode} (h : node ∈ StyleNode.all tree registry options.skipFilters) :
    nodeRules tree options node <:+: styles tree registry options := by
  obtain ⟨before, after, hnodes⟩ := List.append_of_mem h
  rw [styles, hnodes, List.flatMap_append, List.flatMap_cons]
  simp only [List.append_assoc]
  exact (List.prefix_append _ _).isInfix.trans (((List.suffix_append _ _).trans
    (List.suffix_append _ _)).isInfix)

/-! ### Separator colours -/

/-- The path of the colours of the separator block. -/
def separatorColors : List String :=
  ["styles", "blocks", separatorScope, "color"]

/-- A colour of the separator block, by the keys that lead to it. -/
def separatorColor? (tree : Json) (keys : List String) : Option Json :=
  (tree.get? (["styles", "blocks", separatorScope] ++ keys)).filter isTruthy

/-- The background that a separator draws its line in, if it does. -/
def separatorLine? (tree : Json) : Option Json :=
  if (separatorColor? tree ["color", "text"]).isSome ||
      (separatorColor? tree ["border", "color"]).isSome then
    none
  else separatorColor? tree ["color", "background"]

/-- A tree with the colours of its separator is the tree with its line drawn. -/
theorem withSeparatorColors_eq (tree : Json) :
    withSeparatorColors tree =
      match separatorLine? tree with
      | none => tree
      | some line => tree.set (separatorColors ++ ["text"]) line := by
  rw [separatorLine?]
  show (match separatorColor? tree ["color", "background"] with
    | none => tree
    | some background =>
      if (separatorColor? tree ["color", "text"]).isSome ||
          (separatorColor? tree ["border", "color"]).isSome then
        tree
      else tree.set (separatorColors ++ ["text"]) background) = _
  cases (separatorColor? tree ["color", "text"]).isSome ||
    (separatorColor? tree ["border", "color"]).isSome
  · rfl
  · cases separatorColor? tree ["color", "background"] <;> rfl

/-- The context of the nodes of a scope, once separator colours were filled in. -/
def contextOf (tree : Json) (options : CompileOptions) (scope : Option String) : StyleContext :=
  (StyleContext.ofTree (withSeparatorColors tree) options.space).within scope

/-- The line is the background that stands there. -/
theorem get?_of_separatorLine? {tree line : Json} (h : separatorLine? tree = some line) :
    tree.get? (separatorColors ++ ["background"]) = some line := by
  rw [separatorLine?] at h
  split at h
  · cases h
  · exact (Option.filter_eq_some_iff.1 h).1

/-- A line is drawn only over colours that are an object. -/
theorem isObject_of_separatorLine? {tree line : Json} (h : separatorLine? tree = some line) :
    (tree.down separatorColors).isObject := by
  have hget := get?_of_separatorLine? h
  by_contra hobject
  rw [get?_eq_down, down_append, down_cons,
    child_of_not_isObject (Bool.not_eq_true _ ▸ hobject)] at hget
  cases hget

/-- Trees that agree draw the line in colours that agree, or neither draws it. -/
theorem separatorLine?_cases {a b : Json} (h : a.Agree b) :
    (separatorLine? a = none ∧ separatorLine? b = none) ∨
      ∃ v w, separatorLine? a = some v ∧ separatorLine? b = some w ∧ v.Agree w := by
  have hcolor (keys : List String) :
      (separatorColor? a keys = none ∧ separatorColor? b keys = none) ∨
        ∃ v w, separatorColor? a keys = some v ∧ separatorColor? b keys = some w ∧ v.Agree w := by
    rw [separatorColor?, separatorColor?]
    rcases h.get?_cases (["styles", "blocks", separatorScope] ++ keys) with
      ⟨hnone, hnone'⟩ | ⟨v, w, hsome, hsome', hvalue⟩
    · exact .inl ⟨by rw [hnone]; rfl, by rw [hnone']; rfl⟩
    · rw [hsome, hsome', Option.filter_some, Option.filter_some, hvalue.isTruthy_eq]
      split
      · exact .inr ⟨v, w, rfl, rfl, hvalue⟩
      · exact .inl ⟨rfl, rfl⟩
  have hsome (keys : List String) :
      (separatorColor? a keys).isSome = (separatorColor? b keys).isSome := by
    rcases hcolor keys with ⟨hnone, hnone'⟩ | ⟨v, w, hsome, hsome', -⟩
    · rw [hnone, hnone']
    · rw [hsome, hsome']
      rfl
  rw [separatorLine?, separatorLine?, hsome, hsome]
  split
  · exact .inl ⟨rfl, rfl⟩
  · exact hcolor ["color", "background"]

/-- Filling in the colour of separators does not touch the settings. -/
theorem member?_withSeparatorColors (tree : Json) :
    (withSeparatorColors tree).member? "settings" = tree.member? "settings" := by
  rw [withSeparatorColors_eq]
  split
  · rfl
  · exact Entries.get?_put_of_ne _ _ (by decide)

theorem wellFormed_withSeparatorColors {tree : Json} (h : tree.WellFormed) :
    (withSeparatorColors tree).WellFormed := by
  rw [withSeparatorColors_eq]
  split <;> rename_i hline
  · exact h
  · exact wellFormed_set h (wellFormed_of_get? h (get?_of_separatorLine? hline)) _

section

variable {a b : Json} (h : a.Agree b)
include h

/-- Trees that agree do so after their lines are drawn. -/
theorem agree_withSeparatorColors : (withSeparatorColors a).Agree (withSeparatorColors b) := by
  rw [withSeparatorColors_eq, withSeparatorColors_eq]
  rcases separatorLine?_cases h with ⟨hnone, hnone'⟩ | ⟨v, w, hsome, hsome', hvalue⟩
  · rw [hnone, hnone']
    exact h
  · rw [hsome, hsome']
    exact h.set _ hvalue

/-- The order of members changes at most among the colours of the separator block. -/
theorem inOrder_withSeparatorColors (horder : ∀ path, a.InOrder b path) {path : List String}
    (hne : path ≠ separatorColors) :
    (withSeparatorColors a).InOrder (withSeparatorColors b) path := by
  rw [withSeparatorColors_eq, withSeparatorColors_eq]
  rcases separatorLine?_cases h with ⟨hnone, hnone'⟩ | ⟨v, w, hsome, hsome', hvalue⟩
  · rw [hnone, hnone']
    exact horder path
  · rw [hsome, hsome']
    -- the line is a copy of the background, so it is in order as the trees themselves are
    refine inOrder_set horder h (fun inner ↦ ?_) (isObject_of_separatorLine? hsome) "text" hne
    have hline {tree line : Json} (hline : separatorLine? tree = some line) :
        line = tree.down (separatorColors ++ ["background"]) := by
      have hget := get?_of_separatorLine? hline
      rw [get?_eq_down] at hget
      split at hget
      · cases hget
      · exact (Option.some.inj hget).symm
    have hinner := horder (separatorColors ++ ["background"] ++ inner)
    rwa [InOrder, down_append, down_append _ (separatorColors ++ ["background"]), ← hline hsome,
      ← hline hsome'] at hinner

/-- Trees that agree, have the same settings and have everything in the same order compile alike. -/
theorem treesAlike_withSeparatorColors (ha : a.WellFormed) (hb : b.WellFormed)
    (hsettings : a.member? "settings" = b.member? "settings")
    (horder : ∀ path, a.InOrder b path) :
    TreesAlike (withSeparatorColors a) (withSeparatorColors b) := by
  have hagree := agree_withSeparatorColors h
  have hbranch {path : List String} {key : String}
      (hne : "styles" :: key :: path ≠ separatorColors) :
      (branch (withSeparatorColors a)).InOrder (branch (withSeparatorColors b)) (key :: path) := by
    have hpath := inOrder_withSeparatorColors h horder hne
    rwa [InOrder, down_cons, down_cons, down_cons, down_cons, ← StyleNode.child_branch,
      ← StyleNode.child_branch] at hpath
  refine ⟨⟨?_⟩, hagree, StyleNode.agree_branch hagree,
    StyleNode.wellFormed_branch (wellFormed_withSeparatorColors ha),
    StyleNode.wellFormed_branch (wellFormed_withSeparatorColors hb), ?_, ?_, ?_, ?_⟩
  · rw [child, child, member?_withSeparatorColors, member?_withSeparatorColors, hsettings]
  all_goals
    intros
    exact hbranch (by simp [separatorColors])

end

end Stylesheet

end GlobalStyles
