import GlobalStyles.Proofs.Json.Modify
import GlobalStyles.Proofs.Stylesheet.Nulls

/-!
# Trees without a scope

`Json.withoutScope` takes a scope out of the blocks of the styles and of those of the settings. The
order of everything else stays. What a compilation reads of a tree are its two branches, and it
reads a branch in two ways: along paths that do not lead to the blocks, and through the list of its
blocks. The first way does not see that a block is gone, and in the second the block is missing from
the list. So a scope that is not looked for among the blocks leaves every reading as it was.

Filling in the colour of separators writes into one block, so it commutes with taking a scope out,
and does nothing to a tree without separators (`Stylesheet.withSeparatorColors_withoutScope`).
-/

namespace GlobalStyles

namespace Json

/-- A branch of a tree without a scope among its blocks. -/
def withoutBlock (scope : String) (branch : Json) : Json :=
  branch.modify (erase scope) ["blocks"]

/-- A tree without a scope: it is taken out of the blocks of the styles and of the settings. -/
def withoutScope (scope : String) (tree : Json) : Json :=
  (tree.modify (withoutBlock scope) ["styles"]).modify (withoutBlock scope) ["settings"]

/-! ### Branches -/

variable {scope : String}

/-- A branch looks the same without one of its blocks. -/
theorem surface_withoutBlock (branch : Json) :
    (branch.withoutBlock scope).surface = branch.surface :=
  surface_modify (surface_erase scope) ["blocks"] branch

/-- Of its members only the blocks change. -/
theorem child_withoutBlock (key : String) (branch : Json) :
    (branch.withoutBlock scope).child key =
      if key = "blocks" then (branch.child "blocks").erase scope else branch.child key :=
  child_modify rfl "blocks" key branch

/-- A path that does not lead to the blocks does not see that one is gone. -/
theorem find?_withoutBlock {key : String} (h : key ≠ "blocks") (path : List String)
    (branch : Json) :
    (branch.withoutBlock scope).find? (key :: path) = branch.find? (key :: path) := by
  rw [find?_cons, find?_cons, withoutBlock, member?_modify, if_neg h]

/-- What is read outside the blocks. -/
theorem get?_withoutBlock {key : String} (h : key ≠ "blocks") (path : List String)
    (branch : Json) :
    (branch.withoutBlock scope).get? (key :: path) = branch.get? (key :: path) := by
  rw [get?, get?, find?_withoutBlock h]

/-- Nor does a path into another block. -/
theorem get?_withoutBlock_of_ne {name : String} (h : name ≠ scope) (path : List String)
    (branch : Json) :
    (branch.withoutBlock scope).get? ("blocks" :: name :: path) =
      branch.get? ("blocks" :: name :: path) := by
  rw [get?_cons, get?_cons, get?_cons, get?_cons, child_withoutBlock, if_pos rfl, child_erase,
    if_neg h]

/-- Erasing a member keeps the others in order. -/
theorem entries_erase (tree : Json) :
    (tree.erase scope).entries = tree.entries.filter fun entry ↦ entry.1 ≠ scope := by
  cases tree <;> rfl

/-- The list of blocks is shorter by the scope. -/
theorem entries_blocks_withoutBlock (branch : Json) :
    ((branch.withoutBlock scope).child "blocks").entries =
      (branch.child "blocks").entries.filter fun entry ↦ entry.1 ≠ scope := by
  rw [child_withoutBlock, if_pos rfl, entries_erase]

/-- A choice of members that never takes the blocks takes the same. -/
theorem filter_entries_withoutBlock {p : String × Json → Bool}
    (h : ∀ value, p ("blocks", value) = false) (branch : Json) :
    (branch.withoutBlock scope).entries.filter p = branch.entries.filter p :=
  filter_entries_modify h [] branch

/-! ### Trees -/

/-- The styles lose the block. -/
theorem get?_styles_withoutScope (tree : Json) :
    (tree.withoutScope scope).get? ["styles"] =
      (tree.get? ["styles"]).map (withoutBlock scope) := by
  rw [withoutScope, get?_modify_of_diverge (by decide) (by decide)]
  exact get?_modify_append surface_withoutBlock tree ["styles"] []

theorem get?_settings_withoutScope (tree : Json) :
    (tree.withoutScope scope).get? ["settings"] =
      (tree.get? ["settings"]).map (withoutBlock scope) := by
  have hstyles : (tree.modify (withoutBlock scope) ["styles"]).get? ["settings"] =
      tree.get? ["settings"] := get?_modify_of_diverge (by decide) (by decide) tree
  rw [← hstyles]
  exact get?_modify_append surface_withoutBlock _ ["settings"] []

theorem child_styles_withoutScope (tree : Json) :
    (tree.withoutScope scope).child "styles" = (tree.child "styles").withoutBlock scope := by
  rw [withoutScope, child_modify rfl, if_neg (by decide), child_modify rfl, if_pos rfl]

theorem child_settings_withoutScope (tree : Json) :
    (tree.withoutScope scope).child "settings" = (tree.child "settings").withoutBlock scope := by
  rw [withoutScope, child_modify rfl, if_pos rfl, child_modify rfl, if_neg (by decide)]

/-- What does not lead to the blocks of a branch is read as before. -/
theorem get?_styles_withoutScope_of_ne {key : String} (h : key ≠ "blocks") (path : List String)
    (tree : Json) :
    (tree.withoutScope scope).get? ("styles" :: key :: path) =
      tree.get? ("styles" :: key :: path) := by
  rw [get?_cons, child_styles_withoutScope, get?_withoutBlock h, get?_cons tree]

/-- What is read in the settings outside the blocks. -/
theorem get?_settings_withoutScope_of_ne {key : String} (h : key ≠ "blocks") (path : List String)
    (tree : Json) :
    (tree.withoutScope scope).get? ("settings" :: key :: path) =
      tree.get? ("settings" :: key :: path) := by
  rw [get?_cons, child_settings_withoutScope, get?_withoutBlock h, get?_cons tree]

end Json

open Json

/-! ### Settings -/

section Settings

variable {scope : String} (settings : Json)

/-- The typography is not part of a block. -/
theorem FluidOptions.ofSettings_withoutBlock :
    ofSettings (settings.withoutBlock scope) = ofSettings settings := by
  rw [ofSettings, ofSettings, get?_withoutBlock (by decide), get?_withoutBlock (by decide)]

/-- The global sizes are not part of a block. -/
theorem Stylesheet.reset_withoutBlock (space : String) (paddingAlign : Bool) :
    reset (settings.withoutBlock scope) space paddingAlign = reset settings space paddingAlign := by
  have hsizes : globalSizes (settings.withoutBlock scope) space = globalSizes settings space := by
    simp only [globalSizes, get?_withoutBlock (show "layout" ≠ "blocks" by decide)]
  rw [reset, reset, hsizes]

namespace PresetCategory

/-- The catalogs of a category stand in a branch and not in its blocks. -/
theorem get?_path_withoutBlock (category : PresetCategory) :
    (settings.withoutBlock scope).get? category.path = settings.get? category.path := by
  cases category <;> exact get?_withoutBlock (by decide) _ settings

/-- The catalogs of the root stay. -/
theorem catalog_withoutBlock (category : PresetCategory) (origin : Origin) :
    category.catalog (settings.withoutBlock scope) origin = category.catalog settings origin := by
  have hpath : (settings.withoutBlock scope).get? (category.path ++ [origin.key]) =
      settings.get? (category.path ++ [origin.key]) := by
    cases category <;> exact get?_withoutBlock (by decide) _ settings
  rw [catalog, catalog, catalog?, catalog?, hpath]

end PresetCategory

theorem SettingsNode.ofSettings?_withoutBlock (owner : Option String) (selector : String) :
    ofSettings? (settings.withoutBlock scope) owner selector =
      ofSettings? settings owner selector := by
  have hpresets : pickPresets (settings.withoutBlock scope) = pickPresets settings := by
    simp only [pickPresets, PresetCategory.get?_path_withoutBlock]
  rw [ofSettings?, ofSettings?, hpresets, get?_withoutBlock (by decide)]

theorem SettingsNode.customProperties_withoutBlock (node : SettingsNode) (space : String) :
    node.customProperties (settings.withoutBlock scope) space =
      node.customProperties settings space := by
  have hcss (category : PresetCategory) (item : Json) :
      Preset.css? category item (settings.withoutBlock scope) space =
        Preset.css? category item settings space := by
    cases category <;> simp only [Preset.css?, FluidOptions.ofSettings_withoutBlock]
  have hdeclaration (category : PresetCategory) :
      Preset.declaration? category (settings.withoutBlock scope) space =
        Preset.declaration? category settings space := by
    funext item
    simp only [Preset.declaration?, hcss]
  simp only [customProperties, declarations, Preset.declarations, hdeclaration]

/-- Presets are looked for in the branch itself and in the block that asks. -/
theorem Reference.presetExists_withoutBlock {owner : Option String} (h : owner ≠ some scope)
    (text space : String) :
    presetExists (settings.withoutBlock scope) owner text space =
      presetExists settings owner text space := by
  have hcandidates (category : PresetCategory) :
      Preset.candidates category (settings.withoutBlock scope) owner =
        Preset.candidates category settings owner := by
    have hsources : (owner.bind fun name ↦ (settings.withoutBlock scope).get? ["blocks", name]) =
        owner.bind fun name ↦ settings.get? ["blocks", name] := by
      rcases owner with _ | name
      · rfl
      · exact get?_withoutBlock_of_ne (fun heq ↦ h (congrArg some heq)) [] settings
    simp only [Preset.candidates, Preset.sources, hsources, List.flatMap_append,
      List.flatMap_singleton, PresetCategory.catalog_withoutBlock]
  simp only [presetExists, Preset.bySlug?, hcandidates]

end Settings

/-! ### The whole tree -/

section Tree

variable {scope : String} (tree : Json)

/-- The settings of the tree without the scope. -/
theorem Stylesheet.settings_withoutScope :
    settings (tree.withoutScope scope) = (settings tree).withoutBlock scope := by
  rw [settings, settings, get?_settings_withoutScope]
  cases tree.get? ["settings"] <;> rfl

/-- Whether block gaps are supported is no matter of a block. -/
theorem Stylesheet.supportsBlockGap_withoutScope (options : CompileOptions) :
    supportsBlockGap (tree.withoutScope scope) options = supportsBlockGap tree options := by
  have hgap : (tree.withoutScope scope).find? ["settings", "spacing", "blockGap"] =
      tree.find? ["settings", "spacing", "blockGap"] := by
    rw [find?_cons, find?_cons, withoutScope, member?_modify, if_pos rfl, member?_modify,
      if_neg (by decide), Option.bind_map]
    congr 1
    funext settings
    exact find?_withoutBlock (by decide) _ settings
  rw [supportsBlockGap, supportsBlockGap, hgap]

theorem LayoutKind.all_withoutScope : all (tree.withoutScope scope) = all tree := by
  rw [all, all, get?_settings_withoutScope_of_ne (by decide)]

theorem StyleContext.paddingAlign_withoutScope (space : String) :
    (ofTree (tree.withoutScope scope) space).paddingAlign = (ofTree tree space).paddingAlign := by
  rw [ofTree, ofTree, get?_settings_withoutScope_of_ne (by decide)]

theorem Stylesheet.gapRules_withoutScope (options : CompileOptions) :
    gapRules (tree.withoutScope scope) options = gapRules tree options := by
  rw [gapRules, gapRules, supportsBlockGap_withoutScope, get?_cons tree, get?_cons,
    child_styles_withoutScope, get?_withoutBlock (by decide)]

/-! ### Nodes -/

/-- A list of blocks without one that nothing is made of. -/
theorem flatMap_filter_ne {α : Type} {read : String × Json → List α}
    (h : ∀ value, read (scope, value) = []) (blocks : Fields) :
    (blocks.filter fun entry ↦ entry.1 ≠ scope).flatMap read = blocks.flatMap read := by
  induction blocks with
  | nil => rfl
  | cons block rest ih =>
    obtain ⟨name, value⟩ := block
    rw [List.filter_cons, List.flatMap_cons]
    split <;> rename_i hname
    · rw [List.flatMap_cons, ih]
    · have heq : name = scope := by simpa using hname
      rw [ih, heq, h value, List.nil_append]

/-- The styles that nodes are made of lose the block. -/
theorem StyleNode.branch_withoutScope :
    branch (tree.withoutScope scope) = (branch tree).withoutBlock scope := by
  rw [branch, branch, get?_styles_withoutScope]
  cases tree.get? ["styles"] <;> rfl

/-- The other blocks keep their order. -/
theorem StyleNode.blocks_withoutScope :
    blocks (tree.withoutScope scope) = (blocks tree).filter fun entry ↦ entry.1 ≠ scope := by
  rw [blocks_eq_entries, blocks_eq_entries, branch_withoutScope, entries_blocks_withoutBlock]

theorem SettingsNode.blocks_withoutScope :
    blocks (tree.withoutScope scope) = (blocks tree).filter fun entry ↦ entry.1 ≠ scope := by
  rw [blocks_eq_entries, blocks_eq_entries, child_settings_withoutScope,
    entries_blocks_withoutBlock]

/-- What is picked without the blocks stays. -/
theorem StyleNode.pick_withoutBlock {keys : List String} (h : keys.contains "blocks" = false)
    (skipFilters : Bool) (styles : Json) :
    pick keys skipFilters (styles.withoutBlock scope) = pick keys skipFilters styles := by
  rw [pick, pick, filter_entries_withoutBlock fun value ↦ by simp only [h, Bool.and_false,
    Bool.false_and]]

/-- A scope that the registry does not know gives no style nodes. -/
theorem StyleNode.all_withoutScope {registry : Registry}
    (h : Entries.get? registry scope = none) (skipFilters : Bool) :
    all (tree.withoutScope scope) registry skipFilters = all tree registry skipFilters := by
  have hroot : root ((branch tree).withoutBlock scope) skipFilters =
      root (branch tree) skipFilters := by
    rw [root, root, pick_withoutBlock (by decide)]
  have helement : rootElement? ((branch tree).withoutBlock scope) skipFilters =
      rootElement? (branch tree) skipFilters := by
    funext element
    simp only [rootElement?, get?_withoutBlock (show "elements" ≠ "blocks" by decide)]
  have hblock (value : Json) : ofBlock registry skipFilters (scope, value) = [] := by
    rw [ofBlock, h]
  rw [all, all, branch_withoutScope, hroot, helement, blocks_withoutScope,
    flatMap_filter_ne hblock]

/-- Nor does it give a settings node. -/
theorem SettingsNode.all_withoutScope {registry : Registry}
    (h : Entries.get? registry scope = none) :
    all (tree.withoutScope scope) registry = all tree registry := by
  have hblock (value : Json) : (ofBlock? registry (scope, value)).toList = [] := by
    rw [ofBlock?, h]
    rfl
  rw [all, all, get?_settings_withoutScope, blocks_withoutScope]
  rcases tree.get? ["settings"] with _ | settings
  · rfl
  · simp only [Option.map_some, ofSettings?_withoutBlock, List.filterMap_eq_flatMap_toList]
    rw [flatMap_filter_ne hblock]

/-- Nor has it CSS of its own. -/
theorem Stylesheet.customCss_withoutScope {registry : Registry}
    (h : Entries.get? registry scope = none) :
    customCss (tree.withoutScope scope) registry = customCss tree registry := by
  have hcss (value : Json) : (blockCss registry (scope, value)).toList = [] := by
    rw [blockCss, h]
    cases (value.get? ["css"]).bind Json.text? <;> rfl
  have hblocks :
      String.join ((StyleNode.blocks (tree.withoutScope scope)).map (blockCss registry)) =
        String.join ((StyleNode.blocks tree).map (blockCss registry)) := by
    rw [← String.toList_inj, String.toList_join, String.toList_join, List.flatMap_map,
      List.flatMap_map, StyleNode.blocks_withoutScope, flatMap_filter_ne hcss]
  rw [customCss, customCss, hblocks, get?_styles_withoutScope_of_ne (by decide)]

/-! ### Separator colours -/

namespace Stylesheet

/-- The colours of the separator stay when another block goes. -/
theorem separatorColor?_withoutScope (h : separatorScope ≠ scope) (keys : List String) :
    separatorColor? (tree.withoutScope scope) keys = separatorColor? tree keys := by
  rw [separatorColor?, separatorColor?, List.cons_append, List.cons_append, List.cons_append,
    List.nil_append, get?_cons tree, get?_cons (tree.withoutScope scope), child_styles_withoutScope,
    get?_withoutBlock_of_ne h]

theorem separatorColor?_withoutScope_self (keys : List String) :
    separatorColor? (tree.withoutScope separatorScope) keys = none := by
  rw [separatorColor?, List.cons_append, List.cons_append, List.cons_append, List.nil_append,
    get?_cons, child_styles_withoutScope, get?_cons, child_withoutBlock, if_pos rfl, get?_cons,
    child_erase, if_pos rfl, get?_null, Option.filter_none]

/-- A tree in which separators draw a line has blocks. -/
theorem exists_blocks_of_separatorLine? {tree line : Json} (h : separatorLine? tree = some line) :
    ∃ blocks, tree.find? ["styles", "blocks"] = some blocks ∧ blocks.isObject := by
  have hcolors : tree.down separatorColors =
      ((tree.down ["styles", "blocks"]).child separatorScope).child "color" := rfl
  have hobject : (tree.down ["styles", "blocks"]).isObject := by
    by_contra hblocks
    have hline := isObject_of_separatorLine? h
    rw [hcolors, child_of_not_isObject (eq_false_of_ne_true hblocks)] at hline
    cases hline
  have hget : tree.get? ["styles", "blocks"] = some (tree.down ["styles", "blocks"]) := by
    rw [get?_eq_down, if_neg]
    intro hnull
    rw [(isNull_eq_true_iff _).1 hnull] at hobject
    cases hobject
  exact ⟨_, (Option.filter_eq_some_iff.1 hget).1, hobject⟩

/-- The line of separators is written into the blocks. -/
theorem set_separatorColors {tree line : Json} (h : separatorLine? tree = some line) :
    tree.set (separatorColors ++ ["text"]) line =
      tree.modify (·.set [separatorScope, "color", "text"] line) ["styles", "blocks"] := by
  obtain ⟨blocks, hblocks, -⟩ := exists_blocks_of_separatorLine? h
  exact set_append (Option.isSome_of_eq_some hblocks) [separatorScope, "color", "text"] line

/-- **Colours of separators are filled in before a scope is taken out or after.** -/
theorem withSeparatorColors_withoutScope :
    withSeparatorColors (tree.withoutScope scope) =
      (withSeparatorColors tree).withoutScope scope := by
  rw [withSeparatorColors_eq, withSeparatorColors_eq]
  by_cases hscope : separatorScope = scope
  · -- without separators nothing is filled in, and what was filled in is taken out
    subst hscope
    have hnone : separatorLine? (tree.withoutScope separatorScope) = none := by
      simp only [separatorLine?, separatorColor?_withoutScope_self, ite_self]
    rw [hnone]
    rcases hline : separatorLine? tree with _ | line
    · rfl
    · obtain ⟨blocks, hblocks, hobject⟩ := exists_blocks_of_separatorLine? hline
      have herased : (tree.set (separatorColors ++ ["text"]) line).modify
            (erase separatorScope) ["styles", "blocks"] =
          tree.modify (erase separatorScope) ["styles", "blocks"] := by
        rw [set_separatorColors hline, modify_modify_self]
        refine modify_congr fun value hvalue ↦ ?_
        obtain rfl : blocks = value := Option.some.inj (hblocks.symm.trans hvalue)
        exact erase_set_self separatorScope _ line _ hobject
      exact congrArg (modify (withoutBlock separatorScope) ["settings"]) herased.symm
  · have hsame : separatorLine? (tree.withoutScope scope) = separatorLine? tree := by
      simp only [separatorLine?, separatorColor?_withoutScope tree hscope]
    rw [hsame]
    rcases hline : separatorLine? tree with _ | line
    · rfl
    · obtain ⟨blocks, hblocks, hobject⟩ := exists_blocks_of_separatorLine? hline
      have hmoved : (tree.set (separatorColors ++ ["text"]) line).modify (erase scope)
            ["styles", "blocks"] =
          (tree.modify (erase scope) ["styles", "blocks"]).modify
            (·.set [separatorScope, "color", "text"] line) ["styles", "blocks"] := by
        rw [set_separatorColors hline, modify_modify_self, modify_modify_self]
        refine modify_congr fun value hvalue ↦ ?_
        obtain rfl : blocks = value := Option.some.inj (hblocks.symm.trans hvalue)
        exact erase_set_of_ne hscope _ line hobject
      have hcut := set_separatorColors (hsame.trans hline)
      have hcomm := modify_comm (f := withoutBlock scope)
        (g := modify (·.set [separatorScope, "color", "text"] line) ["blocks"])
        (show "settings" ≠ "styles" by decide) [] []
        (tree.modify (withoutBlock scope) ["styles"])
      exact (hcut.trans hcomm.symm).trans
        (congrArg (modify (withoutBlock scope) ["settings"]) hmoved.symm)

end Stylesheet

end Tree

end GlobalStyles
