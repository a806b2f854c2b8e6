import GlobalStyles.Node.Settings
import GlobalStyles.Preset.Catalog
import GlobalStyles.Proofs.Stylesheet.Alike
import Mathlib.Data.List.Basic

/-!
# The settings behind settings nodes

A settings node keeps the catalogs of its settings at the same places in a tree of its own. Nothing
is lost by that, whatever the settings look like (`PresetCategory.catalog_pickPresets`): the places
of two categories part from each other, so the catalogs of one are not touched when those of another
are written.

A look-up for a scope goes through the settings of that scope and through those of the root, and
these are the settings of which the nodes of the scope and of the root are made. The two lemmas
`SettingsNode.exists_source_of_mem_all` and `SettingsNode.exists_owner_of_mem_sources` say so, one
for each direction.
-/

namespace GlobalStyles

open Json

/-! ### Catalogs -/

namespace PresetCategory

/-- The places of two categories part from each other. -/
theorem not_path_prefix {category other : PresetCategory} (h : category ≠ other) :
    ¬category.path <+: other.path := by
  cases category <;> cases other <;> first | exact absurd rfl h | decide

theorem segment_injective {category other : PresetCategory}
    (h : category.segment = other.segment) : category = other := by
  have heq := congrArg ofSegment? h
  rw [ofSegment?_segment, ofSegment?_segment] at heq
  exact Option.some.inj heq

/-- The catalogs of a category stand at one place. -/
theorem catalog_congr {category : PresetCategory} {presets other : Json}
    (h : presets.down category.path = other.down category.path) (origin : Origin) :
    category.catalog presets origin = category.catalog other origin := by
  have hget : presets.get? (category.path ++ [origin.key]) =
      other.get? (category.path ++ [origin.key]) := by
    rw [get?_eq_down, get?_eq_down, down_append, down_append, h]
  rw [catalog, catalog, catalog?, catalog?, hget]

theorem catalog_of_entries_eq_nil {presets : Json} (h : presets.entries = [])
    (category : PresetCategory) (origin : Origin) : category.catalog presets origin = [] := by
  have hchild (key : String) : presets.child key = null := by
    rw [child, member?, h]
    rfl
  have hget : presets.get? (category.path ++ [origin.key]) = none := by
    cases category <;> exact (get?_cons _ _ _).trans (by rw [hchild, get?_null])
  rw [catalog, catalog?, hget]
  rfl

end PresetCategory

namespace SettingsNode

section

variable (settings : Json)

/-- The catalogs of one more category. -/
def addCatalogs (made : Json) (category : PresetCategory) : Json :=
  match settings.get? category.path with
  | none => made
  | some catalogs => made.set category.path catalogs

theorem pickPresets_eq :
    pickPresets settings = PresetCategory.all.foldl (addCatalogs settings) (.obj []) :=
  rfl

/-- Adding the catalogs of a category leaves those of the others. -/
theorem down_addCatalogs_of_ne {category other : PresetCategory} (h : other ≠ category)
    (made : Json) :
    (addCatalogs settings made other).down category.path = made.down category.path := by
  rw [addCatalogs]
  split
  · rfl
  · exact down_set_of_diverge (PresetCategory.not_path_prefix h)
      (PresetCategory.not_path_prefix h.symm) _ _

variable {settings}

theorem down_addCatalogs_self {category : PresetCategory} {made : Json}
    (h : made.down category.path = null ∨
      made.down category.path = settings.down category.path) :
    (addCatalogs settings made category).down category.path = settings.down category.path := by
  have hget := get?_eq_down settings category.path
  rw [addCatalogs]
  split <;> rename_i hcatalogs <;> rw [hcatalogs] at hget
  · have hnull : settings.down category.path = null := by
      by_contra hne
      rw [if_neg fun hisNull ↦ hne ((isNull_eq_true_iff _).1 hisNull)] at hget
      cases hget
    rw [hnull] at h ⊢
    exact h.elim id id
  · split at hget
    · cases hget
    · rw [← Option.some.inj hget]
      simpa using down_set_append made _ category.path []

/-- The catalogs of a category stand where they stand in the settings. -/
theorem down_pickPresets (category : PresetCategory) :
    (pickPresets settings).down category.path = settings.down category.path := by
  -- before its turn the catalogs of a category are missing, and afterwards they stay
  have hfold (categories : List PresetCategory) : ∀ made : Json,
      (made.down category.path = null ∨ made.down category.path = settings.down category.path) →
        (categories.foldl (addCatalogs settings) made).down category.path =
          if category ∈ categories then settings.down category.path
          else made.down category.path := by
    induction categories with
    | nil => exact fun _ _ ↦ rfl
    | cons other rest ih =>
      intro made hmade
      rw [List.foldl_cons]
      by_cases hother : other = category
      · subst hother
        have hself := down_addCatalogs_self hmade
        rw [ih _ (.inr hself), hself, ite_self, if_pos List.mem_cons_self]
      · have hsame := down_addCatalogs_of_ne settings hother made
        rw [ih _ (hsame ▸ hmade), hsame]
        simp only [List.mem_cons, Ne.symm hother, false_or]
  have hempty : (Json.obj []).down category.path = null := by
    cases category <;> rfl
  rw [pickPresets_eq, hfold _ _ (.inl hempty), if_pos category.mem_all]

end

end SettingsNode

/-- **A settings node has the items of its settings**, category by category and origin by origin. -/
theorem PresetCategory.catalog_pickPresets (category : PresetCategory) (settings : Json)
    (origin : Origin) :
    category.catalog (SettingsNode.pickPresets settings) origin =
      category.catalog settings origin :=
  catalog_congr (SettingsNode.down_pickPresets category) origin

/-! ### Nodes -/

namespace SettingsNode

section

variable {settings : Json} {scope : Option String} {selector : String}

/-- A settings node is made of the presets and the custom values of its settings. -/
theorem eq_of_ofSettings? {node : SettingsNode}
    (h : ofSettings? settings scope selector = some node) :
    node = ⟨scope, selector, pickPresets settings, settings.get? ["custom"]⟩ := by
  simp only [ofSettings?] at h
  split at h
  · cases h
  · exact (Option.some.inj h).symm

/-- Settings with an item have a node. -/
theorem isSome_ofSettings? {category : PresetCategory} {origin : Origin} {item : Json}
    (h : item ∈ category.catalog settings origin) (scope : Option String) (selector : String) :
    (ofSettings? settings scope selector).isSome := by
  simp only [ofSettings?]
  split <;> rename_i hempty
  · have hentries := List.isEmpty_iff.1 (Bool.and_eq_true_iff.1 hempty).1
    rw [← category.catalog_pickPresets, category.catalog_of_entries_eq_nil hentries] at h
    cases h
  · rfl

end

variable {tree : Json} {registry : Registry}

/-- The blocks of the settings, whether there are settings or not. -/
theorem blocks_eq_entries_settings (tree : Json) :
    blocks tree = ((Stylesheet.settings tree).child "blocks").entries := by
  have hchild : (Stylesheet.settings tree).child "blocks" =
      (tree.child "settings").child "blocks" := by
    rw [Stylesheet.settings, get?_eq_down, down_cons, down_nil]
    split <;> rename_i hnull
    · rw [(isNull_eq_true_iff _).1 hnull]
      rfl
    · rfl
  rw [blocks_eq_entries, hchild]

/-- The settings of a well-formed tree are well formed, also where there are none. -/
theorem wellFormed_settings (htree : tree.WellFormed) : (Stylesheet.settings tree).WellFormed := by
  rw [Stylesheet.settings]
  rcases hget : tree.get? ["settings"] with _ | settings
  · exact ⟨List.nodup_nil, trivial⟩
  · exact wellFormed_of_get? htree hget

/-- The nodes are those of the root and of the blocks. -/
theorem mem_all_iff (node : SettingsNode) :
    node ∈ all tree registry ↔
      ofSettings? (Stylesheet.settings tree) none rootSelector = some node ∨
        ∃ member ∈ blocks tree, ofBlock? registry member = some node := by
  rw [all, blocks_eq_entries_settings, Stylesheet.settings]
  rcases tree.get? ["settings"] with _ | settings
  · have hroot : ofSettings? (.obj []) none rootSelector = none := rfl
    simp [hroot, child, member?, entries]
  · rw [Option.getD_some, List.mem_append, Option.mem_toList, List.mem_filterMap]

/-- A node is made of settings that a look-up for its scope goes through. -/
theorem exists_source_of_mem_all (htree : tree.WellFormed) {node : SettingsNode}
    (h : node ∈ all tree registry) {scope : Option String}
    (hscope : node.scope = none ∨ node.scope = scope) :
    ∃ source ∈ Preset.sources (Stylesheet.settings tree) scope,
      ofSettings? source node.scope node.selector = some node := by
  rcases (mem_all_iff node).1 h with hroot | ⟨⟨name, block⟩, hmember, hblock⟩
  · obtain rfl := eq_of_ofSettings? hroot
    exact ⟨_, List.mem_append_right _ List.mem_cons_self, hroot⟩
  · obtain ⟨entry, -, hnode⟩ := Option.bind_eq_some_iff.1 hblock
    obtain rfl := eq_of_ofSettings? hnode
    obtain rfl : some name = scope := hscope.resolve_left (Option.some_ne_none name)
    -- no two blocks have one name, so the look-up finds this one
    have hchild : ((Stylesheet.settings tree).child "blocks").child name = block := by
      have hnodup := nodup_keys_entries (wellFormed_child (wellFormed_settings htree) "blocks")
      rw [blocks_eq_entries_settings] at hmember
      rw [child, member?, Entries.get?_of_mem hnodup hmember, Option.getD_some]
    have hget : (Stylesheet.settings tree).get? ["blocks", name] = some block := by
      rw [get?_eq_down, down_cons, down_cons, down_nil, hchild, if_neg]
      rintro hnull
      rw [(isNull_eq_true_iff _).1 hnull] at hnode
      cases hnode
    refine ⟨block, List.mem_append_left _ ?_, hnode⟩
    rw [Option.bind_some, hget]
    exact List.mem_cons_self

/-- Of the settings that a look-up for a registered scope goes through, each is that of the node of
the root or of the scope, if it has a node at all. -/
theorem exists_owner_of_mem_sources {scope : Option String}
    (hscope : ∀ name ∈ scope, (Entries.get? registry name).isSome) {source : Json}
    (h : source ∈ Preset.sources (Stylesheet.settings tree) scope) :
    ∃ owner selector, (owner = none ∨ owner = scope) ∧
      ∀ node, ofSettings? source owner selector = some node → node ∈ all tree registry := by
  rcases List.mem_append.1 h with hblock | hroot
  · obtain ⟨name, rfl, hget⟩ := Option.bind_eq_some_iff.1 (Option.mem_toList.1 hblock)
    obtain ⟨entry, hentry⟩ := Option.isSome_iff_exists.1 (hscope name rfl)
    have hmember : (name, source) ∈ blocks tree := by
      rw [blocks_eq_entries_settings]
      rw [get?_cons] at hget
      exact mem_entries_of_get? hget
    refine ⟨some name, entry.selector, .inr rfl, fun node hnode ↦ ?_⟩
    exact (mem_all_iff node).2 (.inr ⟨_, hmember, Option.bind_eq_some_iff.2 ⟨entry, hentry, hnode⟩⟩)
  · obtain rfl := List.mem_singleton.1 hroot
    exact ⟨none, rootSelector, .inl rfl, fun node hnode ↦ (mem_all_iff node).2 (.inl hnode)⟩

end SettingsNode

end GlobalStyles
