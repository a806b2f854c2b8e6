import GlobalStyles.Duotone
import GlobalStyles.Proofs.Layout.KeyOrder
import GlobalStyles.Proofs.Node.KeyOrder
import GlobalStyles.Proofs.Preset.CustomLeaves
import GlobalStyles.Proofs.Style.KeyOrder

/-!
# Presets and custom values of reordered settings

The items of a catalog stand in an array, and what is made of an item is found under its keys. So
presets are the same for reordered settings, each in its place. Custom values are declared in the
order of their keys, and blocks have their nodes and filters in the order of the settings; of these
the order is another one (`SettingsNode.perm_flatMap_all`).
-/

namespace GlobalStyles

open Json

/-! ### Values of presets -/

/-- The options for fluid sizes are single members. -/
theorem FluidOptions.ofSettings_inKeyOrder {settings : Json} (h : settings.WellFormed) :
    ofSettings settings.inKeyOrder = ofSettings settings := by
  have hoptions : ((settings.get? ["typography"]).map Json.inKeyOrder).map ofTypography =
      (settings.get? ["typography"]).map ofTypography := by
    rw [Option.map_map]
    exact Option.map_congr fun typography hget ↦
      ofTypography_inKeyOrder (wellFormed_of_get? h hget)
  simp only [ofSettings, get?_inKeyOrder h, hoptions, Option.bind_map, Function.comp_def,
    text?_inKeyOrder]

/-- A fluid size does not depend on the order of its bounds. -/
theorem fontSizeCss?_inKeyOrder (size : Json) {fluid : Option Json}
    (h : ∀ value ∈ fluid, value.WellFormed) (options : FluidOptions) :
    fontSizeCss? size.inKeyOrder (fluid.map Json.inKeyOrder) options =
      fontSizeCss? size fluid options := by
  rcases fluid with _ | value
  · simp only [fontSizeCss?, css?_inKeyOrder, Option.map_none]
  · simp only [fontSizeCss?, css?_inKeyOrder, Option.map_some, Option.any_some,
      FluidOptions.isOn_inKeyOrder, Option.bind_some, get?_inKeyOrder (h value rfl),
      Option.bind_map, Function.comp_def]
    -- what is left is whether the member is `false`
    cases value <;> rfl

namespace Preset

variable {item settings : Json} (hitem : item.WellFormed) (h : settings.WellFormed)
  (space : String)
include hitem h

/-- The value of an item does not depend on the order of keys. -/
theorem value_inKeyOrder (category : PresetCategory) :
    css? category item.inKeyOrder settings.inKeyOrder space =
      css? category item settings space := by
  have hother (key : String) :
      (item.inKeyOrder.get? [key]).bind Json.css? = (item.get? [key]).bind Json.css? := by
    rw [get?_inKeyOrder hitem, Option.bind_map]
    simp only [Function.comp_def, css?_inKeyOrder]
  have hfluid : ∀ value ∈ item.member? "fluid", value.WellFormed := fun value hvalue ↦
    (fieldsWellFormed_entries hitem).of_get? hvalue
  cases category with
  | duotone => rw [css?, css?, slug?_inKeyOrder hitem]
  | fontSize =>
    simp only [css?, member?_inKeyOrder hitem, Option.bind_map, Function.comp_def,
      FluidOptions.ofSettings_inKeyOrder h, fontSizeCss?_inKeyOrder _ hfluid]
  | _ => exact hother _

theorem declaration?_inKeyOrder (category : PresetCategory) :
    declaration? category settings.inKeyOrder space item.inKeyOrder =
      declaration? category settings space item := by
  rw [declaration?, declaration?, slug?_inKeyOrder hitem, value_inKeyOrder hitem h]

end Preset

namespace Preset

variable {source : Json} (hsource : source.WellFormed)
include hsource

/-- What is made of the items of a catalog one by one. -/
theorem filterMap_catalog_inKeyOrder {α : Type} {read other : Json → Option α}
    (hread : ∀ item : Json, item.WellFormed → read item.inKeyOrder = other item)
    (category : PresetCategory) (origin : Origin) :
    (category.catalog source.inKeyOrder origin).filterMap read =
      (category.catalog source origin).filterMap other := by
  rw [catalog_inKeyOrder category hsource, List.filterMap_map]
  exact List.filterMap_congr fun item hmem ↦ hread item (wellFormed_of_mem_catalog hsource hmem)

open SettingsNode (pickPresets)

/-- **Presets are declared in the order of catalogs**, whatever the order of keys. -/
theorem declarations_inKeyOrder {settings : Json} (h : settings.WellFormed) (space : String) :
    declarations (pickPresets source.inKeyOrder) settings.inKeyOrder space =
      declarations (pickPresets source) settings space := by
  refine List.flatMap_congr fun category _ ↦ List.flatMap_congr fun origin _ ↦ ?_
  rw [category.catalog_pickPresets, category.catalog_pickPresets]
  exact filterMap_catalog_inKeyOrder hsource
    (fun item hitem ↦ declaration?_inKeyOrder hitem h space category) category origin

theorem utilityClasses_inKeyOrder (selector space : String) :
    utilityClasses selector (pickPresets source.inKeyOrder) space =
      utilityClasses selector (pickPresets source) space := by
  refine List.flatMap_congr fun category _ ↦ List.flatMap_congr fun origin _ ↦ ?_
  rw [category.catalog_pickPresets, category.catalog_pickPresets,
    filterMap_catalog_inKeyOrder hsource (fun item hitem ↦ slug?_inKeyOrder hitem)]

end Preset

/-! ### Filters -/

namespace DuotoneFilter

/-- A filter does not depend on the order of keys of its item. -/
theorem ofItem?_inKeyOrder (space : String) {item : Json} (h : item.WellFormed) :
    ofItem? space item.inKeyOrder = ofItem? space item := by
  have hstops : stopsOf item.inKeyOrder = stopsOf item := by
    rw [stopsOf, stopsOf, member?_inKeyOrder h]
    rcases item.member? PresetCategory.duotone.valueKey with _ | colors
    · rfl
    · rw [Option.map_some, Option.bind_some, Option.bind_some, items?_inKeyOrder]
      rcases colors.items? with _ | items
      · rfl
      · simp only [Option.map_some, Option.getD_some, List.filterMap_map, Function.comp_def,
          text?_inKeyOrder]
  rw [ofItem?, ofItem?, Preset.slug?_inKeyOrder h, hstops]

theorem ofSource_inKeyOrder (space : String) {source : Json} (h : source.WellFormed) :
    ofSource space source.inKeyOrder = ofSource space source :=
  List.flatMap_congr fun origin _ ↦ Preset.filterMap_catalog_inKeyOrder h
    (fun _ hitem ↦ ofItem?_inKeyOrder space hitem) .duotone origin

/-- **Reordered settings have the same filters**, in some order. -/
theorem perm_collect {a b : Json} (h : a.Reordered b) (ha : a.WellFormed) (hb : b.WellFormed)
    (space : String) : (collect a space).Perm (collect b space) := by
  have hsource {v w : Json} (hvalue : v.Reordered w) (hv : v.WellFormed) (hw : w.WellFormed) :
      ofSource space v = ofSource space w := by
    rw [← ofSource_inKeyOrder space hv, ← ofSource_inKeyOrder space hw, hvalue.inKeyOrder_eq]
  have hblocks (tree : Json) : ((tree.get? ["blocks"]).bind Json.fields?).getD [] =
      (tree.child "blocks").entries := by
    rw [← entries_get?]
    rcases tree.get? ["blocks"] with _ | blocks
    · rfl
    · cases blocks <;> rfl
  simp only [collect, hblocks, List.flatMap_cons, List.flatMap_map, hsource h ha hb]
  refine ((h.child ha hb "blocks").perm_flatMap_entries (wellFormed_child ha "blocks")
    (wellFormed_child hb "blocks") fun _ v w hvalue hv hw ↦ ?_).append_left _
  rw [hsource hvalue hv hw]

end DuotoneFilter

/-! ### Custom values -/

namespace CustomValue

/-- **Reordered custom values have the same leaves**, in some order. -/
theorem perm_leaves_inKeyOrder {value : Json} (h : value.WellFormed) :
    (leaves value.inKeyOrder).Perm (leaves value) := by
  induction value using member_induction with
  | value value hscalar =>
    have hscalar' : value.inKeyOrder.isObject = false := by
      cases value with
      | obj fields => cases hscalar
      | _ => rfl
    rw [leaves_of_not_isObject hscalar, leaves_of_not_isObject hscalar', css?_inKeyOrder]
  | object fields ih =>
    have hperm := (perm_entries_inKeyOrder (.obj fields)).flatMap_right
      fun entry ↦ (leaves entry.2).map fun leaf ↦ (entry.1 :: leaf.1, leaf.2)
    rw [List.flatMap_map] at hperm
    rw [inKeyOrder, leaves_obj, leaves_obj]
    refine hperm.trans (.flatMap_left _ fun entry hmem ↦ ?_)
    have hget := Entries.get?_of_mem h.1 hmem
    exact (ih entry.1 entry.2 hget (h.2.of_get? hget)).map _

/-- Custom values are declared in the order of their keys, so in some order. -/
theorem perm_declarations {a b : Json} (h : a.Reordered b) (ha : a.WellFormed) (hb : b.WellFormed)
    (space : String) (segments : List String) :
    (declarations space segments a).Perm (declarations space segments b) := by
  have hleaves := perm_leaves_inKeyOrder ha
  rw [h.inKeyOrder_eq] at hleaves
  rw [declarations_eq, declarations_eq]
  exact (hleaves.symm.trans (perm_leaves_inKeyOrder hb)).map _

end CustomValue

/-! ### Settings nodes -/

namespace SettingsNode

/-- The node of some settings, whether they define something or not. -/
def ofSource (scope : Option String) (selector : String) (settings : Json) : SettingsNode :=
  ⟨scope, selector, pickPresets settings, settings.get? ["custom"]⟩

/-- A node that has neither presets nor custom values. -/
def IsEmpty (node : SettingsNode) : Prop :=
  node.presets.entries = [] ∧ node.custom = none

/-- Reading the node of some settings is reading what they would make, even where it is empty. -/
theorem flatMap_ofSettings? {α : Type} {read : SettingsNode → List α}
    (hread : ∀ node, node.IsEmpty → read node = []) (settings : Json) (scope : Option String)
    (selector : String) :
    (ofSettings? settings scope selector).toList.flatMap read =
      read (ofSource scope selector settings) := by
  simp only [ofSettings?]
  split <;> rename_i hempty
  · obtain ⟨hpresets, hcustom⟩ := Bool.and_eq_true_iff.1 hempty
    have hnode : (ofSource scope selector settings).IsEmpty :=
      ⟨List.isEmpty_iff.1 hpresets, Option.isNone_iff_eq_none.1 hcustom⟩
    rw [hread _ hnode]
    rfl
  · exact List.flatMap_singleton _ _

/-- What is read of all nodes, settings by settings. -/
theorem flatMap_all {α : Type} {read : SettingsNode → List α}
    (hread : ∀ node, node.IsEmpty → read node = []) (tree : Json) (registry : Registry) :
    (all tree registry).flatMap read =
      read (ofSource none rootSelector (Stylesheet.settings tree)) ++
        ((Stylesheet.settings tree).child "blocks").entries.flatMap fun member ↦
          (Entries.get? registry member.1).toList.flatMap fun entry ↦
            read (ofSource (some member.1) entry.selector member.2) := by
  have hblock (member : String × Json) : (ofBlock? registry member).toList.flatMap read =
      (Entries.get? registry member.1).toList.flatMap fun entry ↦
        read (ofSource (some member.1) entry.selector member.2) := by
    rw [ofBlock?]
    rcases Entries.get? registry member.1 with _ | entry
    · rfl
    · simp only [Option.bind_some, Option.toList_some, List.flatMap_singleton,
        flatMap_ofSettings? hread]
  have hall : all tree registry =
      (ofSettings? (Stylesheet.settings tree) none rootSelector).toList ++
        (blocks tree).filterMap (ofBlock? registry) := by
    rw [all, blocks_eq_entries_settings, Stylesheet.settings]
    rcases tree.get? ["settings"] with _ | settings <;> rfl
  rw [hall, List.flatMap_append, flatMap_ofSettings? hread, List.filterMap_eq_flatMap_toList,
    List.flatMap_assoc, blocks_eq_entries_settings]
  exact congrArg _ (List.flatMap_congr fun member _ ↦ hblock member)

/-- An empty node has no utility classes. -/
theorem utilityClasses_of_isEmpty (space : String) (node : SettingsNode) (h : node.IsEmpty) :
    node.utilityClasses space = [] := by
  simp [utilityClasses, Preset.utilityClasses, PresetCategory.catalog_of_entries_eq_nil h.1]

theorem customProperties_of_isEmpty (settings : Json) (space : String) (node : SettingsNode)
    (h : node.IsEmpty) : node.customProperties settings space = [] := by
  simp [customProperties, declarations, Preset.declarations,
    PresetCategory.catalog_of_entries_eq_nil h.1, h.2, Rule.make]

end SettingsNode

/-- The settings of reordered trees are reordered. -/
theorem Stylesheet.reordered_settings {a b : Json} (h : a.Reordered b) (ha : a.WellFormed)
    (hb : b.WellFormed) : (settings a).Reordered (settings b) :=
  h.getD_get? ha hb ["settings"] _

namespace SettingsNode

section

variable {a b : Json} (h : a.Reordered b) (ha : a.WellFormed) (hb : b.WellFormed)
include h ha hb

/-- Reordered settings give the same utility classes. -/
theorem utilityClasses_ofSource (scope : Option String) (selector space : String) :
    (ofSource scope selector a).utilityClasses space =
      (ofSource scope selector b).utilityClasses space := by
  have hclasses (own : String) : Preset.utilityClasses own (pickPresets a) space =
      Preset.utilityClasses own (pickPresets b) space := by
    rw [← Preset.utilityClasses_inKeyOrder ha, ← Preset.utilityClasses_inKeyOrder hb,
      h.inKeyOrder_eq]
  exact hclasses _

theorem perm_declarations_ofSource {settings others : Json} (hsettings : settings.Reordered others)
    (hwell : settings.WellFormed) (hwell' : others.WellFormed) (scope : Option String)
    (selector space : String) :
    ((ofSource scope selector a).declarations settings space).Perm
      ((ofSource scope selector b).declarations others space) := by
  rw [declarations, declarations, ofSource, ofSource]
  refine .append (.of_eq ?_) ?_
  · rw [← Preset.declarations_inKeyOrder ha hwell, ← Preset.declarations_inKeyOrder hb hwell',
      h.inKeyOrder_eq, hsettings.inKeyOrder_eq]
  · rcases h.get?_cases ha hb ["custom"] with ⟨hnone, hnone'⟩ | ⟨v, w, hv, hw, hvalue, hwv, hww⟩
    · rw [hnone, hnone']
    · rw [hv, hw]
      exact CustomValue.perm_declarations hvalue hwv hww space ["custom"]

/-- What is read of all nodes is the same in some order, if it is so settings by settings. -/
theorem perm_flatMap_all {α : Type} {read other : SettingsNode → List α}
    (hempty : ∀ node, node.IsEmpty → read node = [])
    (hempty' : ∀ node, node.IsEmpty → other node = [])
    (hread : ∀ scope selector {v w : Json}, v.Reordered w → v.WellFormed → w.WellFormed →
      (read (ofSource scope selector v)).Perm (other (ofSource scope selector w)))
    (registry : Registry) :
    ((all a registry).flatMap read).Perm ((all b registry).flatMap other) := by
  have hsettings := Stylesheet.reordered_settings h ha hb
  have hwell := wellFormed_settings ha
  have hwell' := wellFormed_settings hb
  rw [flatMap_all hempty, flatMap_all hempty']
  refine (hread none rootSelector hsettings hwell hwell').append ?_
  refine (hsettings.child hwell hwell' "blocks").perm_flatMap_entries
    (wellFormed_child hwell "blocks") (wellFormed_child hwell' "blocks")
    fun scope v w hvalue hv hw ↦ ?_
  exact .flatMap_left _ fun entry _ ↦ hread (some scope) entry.selector hvalue hv hw

/-- **Reordered settings have the same utility classes**, in some order. -/
theorem perm_utilityClasses (registry : Registry) (space : String) :
    ((all a registry).flatMap (·.utilityClasses space)).Perm
      ((all b registry).flatMap (·.utilityClasses space)) :=
  perm_flatMap_all h ha hb (utilityClasses_of_isEmpty space) (utilityClasses_of_isEmpty space)
    (fun scope selector _ _ hvalue hv hw ↦
      .of_eq (utilityClasses_ofSource hvalue hv hw scope selector space)) registry

/-- **Reordered settings declare the same custom properties**, in some order. -/
theorem perm_content_customProperties (registry : Registry) (space : String) :
    (((all a registry).flatMap (·.customProperties (Stylesheet.settings a) space)).map
        Rule.content).Perm
      (((all b registry).flatMap (·.customProperties (Stylesheet.settings b) space)).map
        Rule.content) := by
  have hsettings := Stylesheet.reordered_settings h ha hb
  have hwell := wellFormed_settings ha
  have hwell' := wellFormed_settings hb
  rw [List.map_flatMap, List.map_flatMap]
  refine perm_flatMap_all h ha hb (fun node hnode ↦ ?_) (fun node hnode ↦ ?_)
    (fun scope selector v w hvalue hv hw ↦ .of_eq ?_) registry
  · rw [customProperties_of_isEmpty _ _ node hnode, List.map_nil]
  · rw [customProperties_of_isEmpty _ _ node hnode, List.map_nil]
  · exact Rule.map_content_make (perm_declarations_ofSource hvalue hv hw hsettings hwell hwell'
      scope selector space) .terminated selector

theorem perm_diagnostics (registry : Registry) :
    (diagnostics a registry).Perm (diagnostics b registry) := by
  rw [diagnostics, diagnostics, blocks_eq_entries, blocks_eq_entries]
  refine perm_unregistered registry (Reordered.perm_keys ?_)
  exact (h.child ha hb "settings").child (wellFormed_child ha _) (wellFormed_child hb _) "blocks"

end

end SettingsNode

end GlobalStyles
