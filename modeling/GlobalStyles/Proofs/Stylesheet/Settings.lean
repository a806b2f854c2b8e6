import GlobalStyles.Proofs.Stylesheet.Selectors
import GlobalStyles.Stylesheet.Compile

/-!
# Rules of settings

The rules of a settings node declare its presets and custom values and give utility classes to some
presets. Where no brace stands in the tree, the registry and the namespace, they are all flat
(`SettingsNode.IsBraceless.allFlat_customProperties`, `allFlat_utilityClasses`).

Slugs and the keys of custom values are put into kebab case on their way into a name or a selector.
So they would do no harm even with a brace, and no step below asks anything of them.
-/

namespace GlobalStyles

open Rule (AllFlat allFlat_make)

/-! ### Settings nodes -/

/-- No brace stands in a settings node. -/
structure SettingsNode.IsBraceless (node : SettingsNode) : Prop where
  selector : Braceless node.selector
  presets : node.presets.Meets .braceless
  custom : ∀ custom ∈ node.custom, custom.Meets .braceless

namespace SettingsNode

theorem meets_pickPresets {settings : Json} (h : settings.Meets .braceless) :
    (pickPresets settings).Meets .braceless := by
  have hpaths (category : PresetCategory) : ∀ key ∈ category.path, Braceless key := by
    cases category <;> decide
  rw [pickPresets]
  refine List.foldlRecOn (motive := fun made : Json ↦ made.Meets .braceless) _ _ trivial ?_
  intro made hmade category _
  split <;> rename_i hget
  · exact hmade
  · exact hmade.set (fun key hkey _ ↦ hpaths category key hkey) (h.of_get? hget)

/-- Settings without braces make a node without braces. -/
theorem isBraceless_of_ofSettings? {settings : Json} (h : settings.Meets .braceless)
    {scope : Option String} {selector : String} (hselector : Braceless selector)
    {node : SettingsNode} (hnode : ofSettings? settings scope selector = some node) :
    node.IsBraceless := by
  simp only [ofSettings?] at hnode
  split at hnode
  · cases hnode
  · cases hnode
    exact ⟨hselector, meets_pickPresets h, fun custom hcustom ↦ h.of_get? hcustom⟩

/-- **No settings node of a tree without braces has one**, where the registry has none. -/
theorem isBraceless_of_mem_all {tree : Json} (h : tree.Meets .braceless) {registry : Registry}
    (hregistry : registry.IsBraceless) {node : SettingsNode} (hnode : node ∈ all tree registry) :
    node.IsBraceless := by
  rw [all] at hnode
  split at hnode <;> rename_i hget
  · cases hnode
  · rcases List.mem_append.1 hnode with hroot | hblock
    · exact isBraceless_of_ofSettings? (h.of_get? hget) (by decide) (Option.mem_toList.1 hroot)
    · obtain ⟨member, hmember, hsome⟩ := List.mem_filterMap.1 hblock
      obtain ⟨entry, hentry, hnode⟩ := Option.bind_eq_some_iff.1 hsome
      rw [blocks_eq_entries] at hmember
      have hmeets := (((h.child "settings").child "blocks").of_mem_entries hmember).2
      exact isBraceless_of_ofSettings? hmeets
        (hregistry _ (Entries.mem_of_get? hentry)).selector hnode

end SettingsNode

/-! ### Custom properties -/

section

variable {space : String} (hspace : Braceless space)
include hspace

/-- The value of an item without braces has none. -/
theorem Preset.braceless_css? {category : PresetCategory} {item : Json}
    (h : item.Meets .braceless) {settings : Json} {text : String}
    (hcss : css? category item settings space = some text) : Braceless text := by
  unfold css? at hcss
  split at hcss
  · obtain ⟨slug, -, rfl⟩ := Option.map_eq_some_iff.1 hcss
    have hopened := ((by decide : Braceless "url( '#").append hspace).append
      (by decide : Braceless "-duotone-")
    exact (hopened.append (.kebabCase slug)).append (by decide)
  · obtain ⟨size, hsize, hcss⟩ := Option.bind_eq_some_iff.1 hcss
    have hsize := (h.of_member? hsize).2
    refine braceless_fontSizeCss? hcss (fun raw hraw ↦ hsize.css? hraw) fun key bound hbound ↦ ?_
    rcases hfluid : item.member? "fluid" with _ | fluid
    · rw [hfluid] at hbound
      cases hbound
    · rw [hfluid] at hbound
      exact (h.of_member? hfluid).2.css?_of_get? hbound
  · exact h.css?_of_get? hcss

/-- Declarations of presets are flat: neither name nor value has a brace. -/
theorem Preset.isFlat_of_mem_declarations {presets : Json} (h : presets.Meets .braceless)
    {settings : Json} {declaration : Declaration}
    (hmem : declaration ∈ declarations presets settings space) : declaration.IsFlat := by
  obtain ⟨category, -, hmem⟩ := List.mem_flatMap.1 hmem
  obtain ⟨origin, -, hmem⟩ := List.mem_flatMap.1 hmem
  obtain ⟨item, hitem, hsome⟩ := List.mem_filterMap.1 hmem
  -- nothing is asked of the slug
  obtain ⟨slug, -, hsome⟩ := Option.bind_eq_some_iff.1 hsome
  obtain ⟨value, hvalue, hsome⟩ := Option.bind_eq_some_iff.1 hsome
  cases hsome
  rw [PresetCategory.catalog] at hitem
  rcases hcatalog : category.catalog? presets origin with _ | items
  · rw [hcatalog] at hitem
    cases hitem
  · rw [hcatalog] at hitem
    obtain ⟨catalog, hget, hitems⟩ := Option.bind_eq_some_iff.1 hcatalog
    have hitem := (h.of_get? hget).of_mem_items hitems hitem
    exact ⟨hspace.propertyName _, braceless_css? hspace hitem hvalue⟩

end

namespace CustomValue

mutual

/-- Each scalar of a custom value gives a flat declaration; by recursion on the value, as the
declarations are. -/
theorem isFlat_of_mem_declarations {space : String} (hspace : Braceless space)
    (segments : List String) :
    (value : Json) → value.Meets .braceless →
      ∀ declaration ∈ declarations space segments value, declaration.IsFlat
  | .obj fields, h => isFlat_of_mem_fieldDeclarations hspace segments fields h
  | .str _, h => List.forall_mem_singleton.2 ⟨hspace.propertyName segments, h⟩
  | .num number, _ =>
    List.forall_mem_singleton.2 ⟨hspace.propertyName segments, .number_text number⟩
  | .bool b, _ =>
    have htext : Braceless (if b then "true" else "false") := by cases b <;> decide
    List.forall_mem_singleton.2 ⟨hspace.propertyName segments, htext⟩
  | .null, _ => List.forall_mem_nil _
  | .arr _, _ => List.forall_mem_nil _

theorem isFlat_of_mem_fieldDeclarations {space : String} (hspace : Braceless space)
    (segments : List String) :
    (fields : List (String × Json)) → Json.FieldsMeet .braceless fields →
      ∀ declaration ∈ fieldDeclarations space segments fields, declaration.IsFlat
  | [], _ => List.forall_mem_nil _
  | (_, value) :: rest, h =>
    List.forall_mem_append.2 ⟨isFlat_of_mem_declarations hspace _ value h.1.2,
      isFlat_of_mem_fieldDeclarations hspace segments rest h.2⟩

end

end CustomValue

section

variable {space : String} (hspace : Braceless space)
include hspace

/-- The custom properties of a node without braces are flat rules. -/
theorem SettingsNode.IsBraceless.allFlat_customProperties {node : SettingsNode}
    (h : node.IsBraceless) (settings : Json) :
    AllFlat (node.customProperties settings space) := by
  refine allFlat_make h.selector (List.forall_mem_append.2 ⟨fun declaration hmem ↦ ?_, ?_⟩) _
  · exact Preset.isFlat_of_mem_declarations hspace h.presets hmem
  · rcases hcustom : node.custom with _ | custom
    · exact List.forall_mem_nil _
    · have hmeets := h.custom custom hcustom
      exact CustomValue.isFlat_of_mem_declarations hspace ["custom"] custom hmeets

/-! ### Utility classes -/

/-- A slug has no part in this: kebab case takes its braces out. -/
theorem Preset.allFlat_utilityRules {selector : String} (hselector : Braceless selector)
    (category : PresetCategory) (slug : String) :
    AllFlat (utilityRules selector space category slug) := by
  have htable (category : PresetCategory) : ∀ utility ∈ category.classes,
      Braceless utility.suffix ∧ Braceless utility.property := by
    cases category <;> decide
  simp only [utilityRules]
  refine .flatMap fun utility hutility ↦ ?_
  obtain ⟨hsuffix, hproperty⟩ := htable category utility hutility
  refine allFlat_make (hselector.appendToParts ?_) (List.forall_mem_singleton.2 ⟨hproperty, ?_⟩) _
  · exact (((by decide : Braceless ".has-").append (.kebabCase slug)).append (by decide)).append
      hsuffix
  · exact ((by decide : Braceless "var(").append (hspace.propertyName _)).append (by decide)

/-- The utility classes of a node without braces are flat rules. -/
theorem SettingsNode.IsBraceless.allFlat_utilityClasses {node : SettingsNode}
    (h : node.IsBraceless) : AllFlat (node.utilityClasses space) := by
  have hselector : Braceless (if node.scope.isNone then "" else node.selector) := by
    split
    · decide
    · exact h.selector
  exact .flatMap fun category _ ↦ .flatMap fun origin _ ↦ .flatMap fun slug _ ↦
    Preset.allFlat_utilityRules hspace hselector category slug

end

end GlobalStyles
