import GlobalStyles.Proofs.Node.Settings
import GlobalStyles.Proofs.Reference.Encoding
import GlobalStyles.Proofs.Style.Unresolved

/-!
# Presets that exist are declared

A token for a preset compiles to a custom property, and a look-up tells whether the preset exists.
The two answer to different parts of the program: the look-up goes through the settings by priority
and stops at the first slug that fits, and the properties are declared by settings nodes, all of
them, in the order of emission. They agree, provided that every item with a slug has a value to be
declared (`presetExists_iff_declaredFor`).

Both come down to `Preset.Defines`, that some catalog has an item with the slug. For the
declarations this rests on the names: no custom value and no other category declares a name of the
category, because the segments can be read off a name (`Reference.propertyName_cons_eq_iff`).

A slug with a bar makes more segments than a preset has. Its token names no preset, so it counts as
existing, while nothing is declared under its name.
-/

namespace GlobalStyles

open Json
open Text (kebabCase)

/-! ### Tokens for presets -/

namespace PresetCategory

theorem bar_notMem_segment (category : PresetCategory) : '|' ∉ category.segment.toList := by
  cases category <;> decide

theorem kebabCase_segment (category : PresetCategory) :
    kebabCase category.segment = category.segment := by
  cases category <;> decide +kernel

end PresetCategory

namespace Reference

/-- The token for an item of a category. -/
def presetToken (category : PresetCategory) (slug : String) : String :=
  "ref:preset|" ++ category.segment ++ "|" ++ slug

/-- The segments between the bars of a text. -/
def barSegments (text : String) : List String :=
  (text.toList.splitOn '|').map String.ofList

theorem barSegments_of_notMem {text : String} (h : '|' ∉ text.toList) :
    barSegments text = [text] := by
  rw [barSegments, List.splitOn_eq_singleton h]
  simp

theorem exists_barSegments_of_mem {text : String} (h : '|' ∈ text.toList) :
    ∃ first second rest, barSegments text = first :: second :: rest := by
  obtain ⟨before, after, htext⟩ := List.append_of_mem h
  rw [barSegments, htext, List.splitOn_append_cons_self]
  rcases hbefore : before.splitOn '|' with _ | ⟨first, rest⟩
  · exact absurd hbefore (List.splitOn_ne_nil _ _)
  · rcases hafter : after.splitOn '|' with _ | ⟨second, others⟩
    · exact absurd hafter (List.splitOn_ne_nil _ _)
    · rcases rest with _ | ⟨next, rest⟩
      · exact ⟨_, _, _, rfl⟩
      · exact ⟨_, _, _, rfl⟩

variable (category : PresetCategory) (slug space : String)

theorem segments?_presetToken :
    segments? (presetToken category slug) =
      some ("preset" :: category.segment :: barSegments slug) := by
  have htext : (presetToken category slug).toList =
      "ref:".toList ++
        ("preset".toList ++ '|' :: (category.segment.toList ++ '|' :: slug.toList)) := by
    rw [presetToken, String.toList_append, String.toList_append, String.toList_append]
    simp
  have hsplit : ("preset".toList ++ '|' :: (category.segment.toList ++ '|' :: slug.toList)).splitOn
        '|' = "preset".toList :: category.segment.toList :: slug.toList.splitOn '|' := by
    rw [List.splitOn_append_cons_self_of_not_mem (by decide),
      List.splitOn_append_cons_self_of_not_mem category.bar_notMem_segment]
  rw [segments?, List.isPrefixOf?_eq_some_iff_append_eq.2 htext.symm, Option.some_or,
    Option.map_some, hsplit]
  simp [barSegments]

theorem compile_presetToken :
    compile (presetToken category slug) space =
      "var(" ++ propertyName space ("preset" :: category.segment :: barSegments slug) ++ ")" := by
  rw [compile, segments?_presetToken]

theorem parse?_presetToken :
    parse? (presetToken category slug) space =
      ofSegments? ("preset" :: category.segment :: barSegments slug) := by
  rw [parse?, segments?_presetToken]

variable {slug} (settings : Json) (scope : Option String)

theorem parse?_presetToken_of_notMem (h : '|' ∉ slug.toList) :
    parse? (presetToken category slug) space = some (.preset category.segment slug) := by
  rw [parse?_presetToken, barSegments_of_notMem h]
  rfl

/-- A slug with a bar makes a text that names nothing. -/
theorem parse?_presetToken_of_mem (h : '|' ∈ slug.toList) :
    parse? (presetToken category slug) space = none := by
  obtain ⟨first, second, rest, hsegments⟩ := exists_barSegments_of_mem h
  rw [parse?_presetToken, hsegments]
  rfl

/-- A token for a preset is looked up by its slug. -/
theorem presetExists_presetToken_iff (h : '|' ∉ slug.toList) :
    presetExists settings scope (presetToken category slug) space = true ↔
      ∃ source ∈ Preset.sources settings scope, Preset.Defines source category slug := by
  rw [← Preset.isSome_bySlug?_iff, presetExists, parse?_presetToken_of_notMem category space h]
  simp only [PresetCategory.ofSegment?_segment, Option.bind_some]

/-- What names nothing is not looked up. -/
theorem presetExists_presetToken_of_bar (h : '|' ∈ slug.toList) :
    presetExists settings scope (presetToken category slug) space = true := by
  rw [presetExists, parse?_presetToken_of_mem category space h]

end Reference

/-! ### Declared names -/

namespace CustomValue

mutual

/-- Every name below some segments begins with them. -/
theorem exists_segments_of_mem_declarations (space : String) (segments : List String) :
    (value : Json) → ∀ declaration ∈ declarations space segments value,
      ∃ rest, declaration.property = Reference.propertyName space (segments ++ rest)
  | .obj fields => exists_segments_of_mem_fieldDeclarations space segments fields
  | .str _ => List.forall_mem_singleton.2 ⟨[], by rw [List.append_nil]⟩
  | .num _ => List.forall_mem_singleton.2 ⟨[], by rw [List.append_nil]⟩
  | .bool _ => List.forall_mem_singleton.2 ⟨[], by rw [List.append_nil]⟩
  | .null => List.forall_mem_nil _
  | .arr _ => List.forall_mem_nil _

theorem exists_segments_of_mem_fieldDeclarations (space : String) (segments : List String) :
    (fields : List (String × Json)) → ∀ declaration ∈ fieldDeclarations space segments fields,
      ∃ rest, declaration.property = Reference.propertyName space (segments ++ rest)
  | [] => List.forall_mem_nil _
  | (key, value) :: rest => by
    refine List.forall_mem_append.2 ⟨fun declaration hmem ↦ ?_,
      exists_segments_of_mem_fieldDeclarations space segments rest⟩
    obtain ⟨more, hname⟩ :=
      exists_segments_of_mem_declarations space (segments ++ [kebabCase key]) value declaration hmem
    exact ⟨kebabCase key :: more, by rw [hname, List.append_assoc, List.singleton_append]⟩

end

end CustomValue

namespace Preset

theorem hasSlug_iff (slug : String) (item : Json) :
    hasSlug slug item = true ↔ ∃ own, slug? item = some own ∧ kebabCase own = kebabCase slug := by
  simp [hasSlug, Option.any_eq_true]

theorem mem_declarations_iff (presets settings : Json) (space : String)
    (declaration : Declaration) :
    declaration ∈ declarations presets settings space ↔
      ∃ category origin, ∃ item ∈ PresetCategory.catalog category presets origin,
        declaration? category settings space item = some declaration := by
  simp only [declarations, List.mem_flatMap, List.mem_filterMap]
  constructor
  · rintro ⟨category, -, origin, -, item, hitem, hdeclaration⟩
    exact ⟨category, origin, item, hitem, hdeclaration⟩
  · rintro ⟨category, origin, item, hitem, hdeclaration⟩
    exact ⟨category, category.mem_all, origin, origin.mem_all, item, hitem, hdeclaration⟩

/-- An item is declared under the name of its category and slug if it has a value. -/
theorem declaration?_eq_some_iff (category : PresetCategory) (settings : Json) (space : String)
    (item : Json) (declaration : Declaration) :
    declaration? category settings space item = some declaration ↔
      ∃ slug, slug? item = some slug ∧
        css? category item settings space = some declaration.value ∧
        declaration.property =
          Reference.propertyName space ["preset", category.segment, slug] := by
  constructor
  · intro h
    obtain ⟨slug, hslug, h⟩ := Option.bind_eq_some_iff.1 h
    obtain ⟨value, hvalue, h⟩ := Option.bind_eq_some_iff.1 h
    cases h
    exact ⟨slug, hslug, hvalue, rfl⟩
  · rintro ⟨slug, hslug, hvalue, hname⟩
    simp [declaration?, hslug, hvalue, ← hname]

/-- Every item of some settings, at the root or in a block, has a value in CSS if it has a slug. -/
def AllValued (settings : Json) (space : String) : Prop :=
  ∀ source ∈ settings :: (settings.child "blocks").entries.map Prod.snd,
    ∀ category ∈ PresetCategory.all, ∀ origin ∈ Origin.all,
      ∀ item ∈ category.catalog source origin,
        (slug? item).isSome → (css? category item settings space).isSome

instance (settings : Json) (space : String) : Decidable (AllValued settings space) :=
  inferInstanceAs (Decidable (∀ source ∈ _, _))

/-- A look-up goes through settings of the root and of blocks only. -/
theorem mem_of_mem_sources {settings source : Json} {scope : Option String}
    (h : source ∈ sources settings scope) :
    source ∈ settings :: (settings.child "blocks").entries.map Prod.snd := by
  rcases List.mem_append.1 h with hblock | hroot
  · obtain ⟨name, -, hget⟩ := Option.bind_eq_some_iff.1 (Option.mem_toList.1 hblock)
    rw [get?_cons] at hget
    exact List.mem_cons_of_mem _ (List.mem_map_of_mem (f := Prod.snd) (mem_entries_of_get? hget))
  · rw [List.mem_singleton.1 hroot]
    exact List.mem_cons_self

end Preset

namespace SettingsNode

/-- The rules of a node declare a custom property of this name. -/
def Declares (node : SettingsNode) (settings : Json) (space name : String) : Prop :=
  ∃ rule ∈ node.customProperties settings space, ∃ declaration ∈ rule.declarations,
    declaration.property = name

theorem declares_iff (node : SettingsNode) (settings : Json) (space name : String) :
    node.Declares settings space name ↔
      ∃ declaration ∈ node.declarations settings space, declaration.property = name := by
  constructor
  · rintro ⟨rule, hrule, hdeclares⟩
    obtain ⟨-, rfl⟩ := Rule.mem_make_iff.1 hrule
    exact hdeclares
  · rintro ⟨declaration, hmem, hname⟩
    exact ⟨_, Rule.mem_make_iff.2 ⟨List.ne_nil_of_mem hmem, rfl⟩, declaration, hmem, hname⟩

/-- What a node declares in the domain of presets are the items of its catalogs that have a slug and
a value. -/
theorem declares_preset_iff (node : SettingsNode) (settings : Json) (space : String)
    (segments : List String) :
    node.Declares settings space (Reference.propertyName space ("preset" :: segments)) ↔
      ∃ category origin, ∃ item ∈ PresetCategory.catalog category node.presets origin, ∃ slug,
        Preset.slug? item = some slug ∧ (Preset.css? category item settings space).isSome ∧
          segments.map kebabCase = [category.segment, kebabCase slug] := by
  have hdomain : kebabCase "custom" ≠ kebabCase "preset" := by decide +kernel
  rw [declares_iff]
  constructor
  · rintro ⟨declaration, hmem, hproperty⟩
    rcases List.mem_append.1 hmem with hpreset | hcustom
    · obtain ⟨category, origin, item, hitem, hdeclaration⟩ :=
        (Preset.mem_declarations_iff _ _ _ _).1 hpreset
      obtain ⟨slug, hslug, hvalue, heq⟩ :=
        (Preset.declaration?_eq_some_iff _ _ _ _ _).1 hdeclaration
      obtain ⟨-, hsegments⟩ :=
        (Reference.propertyName_cons_eq_iff _ _ _ _ _).1 (heq.symm.trans hproperty)
      rw [List.map_cons, category.kebabCase_segment] at hsegments
      exact ⟨category, origin, item, hitem, slug, hslug, Option.isSome_of_eq_some hvalue,
        hsegments.symm⟩
    · -- custom values have a domain of their own
      rcases hvalue : node.custom with _ | custom
      · rw [hvalue] at hcustom
        cases hcustom
      · rw [hvalue] at hcustom
        obtain ⟨rest, heq⟩ := CustomValue.exists_segments_of_mem_declarations space ["custom"]
          custom declaration hcustom
        obtain ⟨hsame, -⟩ :=
          (Reference.propertyName_cons_eq_iff _ _ _ _ _).1 (heq.symm.trans hproperty)
        exact absurd hsame hdomain
  · rintro ⟨category, origin, item, hitem, slug, hslug, hvalued, hsegments⟩
    obtain ⟨value, hvalue⟩ := Option.isSome_iff_exists.1 hvalued
    refine ⟨⟨Reference.propertyName space ["preset", category.segment, slug], value⟩,
      List.mem_append_left _ ((Preset.mem_declarations_iff _ _ _ _).2
        ⟨category, origin, item, hitem, ?_⟩), ?_⟩
    · exact (Preset.declaration?_eq_some_iff _ _ _ _ _).2 ⟨slug, hslug, hvalue, rfl⟩
    · refine (Reference.propertyName_cons_eq_iff _ _ _ _ _).2 ⟨rfl, ?_⟩
      rw [hsegments, List.map_cons, category.kebabCase_segment]
      rfl

/-- The node of the root, or that of a scope, declares a custom property of this name. -/
def DeclaredFor (tree : Json) (registry : Registry) (space : String) (scope : Option String)
    (name : String) : Prop :=
  ∃ node ∈ all tree registry, (node.scope = none ∨ node.scope = scope) ∧
    node.Declares (Stylesheet.settings tree) space name

section

variable {tree : Json} {registry : Registry} {space : String} {scope : Option String}

/-- What is declared for a scope has one segment for the category and one for the slug. -/
theorem length_of_declaredFor {segments : List String}
    (h : DeclaredFor tree registry space scope
      (Reference.propertyName space ("preset" :: segments))) : segments.length = 2 := by
  obtain ⟨node, -, -, hdeclares⟩ := h
  obtain ⟨_, _, _, _, _, -, -, hsegments⟩ := (declares_preset_iff _ _ _ _).1 hdeclares
  simpa using congrArg List.length hsegments

/-- **What is declared for a scope is what its settings and those of the root define.** -/
theorem declaredFor_iff (htree : tree.WellFormed)
    (hvalued : Preset.AllValued (Stylesheet.settings tree) space)
    (hscope : ∀ name ∈ scope, (Entries.get? registry name).isSome) (category : PresetCategory)
    (slug : String) :
    DeclaredFor tree registry space scope
        (Reference.propertyName space ["preset", category.segment, slug]) ↔
      ∃ source ∈ Preset.sources (Stylesheet.settings tree) scope,
        Preset.Defines source category slug := by
  constructor
  · rintro ⟨node, hnode, howner, hdeclares⟩
    obtain ⟨source, hsource, hmade⟩ := exists_source_of_mem_all htree hnode howner
    obtain ⟨other, origin, item, hitem, own, hown, -, hsegments⟩ :=
      (declares_preset_iff _ _ _ _).1 hdeclares
    rw [List.map_cons, List.map_singleton, category.kebabCase_segment] at hsegments
    obtain ⟨hsegment, hslug⟩ := List.cons.inj hsegments
    obtain rfl := PresetCategory.segment_injective hsegment
    rw [eq_of_ofSettings? hmade, category.catalog_pickPresets] at hitem
    refine ⟨source, hsource, origin, item, hitem, ?_⟩
    exact (Preset.hasSlug_iff _ _).2 ⟨own, hown, (List.singleton_inj.1 hslug).symm⟩
  · rintro ⟨source, hsource, origin, item, hitem, hslug⟩
    obtain ⟨owner, selector, howner, hmem⟩ := exists_owner_of_mem_sources hscope hsource
    obtain ⟨node, hmade⟩ := Option.isSome_iff_exists.1 (isSome_ofSettings? hitem owner selector)
    obtain ⟨own, hown, hsame⟩ := (Preset.hasSlug_iff _ _).1 hslug
    have hvalue := hvalued source (Preset.mem_of_mem_sources hsource) category category.mem_all
      origin origin.mem_all item hitem (Option.isSome_of_eq_some hown)
    have hnode := eq_of_ofSettings? hmade
    refine ⟨node, hmem node hmade, by rwa [hnode], (declares_preset_iff _ _ _ _).2
      ⟨category, origin, item, ?_, own, hown, hvalue, ?_⟩⟩
    · rwa [hnode, category.catalog_pickPresets]
    · rw [List.map_cons, List.map_singleton, category.kebabCase_segment, hsame]

end

end SettingsNode

open SettingsNode (DeclaredFor)

/-- **Presets that exist are declared.** In a well-formed tree in which every item with a slug has a
value, for the root or a registered scope: the token for a slug of a category compiles to the
`var()` of some name, and unless the slug has a bar, the preset exists exactly when the node of the
root or of the scope declares that name. A slug with a bar gives no token for a preset: it counts as
existing, and no such name is declared. -/
theorem presetExists_iff_declaredFor {tree : Json} (htree : tree.WellFormed) {space : String}
    (hvalued : Preset.AllValued (Stylesheet.settings tree) space) {registry : Registry}
    {scope : Option String} (hscope : ∀ name ∈ scope, (Entries.get? registry name).isSome)
    (category : PresetCategory) (slug : String) :
    ∃ name,
      Reference.compile (Reference.presetToken category slug) space = "var(" ++ name ++ ")" ∧
        ('|' ∉ slug.toList →
          (Reference.presetExists (Stylesheet.settings tree) scope
              (Reference.presetToken category slug) space = true ↔
            DeclaredFor tree registry space scope name)) ∧
        ('|' ∈ slug.toList →
          Reference.presetExists (Stylesheet.settings tree) scope
              (Reference.presetToken category slug) space = true ∧
            ¬DeclaredFor tree registry space scope name) := by
  refine ⟨_, Reference.compile_presetToken category slug space, fun hbar ↦ ?_, fun hbar ↦ ⟨?_, ?_⟩⟩
  · rw [Reference.presetExists_presetToken_iff category space _ scope hbar,
      Reference.barSegments_of_notMem hbar,
      SettingsNode.declaredFor_iff htree hvalued hscope]
  · exact Reference.presetExists_presetToken_of_bar category space _ scope hbar
  · intro hdeclared
    obtain ⟨first, second, rest, hsegments⟩ := Reference.exists_barSegments_of_mem hbar
    have hlength := SettingsNode.length_of_declaredFor hdeclared
    simp [hsegments] at hlength

/-- Settings with an ink for all quotes and another for one block, and a slug with a bar. -/
def treeWithInks : Json :=
  .obj [("settings", .obj
    [("color", .obj [("palette", .obj [("theme", .arr
        [.obj [("slug", .str "a|b"), ("color", .str "#111")]])])]),
      ("blocks", .obj [("core/quote", .obj [("color", .obj [("palette", .obj [("custom", .arr
        [.obj [("slug", .str "quoteInk"), ("color", .str "#222")]])])])])])])]

/-- The registry of the quote. -/
def registryOfQuote : Registry :=
  [("core/quote", .ofSelector "blockquote")]

/-- The ink of the quote exists there, in whatever way its slug is written, and is declared. -/
theorem presetExists_iff_declaredFor_quote :
    treeWithInks.WellFormed ∧ Preset.AllValued (Stylesheet.settings treeWithInks) "wp" ∧
      (∀ name ∈ some "core/quote", (Entries.get? registryOfQuote name).isSome) ∧
      '|' ∉ "quote ink".toList ∧
      Reference.compile (Reference.presetToken .color "quote ink") "wp" =
        "var(--wp--preset--color--quote-ink)" ∧
      DeclaredFor treeWithInks registryOfQuote "wp" (some "core/quote")
        "--wp--preset--color--quote-ink" := by
  have htree : treeWithInks.WellFormed := by
    simp [treeWithInks, WellFormed, FieldsWellFormed, ItemsWellFormed]
  have hvalued : Preset.AllValued (Stylesheet.settings treeWithInks) "wp" := by decide +kernel
  have hscope : ∀ name ∈ some "core/quote", (Entries.get? registryOfQuote name).isSome := by
    decide
  have hbar : '|' ∉ "quote ink".toList := by decide
  have hcompile : Reference.compile (Reference.presetToken .color "quote ink") "wp" =
      "var(--wp--preset--color--quote-ink)" := by decide +kernel
  have hexists : Reference.presetExists (Stylesheet.settings treeWithInks) (some "core/quote")
      (Reference.presetToken .color "quote ink") "wp" = true := by decide +kernel
  obtain ⟨name, hname, hiff, -⟩ :=
    presetExists_iff_declaredFor htree hvalued hscope .color "quote ink"
  have heq : "var(" ++ "--wp--preset--color--quote-ink" ++ ")" = "var(" ++ name ++ ")" :=
    hcompile.symm.trans hname
  rw [String.append_left_inj, String.append_right_inj] at heq
  rw [← heq] at hiff
  exact ⟨htree, hvalued, hscope, hbar, hcompile, (hiff hbar).1 hexists⟩

/-- **Not every slug makes a token for its preset.** The settings have an item whose slug has a bar.
The text made of this slug counts as a preset that exists, but the name that it compiles to is not
declared: the item is declared under another one. -/
theorem presetExists_of_slug_with_bar :
    treeWithInks.WellFormed ∧ Preset.AllValued (Stylesheet.settings treeWithInks) "wp" ∧
      Reference.presetExists (Stylesheet.settings treeWithInks) none
        (Reference.presetToken .color "a|b") "wp" = true ∧
      Reference.compile (Reference.presetToken .color "a|b") "wp" =
        "var(" ++ "--wp--preset--color--a--b" ++ ")" ∧
      ¬DeclaredFor treeWithInks registryOfQuote "wp" none "--wp--preset--color--a--b" ∧
      DeclaredFor treeWithInks registryOfQuote "wp" none "--wp--preset--color--a-b" := by
  have htree : treeWithInks.WellFormed := by
    simp [treeWithInks, WellFormed, FieldsWellFormed, ItemsWellFormed]
  have hvalued : Preset.AllValued (Stylesheet.settings treeWithInks) "wp" := by decide +kernel
  refine ⟨htree, hvalued, by decide +kernel, by decide +kernel, ?_, ?_⟩
  · intro hdeclared
    have hname : "--wp--preset--color--a--b" =
        Reference.propertyName "wp" ("preset" :: ["color", "a", "b"]) := by decide +kernel
    rw [hname] at hdeclared
    exact absurd (SettingsNode.length_of_declaredFor hdeclared) (by decide)
  · have hname : "--wp--preset--color--a-b" =
        Reference.propertyName "wp" ["preset", PresetCategory.color.segment, "a|b"] := by
      decide +kernel
    have hroot : ∀ name ∈ (none : Option String), (Entries.get? registryOfQuote name).isSome :=
      fun _ hname ↦ by cases hname
    rw [hname, SettingsNode.declaredFor_iff htree hvalued hroot, ← Preset.isSome_bySlug?_iff]
    decide +kernel

end GlobalStyles
