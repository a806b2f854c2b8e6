import GlobalStyles.Proofs.Style.Unresolved
import GlobalStyles.Proofs.Stylesheet.Unregistered

/-!
# Presets that are missing

A token that names no preset is still emitted, and it is reported with the block it was found in.
The report is exact for the rules that the styles of nodes are written as: while there are settings,
a token is reported of a scope exactly when a rule of a node of that scope carries it and the
settings, of the block or of the root, do not define what it names
(`unresolvedReference_mem_diagnostics_iff`).

Some tokens are emitted and never looked at (`unreported_tokens`). Without a settings branch nothing
is reported, although no preset is defined then. And a gap goes to the layout rules, which are not
made of written rules.
-/

namespace GlobalStyles

open Json Stylesheet

namespace Stylesheet

/-- A text is written in some rule of the styles that is made of the styles of a node of a scope. -/
def Carries (tree : Json) (registry : Registry) (options : CompileOptions) (scope : Option String)
    (text : String) : Prop :=
  ∃ node ∈ StyleNode.all (withSeparatorColors tree) registry options.skipFilters,
    node.place.scope? = scope ∧
      ∃ rule ∈ node.writtenRules (contextOf tree options scope) options.variationStyles,
        rule.compile (contextOf tree options scope) ∈ (compile tree registry options).styles ∧
          ∃ entry ∈ rule.entries, entry.text = text

/-- Every written rule of a node is among the styles, compiled. -/
theorem compile_mem_styles {tree : Json} {registry : Registry} {options : CompileOptions}
    {node : StyleNode} (hnode : node ∈ StyleNode.all tree registry options.skipFilters)
    {rule : WrittenRule}
    (hrule : rule ∈ node.writtenRules
      ((StyleContext.ofTree tree options.space).within node.place.scope?)
      options.variationStyles) :
    rule.compile ((StyleContext.ofTree tree options.space).within node.place.scope?) ∈
      styles tree registry options := by
  have hnodeRule : rule.compile
      ((StyleContext.ofTree tree options.space).within node.place.scope?) ∈
        nodeRules tree options node :=
    (node.mem_rules_iff _ _ _ _).2 (.inr ⟨rule, hrule, rfl⟩)
  exact (nodeRules_together hnode).subset hnodeRule

/-- A text stands in a rule exactly when a node of the scope says it. -/
theorem carries_iff (tree : Json) (registry : Registry) (options : CompileOptions)
    (scope : Option String) (text : String) :
    Carries tree registry options scope text ↔
      ∃ node ∈ StyleNode.all (withSeparatorColors tree) registry options.skipFilters,
        node.place.scope? = scope ∧
          ∃ entry ∈ node.written (contextOf tree options scope) options.variationStyles,
            entry.text = text := by
  constructor
  · rintro ⟨node, hnode, hscope, rule, hrule, -, entry, hentry, htext⟩
    exact ⟨node, hnode, hscope, entry,
      (node.mem_entries_writtenRules_iff _ _ entry).1 ⟨rule, hrule, hentry⟩, htext⟩
  · rintro ⟨node, hnode, rfl, entry, hsaid, htext⟩
    obtain ⟨rule, hrule, hentry⟩ := (node.mem_entries_writtenRules_iff _ _ entry).2 hsaid
    exact ⟨node, hnode, rfl, rule, hrule, compile_mem_styles hnode hrule, entry, hentry, htext⟩

/-- A missing preset is reported by the node whose styles say it. -/
theorem unresolvedReference_mem_nodeDiagnostics_iff (tree : Json) (options : CompileOptions)
    (node : StyleNode) (token : String) (scope : Option String) :
    .unresolvedReference token scope ∈ nodeDiagnostics tree options node ↔
      node.place.scope? = scope ∧
        (∃ settings, tree.get? ["settings"] = some settings ∧
          Reference.NamesNoPreset (Preset.sources settings scope) options.space token) ∧
        ∃ entry ∈ node.written ((StyleContext.ofTree tree options.space).within scope)
          options.variationStyles, entry.text = token := by
  rw [nodeDiagnostics, StyleNode.styleDiagnostics_eq, List.mem_flatMap]
  simp only [StyleContext.mem_reports_iff, StyleContext.settings?_ofTree,
    Diagnostic.unresolvedReference.injEq]
  constructor
  · rintro ⟨entry, hsaid, ⟨rfl, hscope⟩, hmissing⟩
    obtain rfl : scope = node.place.scope? := hscope
    exact ⟨rfl, hmissing, entry, hsaid, rfl⟩
  · rintro ⟨rfl, hmissing, entry, hsaid, rfl⟩
    exact ⟨entry, hsaid, ⟨rfl, rfl⟩, hmissing⟩

theorem get?_settings_withSeparatorColors (tree : Json) :
    (withSeparatorColors tree).get? ["settings"] = tree.get? ["settings"] := by
  rw [Json.get?, Json.get?, find?_cons, find?_cons, member?_withSeparatorColors]

end Stylesheet

/-- **Missing presets are reported exactly, as far as there are settings and the styles of nodes are
written as rules.** Of every tree, registry, options, token and scope: the token is reported of the
scope exactly when a rule of the styles that is made of the styles of a node of that scope carries
the token, the tree has settings, and the token is a reference to a preset that neither the settings
of that scope nor those of the root define. -/
theorem unresolvedReference_mem_diagnostics_iff (tree : Json) (registry : Registry)
    (options : CompileOptions) (token : String) (scope : Option String) :
    .unresolvedReference token scope ∈ (compile tree registry options).diagnostics ↔
      Carries tree registry options scope token ∧
        ∃ settings, tree.get? ["settings"] = some settings ∧
          Reference.NamesNoPreset (Preset.sources settings scope) options.space token := by
  have hunknown (names : List String) :
      .unresolvedReference token scope ∉ unregistered registry names := by
    simp [unregistered]
  have hreports : .unresolvedReference token scope ∈ (compile tree registry options).diagnostics ↔
      .unresolvedReference token scope ∈ reports (withSeparatorColors tree) registry options :=
    Diagnostics.mem_toList_ofReports_iff _ _
  rw [hreports, reports, List.mem_append, List.mem_append, StyleNode.diagnostics,
    SettingsNode.diagnostics, or_iff_right (not_or.2 ⟨hunknown _, hunknown _⟩), List.mem_flatMap,
    carries_iff, ← get?_settings_withSeparatorColors]
  simp only [unresolvedReference_mem_nodeDiagnostics_iff]
  constructor
  · rintro ⟨node, hnode, hscope, hmissing, hsaid⟩
    exact ⟨⟨node, hnode, hscope, hsaid⟩, hmissing⟩
  · rintro ⟨⟨node, hnode, hscope, hsaid⟩, hmissing⟩
    exact ⟨node, hnode, hscope, hmissing, hsaid⟩

/-- A tree without settings, whose text has a colour that nothing defines. -/
def treeWithoutSettings : Json :=
  .obj [("styles", .obj [("color", .obj [("text", .str "ref:preset|color|nope")])])]

/-- A tree with a layout, whose gap nothing defines. -/
def treeWithGap : Json :=
  .obj
    [("settings", .obj [("layout", .obj [("definitions", .obj [("flex", .obj
        [("className", .str "is-layout-flex"),
          ("spacingStyles", .arr [.obj [("rules", .obj [("gap", .null)])]])])])])]),
      ("styles", .obj [("spacing", .obj [("blockGap", .str "ref:preset|spacing|nope")])])]

/-- Not every missing preset is reported. A colour is emitted and defined nowhere, but the tree has
no settings. A gap is emitted by the layout of the root and defined nowhere, but it is no part of a
written rule. -/
theorem unreported_tokens :
    (Carries treeWithoutSettings [] .standard none "ref:preset|color|nope" ∧
        Reference.NamesNoPreset (Preset.sources (settings treeWithoutSettings) none) "wp"
          "ref:preset|color|nope" ∧
        .unresolvedReference "ref:preset|color|nope" none ∉
          (compile treeWithoutSettings [] .standard).diagnostics) ∧
      ⟨"body .is-layout-flex", [⟨"gap", Reference.compile "ref:preset|spacing|nope" "wp"⟩],
          .spaced⟩ ∈ nodeRules treeWithGap .standard
            (.root (StyleNode.branch treeWithGap) false) ∧
        Reference.NamesNoPreset (Preset.sources (settings treeWithGap) none) "wp"
          "ref:preset|spacing|nope" ∧
        .unresolvedReference "ref:preset|spacing|nope" none ∉
          (compile treeWithGap [] .standard).diagnostics := by
  have hcarries : Carries treeWithoutSettings [] .standard none "ref:preset|color|nope" := by
    rw [carries_iff]
    exact ⟨_, List.mem_cons_self, rfl, ⟨"color", "ref:preset|color|nope"⟩, by decide +kernel, rfl⟩
  have hcolor : Reference.presetExists (settings treeWithoutSettings) none
      "ref:preset|color|nope" "wp" = false := by decide +kernel
  have hgap : Reference.presetExists (settings treeWithGap) none
      "ref:preset|spacing|nope" "wp" = false := by decide +kernel
  have hnone : reports (withSeparatorColors treeWithoutSettings) [] .standard = [] := by
    decide +kernel
  have hnone' : reports (withSeparatorColors treeWithGap) [] .standard = [] := by decide +kernel
  refine ⟨⟨hcarries, (Reference.presetExists_eq_false_iff _ _ _ _).1 hcolor, ?_⟩, ?_,
    (Reference.presetExists_eq_false_iff _ _ _ _).1 hgap, ?_⟩
  · intro hmem
    have hreported := (Diagnostics.mem_toList_ofReports_iff _ _).1 hmem
    rw [hnone] at hreported
    cases hreported
  · decide +kernel
  · intro hmem
    have hreported := (Diagnostics.mem_toList_ofReports_iff _ _).1 hmem
    rw [hnone'] at hreported
    cases hreported

end GlobalStyles
