import GlobalStyles.Proofs.Style.Refs
import GlobalStyles.Proofs.Style.Unresolved
import GlobalStyles.Proofs.Stylesheet.Norm
import GlobalStyles.Proofs.Stylesheet.Without

/-!
# Scopes that the registry does not know

A scope that the registry does not know is reported, once, and contributes nothing else: without it
the tree compiles to the same texts, and all other problems are the same
(`compile_of_unregistered`).

It gives no nodes, so what is left to show is that no other node reads it. Its presets are not
looked for, since a node looks in its own block and in the root. The only way into its styles are
values elsewhere that point there. So the statement asks that no `ref` of the tree does so
(`Json.NeverPointsInto`), and two contexts, one of the tree and one of the tree without the scope,
read all styles alike then.
-/

namespace GlobalStyles

open Json

/-! ### Places in a scope -/

/-- The keys that name a place. -/
def placeKeys (place : String) : List String :=
  (place.toList.splitOn '.').map String.ofList

/-- A place lies in a scope, among the blocks of the styles or of the settings. -/
def PointsInto (scope place : String) : Prop :=
  ["styles", "blocks", scope] <+: placeKeys place ∨
    ["settings", "blocks", scope] <+: placeKeys place

instance (scope place : String) : Decidable (PointsInto scope place) :=
  inferInstanceAs (Decidable (_ ∨ _))

namespace Json

/-- No `ref` of a tree points into a scope. -/
def NeverPointsInto (tree : Json) (scope : String) : Prop :=
  tree.Meets (.refs fun place ↦ ¬PointsInto scope place)

/-- The scopes that have a place among the blocks of a branch, in order. -/
def blockKeys (tree : Json) (branch : String) : List String :=
  Entries.keys (tree.down [branch, "blocks"]).entries

/-- Away from the members of a scope, what is found looks the same without them. -/
theorem surface_find?_withoutScope {scope : String} {path : List String}
    (hstyles : ¬["styles", "blocks", scope] <+: path)
    (hsettings : ¬["settings", "blocks", scope] <+: path) (tree : Json) :
    ((tree.withoutScope scope).find? path).map surface = (tree.find? path).map surface :=
  (surface_find?_modify_erase ["settings", "blocks"] hsettings _).trans
    (surface_find?_modify_erase ["styles", "blocks"] hstyles tree)

end Json

/-! ### Contexts -/

namespace StyleContext

variable {scope : String} (tree : Json) (space : String)

theorem settings?_ofTree (owner : Option String) :
    ((ofTree tree space).within owner).settings? = tree.get? ["settings"] :=
  rfl

/-- Values that do not point into a scope have the same texts without it. -/
theorem readAlike_withoutScope (owner : Option String) :
    ReadAlike (fun place ↦ ¬PointsInto scope place)
      ((ofTree (tree.withoutScope scope) space).within owner)
      ((ofTree tree space).within owner) where
  space := rfl
  paddingAlign := paddingAlign_withoutScope tree space
  placeText place hplace := by
    have hsurface := surface_find?_withoutScope (fun hin ↦ hplace (.inl hin))
      (fun hin ↦ hplace (.inr hin)) tree
    show ((tree.withoutScope scope).get? (placeKeys place)).bind Json.css? =
      (tree.get? (placeKeys place)).bind Json.css?
    rw [bind_css?_get?, bind_css?_get?, hsurface]

/-- A declaration asks the settings for the typography only, which is no block's. -/
theorem declare_withoutScope (owner : Option String) :
    ((ofTree (tree.withoutScope scope) space).within owner).declare =
      ((ofTree tree space).within owner).declare := by
  have hfluid : ((ofTree (tree.withoutScope scope) space).within owner).fluid =
      ((ofTree tree space).within owner).fluid := by
    rw [fluid, fluid, settings?_ofTree, settings?_ofTree, get?_settings_withoutScope]
    rcases tree.get? ["settings"] with _ | settings
    · rfl
    · rw [Option.map_some, Option.bind_some, Option.bind_some, get?_withoutBlock (by decide)]
  funext entry
  rw [declare, declare, hfluid]
  rfl

/-- Whoever is not the scope itself finds the same presets without it. -/
theorem reports_withoutScope {owner : Option String} (h : owner ≠ some scope) :
    ((ofTree (tree.withoutScope scope) space).within owner).reports =
      ((ofTree tree space).within owner).reports := by
  funext text
  rw [reports, reports, settings?_ofTree, settings?_ofTree, get?_settings_withoutScope]
  rcases tree.get? ["settings"] with _ | settings
  · rfl
  · have hexists := Reference.presetExists_withoutBlock settings h text space
    have hspace (tree : Json) : ((ofTree tree space).within owner).space = space := rfl
    rw [hspace, hspace, Option.map_some]
    rcases Reference.parse? text space with _ | ⟨segment, slug⟩ | path
    · rfl
    · show (if Reference.presetExists (settings.withoutBlock scope) owner text space then [] else
          [Diagnostic.unresolvedReference text owner]) =
        if Reference.presetExists settings owner text space then [] else
          [Diagnostic.unresolvedReference text owner]
      rw [hexists]
    · rfl

end StyleContext

/-! ### Nodes -/

namespace StyleNode

/-- The block a node belongs to is known to the registry. -/
theorem isSome_of_mem_all {tree : Json} {registry : Registry} {skipFilters : Bool}
    {node : StyleNode} (h : node ∈ all tree registry skipFilters) {scope : String}
    (hscope : node.place.scope? = some scope) : (Entries.get? registry scope).isSome := by
  cases ofTree_of_mem_all h with
  | root => cases hscope
  | rootElement _ => cases hscope
  | block _ hentry =>
    cases hscope
    exact Option.isSome_of_eq_some hentry
  | blockElement _ hentry _ =>
    cases hscope
    exact Option.isSome_of_eq_some hentry

end StyleNode

namespace Stylesheet

/-- Values that do not point into a scope say the same without it. -/
theorem sayAlike_withoutScope {scope : String} (tree : Json) (space : String)
    (owner : Option String) :
    StyleContext.SayAlike (.refs fun place ↦ ¬PointsInto scope place)
      ((StyleContext.ofTree (tree.withoutScope scope) space).within owner)
      ((StyleContext.ofTree tree space).within owner) :=
  fun _ hstyles isRoot ↦
    (StyleContext.readAlike_withoutScope tree space owner).written_eq hstyles isRoot

section

variable {tree : Json} {scope : String} (h : tree.NeverPointsInto scope) {registry : Registry}
  (options : CompileOptions)
include h

/-- The rules of every node are the same. -/
theorem nodeRules_withoutScope {node : StyleNode}
    (hnode : node ∈ StyleNode.all tree registry options.skipFilters) :
    nodeRules (tree.withoutScope scope) options node = nodeRules tree options node := by
  rw [nodeRules, nodeRules, LayoutKind.all_withoutScope, supportsBlockGap_withoutScope]
  exact StyleNode.rules_eq_of_sayAlike (sayAlike_withoutScope tree options.space _)
    (StyleNode.meets_of_mem_all h hnode) _ (StyleContext.declare_withoutScope tree _ _) _

variable (hscope : Entries.get? registry scope = none)
include hscope

/-- And so are the problems met in it. -/
theorem nodeDiagnostics_withoutScope {node : StyleNode}
    (hnode : node ∈ StyleNode.all tree registry options.skipFilters) :
    nodeDiagnostics (tree.withoutScope scope) options node = nodeDiagnostics tree options node := by
  have howner : node.place.scope? ≠ some scope := by
    intro heq
    have hknown := StyleNode.isSome_of_mem_all hnode heq
    rw [hscope] at hknown
    cases hknown
  exact StyleNode.styleDiagnostics_eq_of_sayAlike (sayAlike_withoutScope tree options.space _)
    (StyleNode.meets_of_mem_all h hnode) _ (StyleContext.reports_withoutScope tree _ howner)

/-- **Nothing of an unknown scope is in the styles.** -/
theorem styles_withoutScope :
    styles (tree.withoutScope scope) registry options = styles tree registry options := by
  have hnodes : ∀ node ∈ StyleNode.all tree registry options.skipFilters,
      nodeRules (tree.withoutScope scope) options node = nodeRules tree options node :=
    fun node hnode ↦ nodeRules_withoutScope h options hnode
  rw [styles, styles, settings_withoutScope, reset_withoutBlock,
    StyleContext.paddingAlign_withoutScope, StyleNode.all_withoutScope tree hscope,
    List.flatMap_congr hnodes, gapRules_withoutScope, SettingsNode.all_withoutScope tree hscope]

end

/-! ### Problems -/

/-- What is reported of a node is about a reference. -/
theorem exists_of_mem_nodeDiagnostics {tree : Json} {options : CompileOptions} {node : StyleNode}
    {diagnostic : Diagnostic} (h : diagnostic ∈ nodeDiagnostics tree options node) :
    ∃ token, diagnostic = .unresolvedReference token node.place.scope? := by
  rw [nodeDiagnostics, StyleNode.styleDiagnostics_eq] at h
  obtain ⟨entry, -, hreport⟩ := List.mem_flatMap.1 h
  exact ⟨entry.text, ((StyleContext.mem_reports_iff _ _ _).1 hreport).1⟩

theorem mem_unregistered_iff (registry : Registry) (names : List String) (scope : String) :
    .registryMismatch scope ∈ unregistered registry names ↔
      scope ∈ names ∧ Entries.get? registry scope = none := by
  simp [unregistered]

theorem keys_blocks_withSeparatorColors (tree : Json) :
    (StyleNode.blocks (withSeparatorColors tree)).map Prod.fst = tree.blockKeys "styles" :=
  (scopes_withSeparatorColors tree).trans (scopes_eq tree)

theorem keys_settingsBlocks_withSeparatorColors (tree : Json) :
    (SettingsNode.blocks (withSeparatorColors tree)).map Prod.fst = tree.blockKeys "settings" := by
  have hchild : (withSeparatorColors tree).child "settings" = tree.child "settings" := by
    rw [child, child, member?_withSeparatorColors]
  rw [SettingsNode.blocks_eq_entries, hchild]
  rfl

/-- A scope is reported to be unknown exactly when it is among the blocks of a branch and the
registry does not know it. -/
theorem registryMismatch_mem_reports_iff (tree : Json) (registry : Registry)
    (options : CompileOptions) (scope : String) :
    .registryMismatch scope ∈ reports (withSeparatorColors tree) registry options ↔
      (scope ∈ tree.blockKeys "styles" ∨ scope ∈ tree.blockKeys "settings") ∧
        Entries.get? registry scope = none := by
  have hnodes : .registryMismatch scope ∉
      (StyleNode.all (withSeparatorColors tree) registry options.skipFilters).flatMap
        (nodeDiagnostics (withSeparatorColors tree) options) := by
    intro hmem
    obtain ⟨node, -, hreport⟩ := List.mem_flatMap.1 hmem
    obtain ⟨token, hne⟩ := exists_of_mem_nodeDiagnostics hreport
    cases hne
  rw [reports, List.mem_append, or_iff_left hnodes, List.mem_append, StyleNode.diagnostics,
    SettingsNode.diagnostics, keys_blocks_withSeparatorColors,
    keys_settingsBlocks_withSeparatorColors, mem_unregistered_iff, mem_unregistered_iff,
    or_and_right]

/-- The names of blocks without a scope. -/
theorem unregistered_filter (scope : String) (registry : Registry) (blocks : Fields) :
    unregistered registry ((blocks.filter fun entry ↦ entry.1 ≠ scope).map Prod.fst) =
      (unregistered registry (blocks.map Prod.fst)).filter (· ≠ .registryMismatch scope) := by
  rw [filter_unregistered, List.filter_map]
  congr 3
  funext entry
  simp

/-- Without the scope everything is reported but that it is unknown. -/
theorem reports_withoutScope {tree : Json} {scope : String} (h : tree.NeverPointsInto scope)
    {registry : Registry} (hscope : Entries.get? registry scope = none)
    (options : CompileOptions) :
    reports (tree.withoutScope scope) registry options =
      (reports tree registry options).filter (· ≠ .registryMismatch scope) := by
  have hnodes : ∀ node ∈ StyleNode.all tree registry options.skipFilters,
      nodeDiagnostics (tree.withoutScope scope) options node = nodeDiagnostics tree options node :=
    fun node hnode ↦ nodeDiagnostics_withoutScope h options hscope hnode
  have hkept : ((StyleNode.all tree registry options.skipFilters).flatMap
        (nodeDiagnostics tree options)).filter (· ≠ .registryMismatch scope) =
      (StyleNode.all tree registry options.skipFilters).flatMap (nodeDiagnostics tree options) := by
    refine List.filter_eq_self.2 fun diagnostic hmem ↦ decide_eq_true ?_
    obtain ⟨node, -, hreport⟩ := List.mem_flatMap.1 hmem
    obtain ⟨token, rfl⟩ := exists_of_mem_nodeDiagnostics hreport
    exact Diagnostic.noConfusion
  rw [reports, reports, StyleNode.all_withoutScope tree hscope, List.flatMap_congr hnodes,
    StyleNode.diagnostics, SettingsNode.diagnostics, StyleNode.blocks_withoutScope,
    SettingsNode.blocks_withoutScope, unregistered_filter, unregistered_filter,
    List.filter_append, List.filter_append, hkept]
  rfl

theorem neverPointsInto_withSeparatorColors {tree : Json} {scope : String}
    (h : tree.NeverPointsInto scope) : (withSeparatorColors tree).NeverPointsInto scope :=
  meets_withSeparatorColors h fun key hkey text ↦ by
    refine Norm.refs_entry_of_ne ?_ text
    rintro rfl
    exact absurd hkey (by decide)

end Stylesheet

open Stylesheet

/-- **An unregistered scope contributes nothing but its report.** Of every tree, registry, options
and scope: that the registry does not know the scope is reported exactly when the scope is among the
blocks of the styles or of the settings and has no entry in the registry, and it is reported once.
If it has no entry and no `ref` of the tree points into it, then without the scope the tree compiles
to the same texts, and to the same other problems in the same order. -/
theorem compile_of_unregistered (tree : Json) (registry : Registry) (options : CompileOptions)
    (scope : String) :
    (.registryMismatch scope ∈ (compile tree registry options).diagnostics ↔
        (scope ∈ tree.blockKeys "styles" ∨ scope ∈ tree.blockKeys "settings") ∧
          Entries.get? registry scope = none) ∧
      (compile tree registry options).diagnostics.count (.registryMismatch scope) ≤ 1 ∧
      (Entries.get? registry scope = none → tree.NeverPointsInto scope →
        (compile (tree.withoutScope scope) registry options).customPropertiesCss =
            (compile tree registry options).customPropertiesCss ∧
          (compile (tree.withoutScope scope) registry options).stylesCss =
            (compile tree registry options).stylesCss ∧
          (compile (tree.withoutScope scope) registry options).customCss =
            (compile tree registry options).customCss ∧
          (compile (tree.withoutScope scope) registry options).diagnostics =
            (compile tree registry options).diagnostics.filter (· ≠ .registryMismatch scope)) := by
  refine ⟨?_, ?_, fun hscope hrefs ↦ ?_⟩
  · exact (Diagnostics.mem_toList_ofReports_iff _ _).trans
      (registryMismatch_mem_reports_iff tree registry options scope)
  · exact List.nodup_iff_count_le_one.1 (Diagnostics.nodup_toList_ofReports _) _
  · have hfilled := neverPointsInto_withSeparatorColors hrefs
    have hproperties (node : SettingsNode) (settings : Json) :
        node.customProperties (settings.withoutBlock scope) options.space =
          node.customProperties settings options.space :=
      node.customProperties_withoutBlock settings options.space
    simp only [compile, Bundle.customPropertiesCss, Bundle.stylesCss,
      withSeparatorColors_withoutScope]
    refine ⟨?_, ?_, ?_, ?_⟩
    · simp only [settings_withoutScope, SettingsNode.all_withoutScope _ hscope, hproperties]
    · rw [styles_withoutScope hfilled options hscope]
    · exact customCss_withoutScope _ hscope
    · rw [reports_withoutScope hfilled hscope, Diagnostics.toList_ofReports_filter]

/-- A tree with a block that is no longer registered, in both branches, next to a card whose text
has the colour of the site's. -/
def treeWithOldBlock : Json :=
  .obj
    [("settings", .obj
      [("blocks", .obj
        [("core/old", .obj [("color", .obj [("palette", .obj [("theme", .arr
          [.obj [("slug", .str "ink"), ("color", .str "navy")]])])])])])]),
      ("styles", .obj
        [("color", .obj [("text", .str "ref:preset|color|ink")]),
          ("blocks", .obj
            [("core/old", .obj [("color", .obj [("text", .str "red")]), ("css", .str "top: 0")]),
              ("core/card", .obj [("color", .obj
                [("text", .obj [("ref", .str "styles.color.text")])])])])])]

/-- The same tree without the block. -/
def treeWithoutOldBlock : Json :=
  .obj
    [("settings", .obj [("blocks", .obj [])]),
      ("styles", .obj
        [("color", .obj [("text", .str "ref:preset|color|ink")]),
          ("blocks", .obj
            [("core/card", .obj [("color", .obj
              [("text", .obj [("ref", .str "styles.color.text")])])])])])]

/-- The registry of the card. -/
def registryOfCard : Registry :=
  [("core/card", .ofSelector ".card")]

/-- The old block is reported once, although it stands in both branches. Without it the styles are
the same, and what is left of the problems are the two uses of a colour that only the old block
defines. -/
theorem compile_of_unregistered_old_block :
    Entries.get? registryOfCard "core/old" = none ∧ treeWithOldBlock.NeverPointsInto "core/old" ∧
      treeWithOldBlock.withoutScope "core/old" = treeWithoutOldBlock ∧
      (compile treeWithOldBlock registryOfCard .standard).diagnostics.count
        (.registryMismatch "core/old") = 1 ∧
      (compile treeWithoutOldBlock registryOfCard .standard).stylesCss =
        (compile treeWithOldBlock registryOfCard .standard).stylesCss ∧
      (compile treeWithOldBlock registryOfCard .standard).diagnostics.filter
          (· ≠ .registryMismatch "core/old") =
        [.unresolvedReference "ref:preset|color|ink" none,
          .unresolvedReference "ref:preset|color|ink" (some "core/card")] := by
  have hunknown : Entries.get? registryOfCard "core/old" = none := rfl
  have hrefs : treeWithOldBlock.NeverPointsInto "core/old" := by
    have hplace : ¬PointsInto "core/old" "styles.color.text" := by decide +kernel
    simp [NeverPointsInto, treeWithOldBlock, Meets, FieldsMeet, ItemsMeet, Norm.refs, Json.text?,
      hplace]
  have hcut : treeWithOldBlock.withoutScope "core/old" = treeWithoutOldBlock := rfl
  obtain ⟨hiff, honce, hsame⟩ :=
    compile_of_unregistered treeWithOldBlock registryOfCard .standard "core/old"
  obtain ⟨-, hstyles, -, hdiagnostics⟩ := hsame hunknown hrefs
  rw [hcut] at hstyles hdiagnostics
  have hreported := hiff.2 ⟨.inl (by decide), hunknown⟩
  have hleft : reports (withSeparatorColors treeWithoutOldBlock) registryOfCard .standard =
      [.unresolvedReference "ref:preset|color|ink" none,
        .unresolvedReference "ref:preset|color|ink" (some "core/card")] := by
    decide +kernel
  refine ⟨hunknown, hrefs, hcut, ?_, hstyles, ?_⟩
  · exact Nat.le_antisymm honce (List.one_le_count_iff.2 hreported)
  · rw [← hdiagnostics]
    have hnodup : (reports (withSeparatorColors treeWithoutOldBlock) registryOfCard
        .standard).Nodup := by
      rw [hleft]
      decide
    exact (Diagnostics.toList_ofReports_of_nodup hnodup).trans hleft

end GlobalStyles
