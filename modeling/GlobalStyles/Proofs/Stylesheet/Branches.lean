import GlobalStyles.Proofs.Stylesheet.Unregistered

/-!
# Trees with the same styles and settings

A compilation walks through the styles and the settings of a tree. Of everything else in the tree it
sees the texts at the places that a `ref` among the styles names, and nothing more. So two trees
with the same two branches compile to one bundle if these places have the same texts in both
(`compile_of_sameBranches`).

The colours of separators are filled in before, and what is filled in is a matter of the styles.
-/

namespace GlobalStyles

open Json

/-! ### Places -/

/-- The text at a place of a tree. -/
def Json.textAt? (tree : Json) (place : String) : Option String :=
  (tree.get? (placeKeys place)).bind Json.css?

/-- A place lies in the styles or in the settings. -/
def InBranches (place : String) : Prop :=
  ["styles"] <+: placeKeys place ∨ ["settings"] <+: placeKeys place

instance (place : String) : Decidable (InBranches place) :=
  inferInstanceAs (Decidable (_ ∨ _))

/-- A place names at least one key, if only an empty one. -/
theorem exists_placeKeys (place : String) : ∃ key path, placeKeys place = key :: path := by
  refine List.exists_cons_of_ne_nil fun hnil ↦ ?_
  exact List.splitOn_ne_nil _ _ (List.map_eq_nil_iff.1 hnil)

/-- The first key of a place tells whether it lies in the styles or the settings. -/
theorem inBranches_iff {place key : String} {path : List String}
    (h : placeKeys place = key :: path) :
    InBranches place ↔ key = "styles" ∨ key = "settings" := by
  simp [InBranches, h, List.cons_prefix_cons, eq_comm]

namespace Stylesheet

/-- Two trees with the same settings and the same styles. -/
structure SameBranches (a b : Json) : Prop extends SameSettings a b where
  styles : a.child "styles" = b.child "styles"

/-- A place that says the same in two trees with the same branches: it lies in one of these, or has
the same text anyway. -/
def SamePlace (a b : Json) (place : String) : Prop :=
  InBranches place ∨ a.textAt? place = b.textAt? place

/-! ### Separator colours -/

/-- The line of the separator is drawn inside the styles. -/
theorem child_withSeparatorColors_of_ne {key : String} (h : key ≠ "styles") (tree : Json) :
    (withSeparatorColors tree).child key = tree.child key := by
  rw [withSeparatorColors_eq]
  split
  · rfl
  · rw [separatorColors, List.cons_append, child_set_cons, if_neg h]

/-- What is filled in is a matter of the styles. -/
theorem child_styles_withSeparatorColors (tree : Json) :
    (withSeparatorColors tree).child "styles" =
      match separatorLine? tree with
      | none => tree.child "styles"
      | some line =>
        (tree.child "styles").set ["blocks", separatorScope, "color", "text"] line := by
  rw [withSeparatorColors_eq]
  rcases separatorLine? tree with _ | line
  · rfl
  · exact (child_set_cons tree "styles" "styles" _ line).trans (if_pos rfl)

/-- The colour of the line was in the styles before, so it meets what they meet. -/
theorem meets_styles_withSeparatorColors {norm : Norm} {tree : Json}
    (h : (tree.child "styles").Meets norm)
    (hkeys : ∀ key ∈ ["blocks", separatorScope, "color", "text"], ∀ text, norm.entry key text) :
    ((withSeparatorColors tree).child "styles").Meets norm := by
  rw [child_styles_withSeparatorColors]
  split <;> rename_i hline
  · exact h
  · have hfound := get?_of_separatorLine? hline
    rw [separatorColors, List.cons_append, get?_cons] at hfound
    exact h.set hkeys (h.of_get? hfound)

/-- The text at a place outside the branches does not change with the line. -/
theorem textAt?_withSeparatorColors {place : String} (h : ¬InBranches place) (tree : Json) :
    (withSeparatorColors tree).textAt? place = tree.textAt? place := by
  obtain ⟨key, path, hkeys⟩ := exists_placeKeys place
  rw [inBranches_iff hkeys, not_or] at h
  rw [textAt?, textAt?, hkeys, get?_cons, get?_cons, child_withSeparatorColors_of_ne h.1]

/-- A place that says the same does so after lines are drawn. -/
theorem SamePlace.withSeparatorColors {a b : Json} {place : String} (h : SamePlace a b place) :
    SamePlace (withSeparatorColors a) (withSeparatorColors b) place := by
  by_cases hin : InBranches place
  · exact .inl hin
  · refine .inr ?_
    rw [textAt?_withSeparatorColors hin, textAt?_withSeparatorColors hin]
    exact h.resolve_left hin

namespace SameBranches

variable {a b : Json} (h : SameBranches a b)
include h

theorem get?_styles (path : List String) :
    a.get? ("styles" :: path) = b.get? ("styles" :: path) := by
  rw [get?_cons, get?_cons, h.styles]

theorem withSeparatorColors :
    SameBranches (withSeparatorColors a) (withSeparatorColors b) where
  settings := by
    rw [child_withSeparatorColors_of_ne (by decide), child_withSeparatorColors_of_ne (by decide),
      h.settings]
  styles := by
    have hcolor (keys : List String) : separatorColor? a keys = separatorColor? b keys :=
      congrArg (Option.filter isTruthy) (h.get?_styles _)
    have hline : separatorLine? a = separatorLine? b := by
      simp only [separatorLine?, hcolor]
    rw [child_styles_withSeparatorColors, child_styles_withSeparatorColors, hline, h.styles]

/-! ### Nodes -/

theorem branch_eq : StyleNode.branch a = StyleNode.branch b := by
  rw [StyleNode.branch, StyleNode.branch, h.get?_styles]

theorem blocks_eq : StyleNode.blocks a = StyleNode.blocks b := by
  rw [StyleNode.blocks, StyleNode.blocks, h.branch_eq]

/-- Style nodes are made of the styles alone. -/
theorem nodes_eq (registry : Registry) (skipFilters : Bool) :
    StyleNode.all a registry skipFilters = StyleNode.all b registry skipFilters := by
  rw [StyleNode.all, StyleNode.all, h.branch_eq, h.blocks_eq]

/-- What a place says that lies in a branch, or says the same anyway. -/
theorem textAt?_eq {place : String} (hplace : SamePlace a b place) :
    a.textAt? place = b.textAt? place := by
  obtain ⟨key, path, hkeys⟩ := exists_placeKeys place
  rcases hplace with hin | htext
  · rw [textAt?, textAt?, hkeys]
    rcases (inBranches_iff hkeys).1 hin with rfl | rfl
    · rw [h.get?_styles]
    · rw [h.get?_settings]
  · exact htext

/-- Whether a token names a preset is up to the settings. -/
theorem reports_eq (space : String) (scope : Option String) :
    ((StyleContext.ofTree a space).within scope).reports =
      ((StyleContext.ofTree b space).within scope).reports := by
  funext text
  rw [StyleContext.reports, StyleContext.reports, StyleContext.settings?_ofTree,
    StyleContext.settings?_ofTree, h.get?_settings]
  rfl

section

variable {places : String → Prop} (hplaces : ∀ place, places place → SamePlace a b place)
include hplaces

/-- Values that point at such places only have the same texts in both trees. -/
theorem sayAlike (space : String) (scope : Option String) :
    StyleContext.SayAlike (.refs places) ((StyleContext.ofTree a space).within scope)
      ((StyleContext.ofTree b space).within scope) := by
  have hread : StyleContext.ReadAlike places ((StyleContext.ofTree a space).within scope)
      ((StyleContext.ofTree b space).within scope) :=
    { space := rfl
      paddingAlign := h.paddingAlign_eq space
      placeText := fun place hplace ↦ h.textAt?_eq (hplaces place hplace) }
  exact fun _ hstyles isRoot ↦ hread.written_eq hstyles isRoot

variable {node : StyleNode} (hnode : node.styles.Meets (.refs places)) (options : CompileOptions)
include hnode

/-- The rules of a node whose values point only at such places. -/
theorem nodeRules_eq : nodeRules a options node = nodeRules b options node := by
  rw [nodeRules, nodeRules, h.layoutKinds_eq, h.supportsBlockGap_eq]
  exact StyleNode.rules_eq_of_sayAlike (h.sayAlike hplaces options.space _) hnode _
    (h.declare_eq options.space _) _

/-- The problems met in such a node. -/
theorem nodeDiagnostics_eq : nodeDiagnostics a options node = nodeDiagnostics b options node :=
  StyleNode.styleDiagnostics_eq_of_sayAlike (h.sayAlike hplaces options.space _) hnode _
    (h.reports_eq options.space _)

end

/-! ### Parts of the bundle -/

theorem gapRules_eq (options : CompileOptions) : gapRules a options = gapRules b options := by
  rw [gapRules, gapRules, h.supportsBlockGap_eq, h.get?_styles]

/-- The author's CSS stands in the styles. -/
theorem customCss_eq (registry : Registry) : customCss a registry = customCss b registry := by
  rw [customCss, customCss, h.get?_styles, h.blocks_eq]

section

variable {places : String → Prop} (hplaces : ∀ place, places place → SamePlace a b place)
  (hrefs : (StyleNode.branch b).Meets (.refs places)) (registry : Registry)
  (options : CompileOptions)
include hplaces hrefs

/-- **The styles depend on the branches alone**, as long as no value points elsewhere. -/
theorem styles_eq :
    Stylesheet.styles a registry options = Stylesheet.styles b registry options := by
  have hrules : ∀ node ∈ StyleNode.all b registry options.skipFilters,
      nodeRules a options node = nodeRules b options node := fun node hnode ↦
    h.nodeRules_eq hplaces (StyleNode.inherited_of_mem_all (Norm.inherited _) hrefs hnode) options
  rw [Stylesheet.styles, Stylesheet.styles, h.settings_eq, h.paddingAlign_eq, h.nodes_eq,
    List.flatMap_congr hrules, h.gapRules_eq, h.settingsNodes_eq]

theorem allReports_eq : reports a registry options = reports b registry options := by
  have hdiagnostics : ∀ node ∈ StyleNode.all b registry options.skipFilters,
      nodeDiagnostics a options node = nodeDiagnostics b options node := fun node hnode ↦
    h.nodeDiagnostics_eq hplaces (StyleNode.inherited_of_mem_all (Norm.inherited _) hrefs hnode)
      options
  rw [reports, reports, h.nodes_eq, List.flatMap_congr hdiagnostics, h.settingsDiagnostics_eq,
    StyleNode.diagnostics, StyleNode.diagnostics, h.blocks_eq]

end

end SameBranches

end Stylesheet

open Stylesheet

/-- **Trees with the same styles and settings compile to one bundle**, if their styles point at no
place that says something else in the other tree. -/
theorem compile_of_sameBranches {a b : Json} (h : SameBranches a b) {places : String → Prop}
    (hplaces : ∀ place, places place → SamePlace a b place)
    (hrefs : (a.child "styles").Meets (.refs places)) (registry : Registry)
    (options : CompileOptions) : compile a registry options = compile b registry options := by
  rw [h.styles] at hrefs
  have hfilled := h.withSeparatorColors
  have hsame : ∀ place, places place →
      SamePlace (withSeparatorColors a) (withSeparatorColors b) place :=
    fun place hplace ↦ (hplaces place hplace).withSeparatorColors
  have hbranch : (StyleNode.branch (withSeparatorColors b)).Meets (.refs places) := by
    have hstyles := meets_styles_withSeparatorColors hrefs fun key hkey text ↦
      Norm.refs_entry_of_ne (by rintro rfl; exact absurd hkey (by decide)) text
    rw [StyleNode.branch, get?_cons, get?_nil]
    split
    · trivial
    · exact hstyles
  simp only [compile, hfilled.settings_eq, hfilled.settingsNodes_eq,
    hfilled.styles_eq hsame hbranch, hfilled.customCss_eq, hfilled.allReports_eq hsame hbranch]

end GlobalStyles
