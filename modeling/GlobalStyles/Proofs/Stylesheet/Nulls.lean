import GlobalStyles.Proofs.Reports
import GlobalStyles.Proofs.Stylesheet.Alike

/-!
# Null means absence

A `null` among the styles is the same as no entry: a tree and what is left of it after any of its
`null` entries inside `styles` were taken out compile to the same custom properties, the same rules,
the same CSS and the same filters (`compile_of_dropsStyleNulls`). Only the list of blocks still
shows a `null`, so a block that was taken out of it is no longer reported as unknown to the
registry.

While filters are skipped it does not hold: an element's filter is taken out by moving the last
entry into its place, so a `null` at the end decides whether a pseudo-selector moves.
-/

namespace GlobalStyles

open Json

/-! ### Trees without some entries -/

/-- The second tree is the first without one entry that is `null`, inside its styles. -/
inductive DropsStyleNull : Json → Json → Prop
  | styles (before after : Fields) {styles left : Json} (h : DropsNull styles left) :
    DropsStyleNull (.obj (before ++ ("styles", styles) :: after))
      (.obj (before ++ ("styles", left) :: after))

/-- The second tree is the first without some entries that are `null`, all of them inside its
styles. -/
def DropsStyleNulls : Json → Json → Prop :=
  Relation.ReflTransGen DropsStyleNull

theorem DropsStyleNull.dropsNull {tree cut : Json} (h : DropsStyleNull tree cut) :
    DropsNull tree cut := by
  rcases h with ⟨before, after, h⟩
  exact .inside before "styles" after h

/-- The settings stay when a `null` of the styles goes. -/
theorem DropsStyleNull.member?_settings {tree cut : Json} (h : DropsStyleNull tree cut) :
    tree.member? "settings" = cut.member? "settings" := by
  rcases h with ⟨before, after, h⟩
  rw [member?_obj, member?_obj, Entries.get?_append_cons_of_ne _ _ _ (by decide),
    Entries.get?_append_cons_of_ne _ _ _ (by decide)]

namespace DropsStyleNulls

variable {tree cut : Json}

theorem dropsNulls (h : DropsStyleNulls tree cut) : DropsNulls tree cut :=
  Relation.ReflTransGen.mono (fun _ _ hstep ↦ hstep.dropsNull) _ _ h

theorem member?_settings (h : DropsStyleNulls tree cut) :
    tree.member? "settings" = cut.member? "settings" := by
  induction h with
  | refl => rfl
  | tail _ hstep ih => exact ih.trans hstep.member?_settings

end DropsStyleNulls

namespace Stylesheet

/-- **A tree without some of its `null`s is like the tree before**, with lines drawn in both. -/
theorem treesAlike_of_dropsStyleNulls {tree cut : Json} (htree : tree.WellFormed)
    (h : DropsStyleNulls tree cut) :
    TreesAlike (withSeparatorColors tree) (withSeparatorColors cut) :=
  treesAlike_withSeparatorColors (h.dropsNulls.agree htree) htree (h.dropsNulls.wellFormed htree)
    h.member?_settings (h.dropsNulls.inOrder htree)

/-! ### Blocks that were taken out -/

/-- The scopes that have a place among the blocks of the styles, `null` or not. -/
def scopes (tree : Json) : List String :=
  Entries.keys (StyleNode.blocks tree)

/-- The scopes of a tree are the keys of its blocks. -/
theorem scopes_eq (tree : Json) :
    scopes tree = Entries.keys (tree.down ["styles", "blocks"]).entries := by
  rw [scopes, StyleNode.blocks_eq_entries, StyleNode.child_branch, down_cons, down_cons, down_nil]

/-- Filling in the colour of separators adds no block. -/
theorem scopes_withSeparatorColors (tree : Json) :
    scopes (withSeparatorColors tree) = scopes tree := by
  rw [withSeparatorColors_eq]
  split
  · rfl
  · -- the line is drawn for a separator that has colours, so its block is there already
    rename_i line hline
    have hchild : (tree.down ["styles", "blocks"]).child separatorScope ≠ null := by
      intro hnull
      have hobject := isObject_of_separatorLine? hline
      have hcolors : tree.down separatorColors =
          ((tree.down ["styles", "blocks"]).child separatorScope).child "color" := rfl
      rw [hcolors, hnull, child_null] at hobject
      cases hobject
    have hblocks : (tree.set (separatorColors ++ ["text"]) line).down ["styles", "blocks"] =
        (tree.down ["styles", "blocks"]).set [separatorScope, "color", "text"] line := by
      simp only [separatorColors, List.cons_append, List.nil_append, down_cons, down_nil,
        child_set_cons, if_true]
    rw [scopes_eq, scopes_eq, hblocks]
    exact (Entries.keys_put _ _ _).trans (if_pos (mem_keys_of_child_ne_null hchild))

/-- Whether a problem is that the registry does not know a scope whose place among the blocks was
taken out. -/
def isOfDroppedScope (tree cut : Json) : Diagnostic → Bool
  | .registryMismatch scope => decide (scope ∈ scopes tree ∧ scope ∉ scopes cut)
  | .unresolvedReference _ _ => false

/-- A choice among reports of unknown scopes is one among the scopes. -/
theorem filter_unregistered (p : Diagnostic → Bool) (registry : Registry) (names : List String) :
    (unregistered registry names).filter p =
      unregistered registry (names.filter fun name ↦ p (.registryMismatch name)) := by
  rw [unregistered, unregistered, List.filter_map, List.filter_filter, List.filter_filter]
  congr 2
  funext name
  exact Bool.and_comm _ _

/-- The blocks that are reported are the same but for those that were taken out. -/
theorem filter_diagnostics_eq {tree cut : Json} (htree : tree.WellFormed)
    (h : DropsStyleNulls tree cut) (registry : Registry) :
    (StyleNode.diagnostics (withSeparatorColors tree) registry).filter
        (!isOfDroppedScope tree cut ·) =
      (StyleNode.diagnostics (withSeparatorColors cut) registry).filter
        (!isOfDroppedScope tree cut ·) := by
  have hscopes (t : Json) : StyleNode.diagnostics (withSeparatorColors t) registry =
      unregistered registry (scopes t) := by
    rw [← scopes_withSeparatorColors t]
    rfl
  have hsublist : (scopes cut).Sublist (scopes tree) := by
    rw [scopes_eq, scopes_eq]
    exact h.dropsNulls.keys_sublist htree ["styles", "blocks"]
  have hnodup : (scopes tree).Nodup := by
    rw [scopes_eq]
    exact nodup_keys_entries (wellFormed_down htree _)
  have hkept := filter_eq_of_sublist hsublist hnodup
    (p := fun name ↦ !isOfDroppedScope tree cut (.registryMismatch name)) fun name hmem hleft ↦ by
      rw [isOfDroppedScope, decide_eq_true ⟨hmem, hleft⟩]
      rfl
  rw [hscopes, hscopes, filter_unregistered, filter_unregistered, hkept]

/-- The problems met are the same but for the scopes whose blocks were taken out. -/
theorem filter_reports_eq {tree cut : Json} (htree : tree.WellFormed) (h : DropsStyleNulls tree cut)
    (registry : Registry) {options : CompileOptions} (hoptions : options.skipFilters = false) :
    (reports (withSeparatorColors tree) registry options).filter (!isOfDroppedScope tree cut ·) =
      (reports (withSeparatorColors cut) registry options).filter
        (!isOfDroppedScope tree cut ·) := by
  have halike := treesAlike_of_dropsStyleNulls htree h
  have hnodes := StyleNode.flatMap_all_congr (halike.readAlike_nodeDiagnostics options) registry
    halike.branches
  rw [reports, reports, hoptions, halike.settingsDiagnostics_eq, hnodes, List.filter_append,
    List.filter_append, filter_diagnostics_eq htree h, ← List.filter_append, ← List.filter_append]

end Stylesheet

open Stylesheet

/-- **Null means absence for styles.** While filters are not skipped, a well-formed tree and what is
left of it without some of the `null` entries inside its styles compile to the same texts and the
same filters, and the same problems are reported, but for scopes unknown to the registry whose own
place among the blocks was taken out. -/
theorem compile_of_dropsStyleNulls {tree cut : Json} (htree : tree.WellFormed)
    (h : DropsStyleNulls tree cut) (registry : Registry) {options : CompileOptions}
    (hoptions : options.skipFilters = false) :
    (compile cut registry options).customPropertiesCss =
        (compile tree registry options).customPropertiesCss ∧
      (compile cut registry options).stylesCss = (compile tree registry options).stylesCss ∧
      (compile cut registry options).customCss = (compile tree registry options).customCss ∧
      (compile cut registry options).filters = (compile tree registry options).filters ∧
      (compile cut registry options).diagnostics.filter (!isOfDroppedScope tree cut ·) =
        (compile tree registry options).diagnostics.filter (!isOfDroppedScope tree cut ·) := by
  have halike := treesAlike_of_dropsStyleNulls htree h
  have hsettings := halike.settings_eq
  have hproperties : (compile cut registry options).customProperties =
      (compile tree registry options).customProperties := by
    simp only [compile, hsettings, halike.settingsNodes_eq]
  have hstyles : (compile cut registry options).styles = (compile tree registry options).styles :=
    (halike.styles_eq registry hoptions).symm
  refine ⟨congrArg Rule.textOfAll hproperties, congrArg Rule.textOfAll hstyles,
    (halike.customCss_eq registry).symm, ?_, ?_⟩
  · simp only [compile, hsettings]
  · simp only [compile]
    rw [← Diagnostics.toList_ofReports_filter, ← Diagnostics.toList_ofReports_filter,
      filter_reports_eq htree h registry hoptions]

/-- A tree with a `null` for a block, for a category, for a pseudo-selector, for a colour of the
separator, and for a member that a feature takes. -/
def treeWithNulls : Json :=
  .obj [("styles", .obj
    [("color", .null),
      ("elements", .obj [("link", .obj
        [(":hover", .null), (":focus", .obj [("color", .obj [("text", .str "red")])])])]),
      ("blocks", .obj
        [("core/old", .null),
          ("core/separator", .obj [("color", .obj [("text", .null), ("background", .str "navy")])]),
          ("core/card", .obj [("border", .obj [("radius", .null), ("color", .str "blue")])])])])]

/-- The same tree without them. -/
def treeWithoutNulls : Json :=
  .obj [("styles", .obj
    [("elements", .obj [("link", .obj
        [(":focus", .obj [("color", .obj [("text", .str "red")])])])]),
      ("blocks", .obj
        [("core/separator", .obj [("color", .obj [("background", .str "navy")])]),
          ("core/card", .obj [("border", .obj [("color", .str "blue")])])])])]

/-- A registry with a card, whose border has selectors for its parts, and a separator. -/
def cardRegistry : Registry :=
  [("core/card", { BlockSelectors.ofSelector ".card" with
      featureSelectors := [("border", .split [("radius", ".card img"), ("root", ".card")])] }),
    ("core/separator", .ofSelector "hr")]

/-- Without its five entries with `null` the tree compiles to the same, and of the problems only the
unknown block that is gone can be missing. -/
theorem compile_of_dropsStyleNulls_card :
    treeWithNulls.WellFormed ∧ DropsStyleNulls treeWithNulls treeWithoutNulls ∧
      CompileOptions.standard.skipFilters = false ∧
      isOfDroppedScope treeWithNulls treeWithoutNulls (.registryMismatch "core/old") = true ∧
      (compile treeWithoutNulls cardRegistry .standard).stylesCss =
        (compile treeWithNulls cardRegistry .standard).stylesCss ∧
      (compile treeWithoutNulls cardRegistry .standard).diagnostics.filter
          (!isOfDroppedScope treeWithNulls treeWithoutNulls ·) =
        (compile treeWithNulls cardRegistry .standard).diagnostics.filter
          (!isOfDroppedScope treeWithNulls treeWithoutNulls ·) := by
  have hwell : treeWithNulls.WellFormed := by
    simp [treeWithNulls, Json.WellFormed, Json.FieldsWellFormed]
  have hdrops : DropsStyleNulls treeWithNulls treeWithoutNulls := by
    refine .head (.styles [] [] (.here [] "color" _)) ?_
    refine .head (.styles [] [] (.inside [] "elements" _ (.inside [] "link" [] (.here [] _ _)))) ?_
    refine .head (.styles [] [] (.inside [_] "blocks" [] (.here [] "core/old" _))) ?_
    refine .head (.styles [] [] (.inside [_] "blocks" []
      (.inside [] "core/separator" _ (.inside [] "color" [] (.here [] "text" _))))) ?_
    exact .single (.styles [] [] (.inside [_] "blocks" []
      (.inside [_] "core/card" [] (.inside [] "border" [] (.here [] "radius" _)))))
  have hoptions : CompileOptions.standard.skipFilters = false := rfl
  obtain ⟨-, hstyles, -, -, hdiagnostics⟩ :=
    compile_of_dropsStyleNulls hwell hdrops cardRegistry hoptions
  exact ⟨hwell, hdrops, hoptions, by decide, hstyles, hdiagnostics⟩

end GlobalStyles
