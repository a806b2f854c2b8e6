import GlobalStyles.Proofs.Node.Inherited
import GlobalStyles.Proofs.Style.Norm
import GlobalStyles.Proofs.Stylesheet.Alike
import GlobalStyles.Proofs.Stylesheet.Written

/-!
# Nodes of trees that meet a norm

A style node is a choice of members of a tree, and its parts are taken out of its styles. So where
the tree meets a norm, every node does (`StyleNode.meets_of_mem_all`), and every subtree that a rule
of a node is made of (`NodeParts.allMeet_ofNode`). What contexts say of such subtrees alone then
decides what they make of the nodes (`StyleNode.rules_eq_of_sayAlike`).
-/

namespace GlobalStyles

open Json

variable {norm : Norm}

/-! ### Nodes -/

namespace StyleNode

/-- The styles meet what the tree meets. -/
theorem meets_branch {tree : Json} (h : tree.Meets norm) : (branch tree).Meets norm := by
  rw [branch]
  rcases hget : tree.get? ["styles"] with _ | styles
  · trivial
  · exact h.of_get? hget

/-- **Every node of a tree meets what the tree does.** -/
theorem meets_of_mem_all {tree : Json} (h : tree.Meets norm) {registry : Registry}
    {skipFilters : Bool} {node : StyleNode} (hnode : node ∈ all tree registry skipFilters) :
    node.styles.Meets norm :=
  inherited_of_mem_all norm.inherited (meets_branch h) hnode

end StyleNode

/-- Separator colours are a part of the tree under keys of their own. -/
theorem Stylesheet.meets_withSeparatorColors {tree : Json} (h : tree.Meets norm)
    (hkeys : ∀ key ∈ separatorColors ++ ["text"], ∀ text, norm.entry key text) :
    (withSeparatorColors tree).Meets norm := by
  rw [withSeparatorColors_eq]
  split <;> rename_i hline
  · exact h
  · exact h.set hkeys (h.of_get? (get?_of_separatorLine? hline))

/-! ### Parts -/

/-- The subtrees of a variation meet a norm. -/
structure VariationParts.AllMeet (norm : Norm) (parts : VariationParts) : Prop where
  features : FeaturePart.AllMeet norm parts.features
  own : parts.own.Meets norm

/-- The subtrees of a node meet a norm. -/
structure NodeParts.AllMeet (norm : Norm) (parts : NodeParts) : Prop where
  features : FeaturePart.AllMeet norm parts.features
  variations : ∀ variation ∈ parts.variations, variation.AllMeet norm
  duotone : ∀ entry ∈ parts.duotone.toList, entry.2.Meets norm
  own : parts.own.Meets norm
  pseudo : ∀ entry ∈ parts.pseudo, entry.2.Meets norm

/-- **Every subtree of a node meets what the node's styles do.** -/
theorem NodeParts.allMeet_ofNode {node : StyleNode} (h : node.styles.Meets norm)
    (variationStyles : Bool) : (ofNode node variationStyles).AllMeet norm := by
  obtain ⟨hfeatures, hvariations, hduotone, hown, hpseudo⟩ :=
    (forall_mem_subtrees_iff node _ _).1 (inherited_ofNode norm.inherited h variationStyles)
  exact ⟨hfeatures, fun variation hmem ↦ ⟨(hvariations variation hmem).1,
    (hvariations variation hmem).2⟩, hduotone, hown, hpseudo⟩

/-! ### Contexts that say the same -/

/-- Two contexts that say the same of all styles that meet a norm. -/
def StyleContext.SayAlike (norm : Norm) (ctx other : StyleContext) : Prop :=
  ∀ styles : Json, styles.Meets norm →
    ∀ isRoot, ctx.written styles isRoot = other.written styles isRoot

variable {ctx other : StyleContext} (hsay : StyleContext.SayAlike norm ctx other)
include hsay

/-- Parts that meet the norm say the same in both contexts. -/
theorem FeaturePart.AllMeet.written_eq {parts : List FeaturePart} (h : AllMeet norm parts) :
    written ctx parts = written other parts :=
  List.flatMap_congr fun part hmem ↦ hsay part.styles (h part hmem) false

theorem FeaturePart.AllMeet.writtenRules_eq {parts : List FeaturePart} (h : AllMeet norm parts)
    (name : String → String) : writtenRules ctx name parts = writtenRules other name parts := by
  have hsame : (parts.map fun part ↦ (part.selector, ctx.written part.styles false)) =
      parts.map fun part ↦ (part.selector, other.written part.styles false) :=
    List.map_congr_left fun part hmem ↦ by rw [hsay part.styles (h part hmem) false]
  rw [writtenRules, writtenRules, writtenGroups, writtenGroups, hsame]

theorem VariationParts.AllMeet.written_eq {parts : VariationParts} (h : parts.AllMeet norm) :
    parts.written ctx = parts.written other := by
  rw [written, written, h.features.written_eq hsay, hsay parts.own h.own]

/-- The rules of a variation that meets the norm. -/
theorem VariationParts.AllMeet.writtenRules_eq {parts : VariationParts} (h : parts.AllMeet norm) :
    parts.writtenRules ctx = parts.writtenRules other := by
  rw [writtenRules, writtenRules, h.features.writtenRules_eq hsay, hsay parts.own h.own]

namespace NodeParts.AllMeet

variable {parts : NodeParts} (h : parts.AllMeet norm)
include h

/-- The written rules before the layout of a node. -/
theorem rulesBefore_eq : parts.rulesBefore ctx = parts.rulesBefore other := by
  have hvariations : parts.variations.flatMap (VariationParts.writtenRules ctx) =
      parts.variations.flatMap (VariationParts.writtenRules other) :=
    List.flatMap_congr fun variation hmem ↦ (h.variations variation hmem).writtenRules_eq hsay
  have hduotone : (parts.duotone.toList.flatMap fun entry ↦
        WrittenRule.make .terminated entry.1 (ctx.written entry.2 false)) =
      parts.duotone.toList.flatMap fun entry ↦
        WrittenRule.make .terminated entry.1 (other.written entry.2 false) :=
    List.flatMap_congr fun entry hmem ↦ by rw [hsay entry.2 (h.duotone entry hmem)]
  rw [rulesBefore, rulesBefore, h.features.writtenRules_eq hsay, hvariations, hduotone]

theorem rulesAfter_eq (node : StyleNode) :
    parts.rulesAfter ctx node = parts.rulesAfter other node := by
  have hpseudo : (parts.pseudo.flatMap fun entry ↦
        WrittenRule.make .terminated (Selector.append node.selector entry.1)
          (ctx.written entry.2 false)) =
      parts.pseudo.flatMap fun entry ↦
        WrittenRule.make .terminated (Selector.append node.selector entry.1)
          (other.written entry.2 false) :=
    List.flatMap_congr fun entry hmem ↦ by rw [hsay entry.2 (h.pseudo entry hmem)]
  rw [rulesAfter, rulesAfter, hsay parts.own h.own, hpseudo]

/-- A node that meets the norm says the same in both contexts. -/
theorem written_eq (node : StyleNode) : parts.written ctx node = parts.written other node := by
  have hvariations : parts.variations.flatMap (VariationParts.written ctx) =
      parts.variations.flatMap (VariationParts.written other) :=
    List.flatMap_congr fun variation hmem ↦ (h.variations variation hmem).written_eq hsay
  have hduotone : (parts.duotone.toList.flatMap fun entry ↦ ctx.written entry.2 false) =
      parts.duotone.toList.flatMap fun entry ↦ other.written entry.2 false :=
    List.flatMap_congr fun entry hmem ↦ hsay entry.2 (h.duotone entry hmem) false
  have hpseudo : (parts.pseudo.flatMap fun entry ↦ ctx.written entry.2 false) =
      parts.pseudo.flatMap fun entry ↦ other.written entry.2 false :=
    List.flatMap_congr fun entry hmem ↦ hsay entry.2 (h.pseudo entry hmem) false
  rw [written, written, h.features.written_eq hsay, hvariations, hduotone, hsay parts.own h.own,
    hpseudo]

end NodeParts.AllMeet

namespace StyleNode

variable {node : StyleNode} (h : node.styles.Meets norm) (variationStyles : Bool)
include h

/-- **Contexts that say the same and declare the same give a node the same rules.** -/
theorem rules_eq_of_sayAlike (hdeclare : ctx.declare = other.declare) (layout : List Rule) :
    node.rules ctx variationStyles layout = node.rules other variationStyles layout := by
  have hparts := NodeParts.allMeet_ofNode h variationStyles
  have hcompile : WrittenRule.compile ctx = WrittenRule.compile other := by
    funext rule
    rw [WrittenRule.compile, WrittenRule.compile, hdeclare]
  rw [rules_eq, rules_eq, hparts.rulesBefore_eq hsay, hparts.rulesAfter_eq hsay, hcompile]

/-- **Contexts that say the same and report the same give a node the same reports.** -/
theorem styleDiagnostics_eq_of_sayAlike (hreports : ctx.reports = other.reports) :
    node.styleDiagnostics ctx variationStyles = node.styleDiagnostics other variationStyles := by
  have hparts := NodeParts.allMeet_ofNode h variationStyles
  rw [styleDiagnostics_eq, styleDiagnostics_eq, written, written, hparts.written_eq hsay, hreports]

end StyleNode

end GlobalStyles
