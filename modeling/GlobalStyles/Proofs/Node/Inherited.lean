import GlobalStyles.Proofs.Node.Style
import GlobalStyles.Proofs.Style.Inherited
import GlobalStyles.Stylesheet.Node

/-!
# Nodes of styles with an inherited property

A style node is a choice of members of the style branch, and its parts are taken out of its styles.
So where the branch has a property that objects share with their entries, the styles of every node
have it (`StyleNode.inherited_of_mem_all`), and so has every subtree that a rule of a node is made
of (`NodeParts.inherited_ofNode`).
-/

namespace GlobalStyles

open Json

namespace NodeParts

/-- The subtrees that the rules of a node are made of, each with whether it is compiled as the
root. -/
def subtrees (node : StyleNode) (parts : NodeParts) : List (Json × Bool) :=
  parts.features.map (fun part ↦ (part.styles, false)) ++
    parts.variations.flatMap (fun variation ↦
      variation.features.map (fun part ↦ (part.styles, false)) ++ [(variation.own, false)]) ++
    parts.duotone.toList.map (fun entry ↦ (entry.2, false)) ++
    [(parts.own, node.isRoot)] ++
    parts.pseudo.map fun entry ↦ (entry.2, false)

/-- What holds of all subtrees holds of those of each part. -/
theorem forall_mem_subtrees_iff (node : StyleNode) (parts : NodeParts) (P : Json → Prop) :
    (∀ subtree ∈ parts.subtrees node, P subtree.1) ↔
      (∀ part ∈ parts.features, P part.styles) ∧
        (∀ variation ∈ parts.variations,
          (∀ part ∈ variation.features, P part.styles) ∧ P variation.own) ∧
        (∀ entry ∈ parts.duotone.toList, P entry.2) ∧ P parts.own ∧
        ∀ entry ∈ parts.pseudo, P entry.2 := by
  simp only [subtrees, List.forall_mem_append, List.forall_mem_map, List.forall_mem_flatMap,
    List.forall_mem_singleton, and_assoc]

end NodeParts

variable {P : Json → Prop} {E : String → Json → Prop} (hP : Inherited P E)
include hP

/-! ### Nodes -/

namespace StyleNode

/-- Picking members keeps a property that objects share with their entries. -/
theorem inherited_pick {styles : Json} (h : P styles) (keys : List String) (skipFilters : Bool) :
    P (pick keys skipFilters styles) :=
  hP.filter (hP.obj_entries h) _

theorem inherited_withoutFilter {styles : Json} (h : P styles) (skipFilters : Bool) :
    P (withoutFilter skipFilters styles) := by
  cases styles with
  | obj fields =>
    rw [withoutFilter]
    split
    · exact hP.swapRemove h "filter"
    · exact h
  | _ => exact h

/-- **Every node has the property of the branch.** -/
theorem inherited_of_mem_all {tree : Json} (h : P (branch tree)) {registry : Registry}
    {skipFilters : Bool} {node : StyleNode} (hnode : node ∈ all tree registry skipFilters) :
    P node.styles := by
  have hblocks : ∀ member ∈ blocks tree, P member.2 := by
    intro member hmember
    rw [blocks_eq_entries] at hmember
    exact hP.value (hP.of_mem_entries (hP.child h "blocks") hmember)
  cases ofTree_of_mem_all hnode with
  | root => exact inherited_pick hP h _ skipFilters
  | rootElement hget => exact inherited_withoutFilter hP (hP.of_get? h hget) skipFilters
  | block hmember _ => exact inherited_pick hP (hblocks _ hmember) _ skipFilters
  | blockElement hmember _ hinner =>
    have hentry := hP.of_mem_entries (hP.child (hblocks _ hmember) "elements") hinner
    exact inherited_withoutFilter hP (hP.value hentry) skipFilters

end StyleNode

/-! ### Parts -/

namespace NodeParts

theorem inherited_takeDuotone {styles : Json} (h : P styles) (selector : Option String) :
    (∀ entry ∈ (takeDuotone selector styles).1.toList, P entry.2) ∧
      P (takeDuotone selector styles).2 := by
  unfold takeDuotone
  split
  · split <;> rename_i hget
    · exact ⟨List.forall_mem_nil _, h⟩
    · exact ⟨List.forall_mem_singleton.2 (hP.singleton (hP.of_member? h hget)),
        hP.swapRemove h "filter"⟩
  · exact ⟨List.forall_mem_nil _, h⟩

/-- **Every subtree of a node has the property of the node's styles.** -/
theorem inherited_ofNode {node : StyleNode} (h : P node.styles) (variationStyles : Bool) :
    ∀ subtree ∈ (ofNode node variationStyles).subtrees node, P subtree.1 := by
  obtain ⟨hfeatures, hleft⟩ := FeaturePart.inherited_take hP node.featureSelectors h
  obtain ⟨hduotone, hown⟩ := inherited_takeDuotone hP hleft node.duotoneSelector
  refine (forall_mem_subtrees_iff node _ P).2 ⟨hfeatures, ?_, hduotone, hown, fun entry hmem ↦ ?_⟩
  · intro variation hmem
    simp only [ofNode] at hmem
    split at hmem
    · obtain ⟨selector, -, hsome⟩ := List.mem_filterMap.1 hmem
      obtain ⟨subtree, hget, rfl⟩ := Option.map_eq_some_iff.1 hsome
      exact FeaturePart.inherited_take hP node.featureSelectors (hP.of_get? hleft hget)
    · cases hmem
  · exact hP.value (hP.of_mem_entries hown (List.mem_filter.1 hmem).1)

end NodeParts

end GlobalStyles
