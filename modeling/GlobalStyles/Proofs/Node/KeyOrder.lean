import GlobalStyles.Proofs.Json.Sameness
import GlobalStyles.Proofs.Stylesheet.Alike

/-!
# The nodes of reordered trees

The order of keys decides in which order blocks, and the elements of a block, have their nodes, and
so it shows in the list of nodes. It does not show in what the nodes are, apart from the order of
keys inside their styles. So a reading of nodes that sees nothing of that order reads the same of
all nodes of two trees, in some order (`StyleNode.perm_flatMap_all`).
-/

namespace GlobalStyles

open Json

namespace Json

/-- Whether a subtree is empty does not depend on an order. -/
theorem isEmptySubtree_eq_of_reordered {a b : Json} (h : a.Reordered b) :
    a.isEmptySubtree = b.isEmptySubtree := by
  have hlength := h.perm_keys.length_eq
  rw [Entries.keys, Entries.keys, List.length_map, List.length_map] at hlength
  rw [isEmptySubtree, isEmptySubtree, Bool.eq_iff_iff, List.isEmpty_iff_length_eq_zero,
    List.isEmpty_iff_length_eq_zero, hlength]

end Json

/-- Scopes in another order are reported in another order. -/
theorem perm_unregistered (registry : Registry) {scopes others : List String}
    (h : scopes.Perm others) : (unregistered registry scopes).Perm (unregistered registry others) :=
  (h.filter _).map _

namespace StyleNode

/-- A reading of nodes that does not see the order of keys. What it reads of an element may come in
another order, since pseudo-selectors stand among its keys. -/
structure OrderBlind {α : Type} (read : StyleNode → List α) : Prop where
  picked (node : StyleNode) {a b : Json} : a.Agree b → a.WellFormed → b.WellFormed →
    Entries.keys a.entries ⊆ pickedKeys → Entries.keys b.entries ⊆ pickedKeys →
    read { node with styles := a } = read { node with styles := b }
  plain {place : NodePlace} (selector : String) {a b : Json} : place ≠ .root → a.Reordered b →
    a.WellFormed → b.WellFormed →
    (read (.plain place selector a)).Perm (read (.plain place selector b))

section

variable {a b : Json} (h : a.Reordered b) (ha : a.WellFormed) (hb : b.WellFormed)
include h ha hb

/-- Leaving out the filter keeps subtrees the same up to order. -/
theorem reordered_withoutFilter (skipFilters : Bool) :
    (withoutFilter skipFilters a).Reordered (withoutFilter skipFilters b) := by
  rcases (h.agree ha hb).isObject_cases with ⟨hobject, hobject'⟩ | ⟨fields, others, rfl, rfl⟩
  · have hsame {tree : Json} (htree : tree.isObject = false) :
        withoutFilter skipFilters tree = tree := by
      cases tree with
      | obj fields => cases htree
      | _ => rfl
    rw [hsame hobject, hsame hobject']
    exact h
  · cases skipFilters with
    | false => exact h
    | true => exact h.swapRemove ha hb "filter"

/-- The styles of reordered trees are reordered. -/
theorem reordered_branch : (branch a).Reordered (branch b) :=
  h.getD_get? ha hb ["styles"] _

theorem reordered_blocks : ((branch a).child "blocks").Reordered ((branch b).child "blocks") :=
  (reordered_branch h ha hb).child (wellFormed_branch ha) (wellFormed_branch hb) "blocks"

theorem perm_diagnostics (registry : Registry) :
    (diagnostics a registry).Perm (diagnostics b registry) := by
  rw [diagnostics, diagnostics, blocks_eq_entries, blocks_eq_entries]
  exact perm_unregistered registry (reordered_blocks h ha hb).perm_keys

variable {α : Type} {read : StyleNode → List α} (hread : OrderBlind read) (skipFilters : Bool)
include hread

/-- An element of the root is in both trees or in neither, and reads the same. -/
theorem perm_flatMap_rootElement? (element : Element) :
    ((rootElement? a skipFilters element).toList.flatMap read).Perm
      ((rootElement? b skipFilters element).toList.flatMap read) := by
  rw [rootElement?, rootElement?]
  rcases h.get?_cases ha hb ["elements", element.name] with
    ⟨hnone, hnone'⟩ | ⟨v, w, hv, hw, hvalue, hwell, hwell'⟩
  · rw [hnone, hnone']
  · have hsubtree := reordered_withoutFilter hvalue hwell hwell' skipFilters
    simp only [hv, hw, isEmptySubtree_eq_of_reordered hsubtree]
    split
    · exact .nil
    · simp only [Option.toList_some, List.flatMap_singleton]
      exact hread.plain _ NodePlace.noConfusion hsubtree
        (wellFormed_withoutFilter skipFilters hwell) (wellFormed_withoutFilter skipFilters hwell')

theorem perm_flatMap_blockElement? (scope : String) (entry : BlockSelectors) (key : String) :
    ((blockElement? scope entry skipFilters (key, a)).toList.flatMap read).Perm
      ((blockElement? scope entry skipFilters (key, b)).toList.flatMap read) := by
  rw [blockElement?, blockElement?]
  rcases Element.ofName? key with _ | element
  · exact .nil
  · have hsubtree := reordered_withoutFilter h ha hb skipFilters
    simp only [isEmptySubtree_eq_of_reordered hsubtree]
    split
    · exact .nil
    · simp only [Option.toList_some, List.flatMap_singleton]
      exact hread.plain _ NodePlace.noConfusion hsubtree
        (wellFormed_withoutFilter skipFilters ha) (wellFormed_withoutFilter skipFilters hb)

/-- A node whose members are picked by name. -/
theorem read_pick (node : StyleNode) {keys : List String} (hkeys : keys ⊆ pickedKeys) :
    read { node with styles := pick keys skipFilters a } =
      read { node with styles := pick keys skipFilters b } :=
  hread.picked node (agree_pick keys skipFilters (h.agree ha hb) ha hb)
    (wellFormed_pick keys skipFilters ha) (wellFormed_pick keys skipFilters hb)
    (List.Subset.trans (keys_pick_subset keys skipFilters a) hkeys)
    (List.Subset.trans (keys_pick_subset keys skipFilters b) hkeys)

/-- The nodes of a block read the same, in some order. -/
theorem perm_flatMap_ofBlock (registry : Registry) (scope : String) :
    ((ofBlock registry skipFilters (scope, a)).flatMap read).Perm
      ((ofBlock registry skipFilters (scope, b)).flatMap read) := by
  rw [ofBlock, ofBlock]
  rcases Entries.get? registry scope with _ | entry
  · exact .nil
  · simp only [List.flatMap_append, entries_get?, List.filterMap_eq_flatMap_toList,
      List.flatMap_assoc]
    refine .append (.of_eq ?_) ?_
    · rw [block?, block?,
        isEmptySubtree_pick_congr (ownKeys ++ ["variations"]) skipFilters (h.agree ha hb) ha hb]
      split
      · rfl
      · simp only [Option.toList_some, List.flatMap_singleton]
        exact read_pick h ha hb hread skipFilters (ofEntry scope entry .null)
          (List.Subset.refl pickedKeys)
    · have helements := h.child ha hb "elements"
      refine helements.perm_flatMap_entries (wellFormed_child ha "elements")
        (wellFormed_child hb "elements") fun key v w hvalue hv hw ↦ ?_
      exact perm_flatMap_blockElement? hvalue hv hw hread skipFilters scope entry key

/-- **Readings that do not see the order of keys read the same of all nodes**, in some order. -/
theorem perm_flatMap_all (registry : Registry) :
    ((all a registry skipFilters).flatMap read).Perm
      ((all b registry skipFilters).flatMap read) := by
  have hbranch := reordered_branch h ha hb
  have hwell := wellFormed_branch ha
  have hwell' := wellFormed_branch hb
  simp only [all, List.flatMap_append, List.flatMap_cons, List.flatMap_assoc,
    List.filterMap_eq_flatMap_toList, blocks_eq_entries]
  refine .append (.append (.of_eq ?_) (.flatMap_left _ fun element _ ↦ ?_)) ?_
  · exact read_pick hbranch hwell hwell' hread skipFilters
      { plain .root rootSelector .null with hasLayoutSupport := true }
      (List.subset_append_left ownKeys _)
  · exact perm_flatMap_rootElement? hbranch hwell hwell' hread skipFilters element
  · refine (reordered_blocks h ha hb).perm_flatMap_entries (wellFormed_child hwell "blocks")
      (wellFormed_child hwell' "blocks") fun scope v w hvalue hv hw ↦ ?_
    exact perm_flatMap_ofBlock hvalue hv hw hread skipFilters registry scope

end

end StyleNode

end GlobalStyles
