import GlobalStyles.Proofs.Node.Order
import GlobalStyles.Proofs.Stylesheet.Unregistered

/-!
# Trees in which one block was edited

`Json.withBlock` exchanges the styles of a block where a tree has the block, which keeps its place
among the others. Two trees are the same but for a block if they become one when its styles are
taken away (`Json.SameButBlock`). Each of them is then the other with its own value in that place,
so it is enough to follow what a compilation reads of `tree.withBlock scope value` while the value
varies.

The settings do not change, nor does anything on a path that parts from that of the block. The list
of blocks keeps what stands before and after the edited one, and so does the list of nodes
(`StyleNode.exists_all_withBlock`).

Filling in the colour of separators writes into one block only. If that is another one, it can be
done before or after the edit, and if it is the edited one, nothing is left of it when its styles
are taken away (`Stylesheet.withSeparatorColors_withBlock_null`).
-/

namespace GlobalStyles

namespace Json

/-- A tree with another value for the styles of a block, where it has such a block. -/
def withBlock (tree : Json) (scope : String) (value : Json) : Json :=
  tree.modify (fun _ ↦ value) ["styles", "blocks", scope]

/-- Two trees differ at most in the styles of a block that both have at the same place. -/
def SameButBlock (scope : String) (a b : Json) : Prop :=
  a.withBlock scope null = b.withBlock scope null

variable {scope : String}

/-! ### Edits -/

/-- Whatever was done to the styles of a block before, the last edit counts. -/
theorem withBlock_modify (f : Json → Json) (tree value : Json) :
    (tree.modify f ["styles", "blocks", scope]).withBlock scope value =
      tree.withBlock scope value :=
  modify_modify_self _ tree

/-- A second edit of a block hides the first. -/
theorem withBlock_withBlock (tree first second : Json) :
    (tree.withBlock scope first).withBlock scope second = tree.withBlock scope second :=
  withBlock_modify _ tree second

theorem sameButBlock_withBlock (tree value : Json) :
    SameButBlock scope tree (tree.withBlock scope value) :=
  (withBlock_withBlock tree value null).symm

/-- Of two trees that are the same but for a block, one is the other with its own styles. -/
theorem SameButBlock.exists_eq_withBlock {a b : Json} (h : SameButBlock scope a b) :
    ∃ value, b = a.withBlock scope value := by
  refine ⟨b.down ["styles", "blocks", scope], ?_⟩
  calc
    b = b.withBlock scope (b.down ["styles", "blocks", scope]) := (modify_down_self _ b).symm
    _ = (b.withBlock scope null).withBlock scope (b.down ["styles", "blocks", scope]) :=
      (withBlock_withBlock b null _).symm
    _ = (a.withBlock scope null).withBlock scope (b.down ["styles", "blocks", scope]) := by rw [h]
    _ = a.withBlock scope (b.down ["styles", "blocks", scope]) := withBlock_withBlock a null _

/-! ### What an edit leaves -/

/-- A path of the styles that does not lead to the blocks leads to the same. -/
theorem get?_withBlock {key : String} (h : key ≠ "blocks") (path : List String)
    (tree value : Json) :
    (tree.withBlock scope value).get? ("styles" :: key :: path) =
      tree.get? ("styles" :: key :: path) := by
  refine get?_modify_of_diverge ?_ ?_ tree
  · rw [List.cons_prefix_cons, List.cons_prefix_cons]
    exact fun hpath ↦ h hpath.2.1.symm
  · rw [List.cons_prefix_cons, List.cons_prefix_cons]
    exact fun hpath ↦ h hpath.2.1

theorem child_styles_withBlock (tree value : Json) :
    (tree.withBlock scope value).child "styles" =
      (tree.child "styles").modify (fun _ ↦ value) ["blocks", scope] := by
  rw [withBlock, child_modify_cons rfl, if_pos rfl]

/-- Another block has the same styles. -/
theorem get?_withBlock_of_ne {name : String} (h : name ≠ scope) (path : List String)
    (tree value : Json) :
    (tree.withBlock scope value).get? ("styles" :: "blocks" :: name :: path) =
      tree.get? ("styles" :: "blocks" :: name :: path) := by
  refine get?_modify_of_diverge ?_ ?_ tree
  · simp only [List.cons_prefix_cons]
    exact fun hpath ↦ h hpath.2.2.1.symm
  · simp only [List.cons_prefix_cons]
    exact fun hpath ↦ h hpath.2.2.1

end Json

open Json

namespace StyleNode

variable {scope : String}

theorem child_branch_withBlock (tree value : Json) (key : String) :
    (branch (tree.withBlock scope value)).child key =
      if key = "blocks" then ((branch tree).child "blocks").modify (fun _ ↦ value) [scope]
      else (branch tree).child key := by
  rw [child_branch, child_branch, child_branch, child_styles_withBlock, child_modify_cons rfl]

/-- The list of blocks stays as it was around the edited one. -/
theorem exists_blocks_withBlock {tree : Json} (htree : tree.WellFormed) (scope : String) :
    ∃ before after, scope ∉ Entries.keys (before ++ after) ∧
      ∀ value, ∃ own, (∀ member ∈ own, member.1 = scope) ∧
        blocks (tree.withBlock scope value) = before ++ own ++ after := by
  have hblocks (value : Json) : blocks (tree.withBlock scope value) =
      (((branch tree).child "blocks").modify (fun _ ↦ value) [scope]).entries := by
    rw [blocks_eq_entries, child_branch_withBlock, if_pos rfl]
  obtain ⟨before, after, hparts, hothers⟩ := Entries.exists_parts (nodup_keys_blocks htree) scope
  rw [blocks_eq_entries] at hparts
  refine ⟨before, after, hothers, fun value ↦ ?_⟩
  rw [hblocks]
  rcases hmember : ((branch tree).child "blocks").member? scope with _ | old
  · rw [modify_of_member?_eq_none hmember]
    exact ⟨_, fun _ ↦ Entries.fst_of_mem_toList_map, hparts⟩
  · have hbefore : scope ∉ Entries.keys before := fun hmem ↦
      hothers (by rw [Entries.keys, List.map_append]; exact List.mem_append_left _ hmem)
    rw [show Entries.get? ((branch tree).child "blocks").entries scope = some old from hmember,
      Option.map_some, Option.toList_some, List.append_assoc, List.singleton_append] at hparts
    refine ⟨[(scope, value)], List.forall_mem_singleton.2 rfl, ?_⟩
    rw [modify_of_member? hmember, hparts, List.append_assoc, List.singleton_append]
    exact Entries.put_append_cons hbefore old value after

/-- An edit of a block does not touch the nodes of the root and its elements. -/
theorem rootNodes_withBlock (tree value : Json) (skipFilters : Bool) :
    rootNodes (tree.withBlock scope value) skipFilters = rootNodes tree skipFilters := by
  have hblocks : ownKeys.contains "blocks" = false := by decide
  have hroot : root (branch (tree.withBlock scope value)) skipFilters =
      root (branch tree) skipFilters := by
    rw [root, root, pick, pick, entries_branch, entries_branch, child_styles_withBlock,
      filter_entries_modify fun member ↦ by simp only [hblocks, Bool.and_false, Bool.false_and]]
  have helement : rootElement? (branch (tree.withBlock scope value)) skipFilters =
      rootElement? (branch tree) skipFilters := by
    funext element
    have hget : (branch (tree.withBlock scope value)).get? ["elements", element.name] =
        (branch tree).get? ["elements", element.name] := by
      rw [get?_cons, child_branch_withBlock, if_neg (by decide), ← get?_cons]
    rw [rootElement?, rootElement?, hget]
  rw [rootNodes, rootNodes, hroot, helement]

/-- The nodes of other blocks stay as they are, before and after those of the edited one. -/
theorem exists_all_withBlock {tree : Json} (htree : tree.WellFormed) (registry : Registry)
    (skipFilters : Bool) (scope : String) :
    ∃ before after, (∀ node ∈ before ++ after, node.place.scope? ≠ some scope) ∧
      ∀ value, ∃ run, (∀ node ∈ run, node.place.scope? = some scope) ∧
        all (tree.withBlock scope value) registry skipFilters = before ++ run ++ after := by
  obtain ⟨before, after, hothers, hblocks⟩ := exists_blocks_withBlock htree scope
  refine ⟨rootNodes tree skipFilters ++ before.flatMap (ofBlock registry skipFilters),
    after.flatMap (ofBlock registry skipFilters), fun _ ↦ scope?_ne_of_mem_around hothers,
    fun value ↦ ?_⟩
  obtain ⟨own, hown, hvalue⟩ := hblocks value
  refine ⟨own.flatMap (ofBlock registry skipFilters),
    fun _ hnode ↦ (scope?_of_mem_own hown hnode).1, ?_⟩
  rw [all_eq_of_blocks hvalue, rootNodes_withBlock]

end StyleNode

namespace Stylesheet

variable {scope : String}

theorem sameSettings_withBlock (tree : Json) (scope : String) (value : Json) :
    SameSettings (tree.withBlock scope value) tree where
  settings := by rw [child, child, withBlock, member?_modify, if_neg (by decide)]

/-! ### Separator colours -/

/-- The colours of the separator are in its own block. -/
theorem separatorColor?_withBlock (h : separatorScope ≠ scope) (tree value : Json)
    (keys : List String) :
    separatorColor? (tree.withBlock scope value) keys = separatorColor? tree keys :=
  congrArg (Option.filter isTruthy) (get?_withBlock_of_ne h keys tree value)

/-- Without its styles the separator block has no colours. -/
theorem separatorColor?_withBlock_null (tree : Json) (key : String) (path : List String) :
    separatorColor? (tree.withBlock separatorScope null) (key :: path) = none := by
  show ((tree.withBlock separatorScope null).get?
    ("styles" :: "blocks" :: separatorScope :: key :: path)).filter isTruthy = none
  rw [get?_cons, child_styles_withBlock, get?_cons, child_modify_cons rfl, if_pos rfl, get?_cons,
    child_modify rfl, if_pos rfl, get?_null, Option.filter_none]

/-- The line of separators is written into their block. -/
theorem set_separatorBlock {tree line : Json} (h : separatorLine? tree = some line) :
    tree.set (separatorColors ++ ["text"]) line =
      tree.modify (·.set ["color", "text"] line) ["styles", "blocks", separatorScope] := by
  have hfind := (Option.filter_eq_some_iff.1 (get?_of_separatorLine? h)).1
  rw [show separatorColors ++ ["background"] =
      ["styles", "blocks", separatorScope] ++ ["color", "background"] from rfl,
    find?_append] at hfind
  exact set_append (Option.isSome_of_isSome_bind (Option.isSome_of_eq_some hfind))
    ["color", "text"] line

/-- **The styles of a block are taken away before the colours of separators are filled in or
after.** -/
theorem withSeparatorColors_withBlock_null (tree : Json) :
    withSeparatorColors (tree.withBlock scope null) =
      (withSeparatorColors tree).withBlock scope null := by
  rw [withSeparatorColors_eq, withSeparatorColors_eq]
  by_cases hscope : separatorScope = scope
  · -- what was filled in is taken away, and without styles nothing is filled in
    subst hscope
    have hnone : separatorLine? (tree.withBlock separatorScope null) = none := by
      simp only [separatorLine?, separatorColor?_withBlock_null, ite_self]
    rw [hnone]
    rcases hline : separatorLine? tree with _ | line
    · rfl
    · simp only [set_separatorBlock hline]
      exact (withBlock_modify _ tree null).symm
  · have hsame : separatorLine? (tree.withBlock scope null) = separatorLine? tree := by
      simp only [separatorLine?, separatorColor?_withBlock hscope]
    rw [hsame]
    rcases hline : separatorLine? tree with _ | line
    · rfl
    · simp only [set_separatorBlock hline, set_separatorBlock (hsame.trans hline)]
      exact modify_append_comm ["styles", "blocks"] hscope [] [] tree

end Stylesheet

end GlobalStyles
