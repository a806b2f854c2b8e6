import GlobalStyles.Node.Style
import GlobalStyles.Proofs.Json.Nulls
import Mathlib.Data.List.Basic

/-!
# The nodes of trees that agree

Which nodes a tree has is decided by its objects and their keys, and the lists differ between trees
that agree: a `null` among the members of an element makes a node that says nothing. So the
statement is not about the lists but about what is read of them (`StyleNode.flatMap_all_congr`): two
readings that do not tell agreeing subtrees apart, and read nothing of an empty one, read the same
of all nodes. Rules and reports are such readings.

Blocks and the elements of a block come in the order of the tree. There the keys with a value have
to stand in the same order.

What holds of every node, such as a property of its selector, needs less: `StyleNode.OfTree` says
once where a node can come from and what it is made of, and every such statement is then a case for
each of the four places.
-/

namespace GlobalStyles.StyleNode

open Json

/-! ### Members picked by name -/

/-- The members that a node of the root or of a block can have. -/
def pickedKeys : List String :=
  ownKeys ++ ["variations"]

/-- A member is picked if its key is, it is not `null`, and it is no filter to skip. -/
theorem child_pick (keys : List String) (skipFilters : Bool) {styles : Json}
    (h : styles.WellFormed) (key : String) :
    (pick keys skipFilters styles).child key =
      if !(styles.child key).isNull && keys.contains key && !(skipFilters && key == "filter") then
        styles.child key
      else null :=
  child_filter (nodup_keys_entries h)
    (fun entry ↦ !entry.2.isNull && keys.contains entry.1 &&
      !(skipFilters && entry.1 == "filter")) key

theorem wellFormed_pick (keys : List String) (skipFilters : Bool) {styles : Json}
    (h : styles.WellFormed) : (pick keys skipFilters styles).WellFormed :=
  wellFormed_obj_filter (wellFormed_obj_entries h) _

theorem wellFormed_withoutFilter (skipFilters : Bool) {styles : Json} (h : styles.WellFormed) :
    (withoutFilter skipFilters styles).WellFormed := by
  cases styles with
  | obj fields =>
    cases skipFilters with
    | false => exact h
    | true => exact wellFormed_obj_swapRemove h "filter"
  | _ => exact h

theorem keys_pick_subset (keys : List String) (skipFilters : Bool) (styles : Json) :
    Entries.keys (pick keys skipFilters styles).entries ⊆ keys := by
  intro key hmem
  obtain ⟨entry, hentry, rfl⟩ := List.mem_map.1 hmem
  have hpicked := (List.mem_filter.1 hentry).2
  simp only [Bool.and_eq_true, List.contains_iff_mem] at hpicked
  exact hpicked.1.2

/-- Everything that is picked has a value. -/
theorem live_pick (keys : List String) (skipFilters : Bool) (styles : Json) :
    (pick keys skipFilters styles).live = (pick keys skipFilters styles).entries := by
  refine List.filter_eq_self.2 fun entry hentry ↦ ?_
  have hpicked := (List.mem_filter.1 hentry).2
  simp only [Bool.and_eq_true] at hpicked
  exact hpicked.1.1

/-- Members of subtrees that agree are picked alike. -/
theorem agree_pick (keys : List String) (skipFilters : Bool) {a b : Json} (h : a.Agree b)
    (ha : a.WellFormed) (hb : b.WellFormed) :
    (pick keys skipFilters a).Agree (pick keys skipFilters b) := by
  refine .of_child rfl fun key ↦ ?_
  rw [child_pick keys skipFilters ha, child_pick keys skipFilters hb, (h.child key).isNull_eq]
  split
  · exact h.child key
  · rfl

/-- Of trees that agree either both have entries with a value or none has. -/
theorem live_eq_nil_of_agree {a b : Json} (h : a.Agree b) (hb : b.WellFormed)
    (ha : a.live = []) : b.live = [] := by
  refine List.eq_nil_iff_forall_not_mem.2 fun entry hmem ↦ ?_
  have hnull : a.child entry.1 = null := by
    by_contra hne
    have hlive : (entry.1, a.child entry.1) ∈ a.live := by
      refine List.mem_filter.2 ⟨?_, ?_⟩
      · rcases hget : a.member? entry.1 with _ | value
        · rw [child, hget] at hne
          exact absurd rfl hne
        · rw [child, hget]
          exact Entries.mem_of_get? hget
      · rw [Bool.not_eq_true', ← Bool.not_eq_true, isNull_eq_true_iff]
        exact hne
    rw [ha] at hlive
    cases hlive
  have hvalue := (h.child entry.1).eq_null_iff.1 hnull
  rw [child_eq_of_mem_live hb hmem] at hvalue
  have hlive := (List.mem_filter.1 hmem).2
  rw [hvalue] at hlive
  cases hlive

/-- Something is picked from both or from neither. -/
theorem isEmptySubtree_pick_congr (keys : List String) (skipFilters : Bool) {a b : Json}
    (h : a.Agree b) (ha : a.WellFormed) (hb : b.WellFormed) :
    (pick keys skipFilters a).isEmptySubtree = (pick keys skipFilters b).isEmptySubtree := by
  have hpick := agree_pick keys skipFilters h ha hb
  have hiff : (pick keys skipFilters a).live = [] ↔ (pick keys skipFilters b).live = [] :=
    ⟨live_eq_nil_of_agree hpick (wellFormed_pick keys skipFilters hb),
      live_eq_nil_of_agree hpick.symm (wellFormed_pick keys skipFilters ha)⟩
  rw [live_pick, live_pick] at hiff
  rw [isEmptySubtree, isEmptySubtree, Bool.eq_iff_iff, List.isEmpty_iff, List.isEmpty_iff, hiff]

/-! ### Readings of nodes -/

/-- Two readings of nodes that do not tell apart what agrees, and read nothing where nothing is. -/
structure ReadAlike {α : Type} (read other : StyleNode → List α) : Prop where
  picked (node : StyleNode) {a b : Json} : a.Agree b → a.WellFormed → b.WellFormed →
    Entries.keys a.entries ⊆ pickedKeys → Entries.keys b.entries ⊆ pickedKeys →
    read { node with styles := a } = other { node with styles := b }
  plain {place : NodePlace} (selector : String) {a b : Json} : place ≠ .root → a.Agree b →
    a.WellFormed → b.WellFormed → a.InOrder b [] →
    read (.plain place selector a) = other (.plain place selector b)
  empty {place : NodePlace} (selector : String) {styles : Json} : place ≠ .root →
    styles.entries = [] →
    read (.plain place selector styles) = [] ∧ other (.plain place selector styles) = []

section Readings

variable {α : Type} {read other : StyleNode → List α}

theorem withoutFilter_false (styles : Json) : withoutFilter false styles = styles := by
  cases styles <;> rfl

/-- What is read of an element of the root, whether it has a node or not. -/
theorem flatMap_rootElement? (hread : ∀ {place : NodePlace} (selector : String) {styles : Json},
      place ≠ .root → styles.entries = [] → read (.plain place selector styles) = [])
    (styles : Json) (element : Element) :
    (rootElement? styles false element).toList.flatMap read =
      read (.plain (.rootElement element) element.selector
        (styles.down ["elements", element.name])) := by
  have hplace : NodePlace.rootElement element ≠ .root := NodePlace.noConfusion
  rw [rootElement?, get?_eq_down]
  split <;> rename_i hget
  · split at hget <;> rename_i hnull
    · rw [(isNull_eq_true_iff _).1 hnull, hread element.selector hplace rfl]
      rfl
    · cases hget
  · split at hget
    · cases hget
    · cases hget
      simp only [withoutFilter_false]
      split <;> rename_i hempty
      · rw [hread element.selector hplace (List.isEmpty_iff.1 hempty)]
        rfl
      · exact List.flatMap_singleton _ _

/-- What is read of an element of a block, whether it has a node or not. -/
theorem flatMap_blockElement? (hread : ∀ {place : NodePlace} (selector : String) {styles : Json},
      place ≠ .root → styles.entries = [] → read (.plain place selector styles) = [])
    (scope : String) (entry : BlockSelectors) (key : String) (styles : Json) :
    (blockElement? scope entry false (key, styles)).toList.flatMap read =
      match Element.ofName? key with
      | none => []
      | some element =>
        read (.plain (.blockElement scope element) (elementSelector entry element) styles) := by
  rw [blockElement?]
  rcases Element.ofName? key with - | element
  · rfl
  · have hplace : NodePlace.blockElement scope element ≠ .root := NodePlace.noConfusion
    simp only [withoutFilter_false]
    split <;> rename_i hempty
    · rw [hread _ hplace (List.isEmpty_iff.1 hempty)]
      rfl
    · exact List.flatMap_singleton _ _

variable (hread : ReadAlike read other)
include hread

/-- A block and its elements read alike in trees that agree, if the elements with a value and the
members of each stand in the same order. -/
theorem flatMap_ofBlock_congr (registry : Registry) (scope : String) {a b : Json}
    (h : a.Agree b) (ha : a.WellFormed) (hb : b.WellFormed) (helements : a.InOrder b ["elements"])
    (hmembers : ∀ name, a.InOrder b ["elements", name]) :
    (ofBlock registry false (scope, a)).flatMap read =
      (ofBlock registry false (scope, b)).flatMap other := by
  rw [ofBlock, ofBlock]
  rcases Entries.get? registry scope with - | entry
  · rfl
  · simp only [List.flatMap_append, entries_get?, List.filterMap_eq_flatMap_toList,
      List.flatMap_assoc]
    congr 1
    · -- the block itself: the members of its node are picked by name
      rw [block?, block?, isEmptySubtree_pick_congr _ _ h ha hb]
      split
      · rfl
      · simp only [Option.toList_some, List.flatMap_singleton]
        exact hread.picked ⟨.block scope, entry.selector, .null, entry.duotoneSelector,
            entry.hasLayoutSupport, entry.fallbackGap, entry.featureSelectors,
            entry.variationSelectors⟩
          (agree_pick pickedKeys false h ha hb) (wellFormed_pick pickedKeys false ha)
          (wellFormed_pick pickedKeys false hb) (keys_pick_subset pickedKeys false a)
          (keys_pick_subset pickedKeys false b)
    · -- its elements, in the order of the tree
      rw [flatMap_live, flatMap_live]
      · refine flatMap_eq_of_forall₂ ?_ (forall₂_live (wellFormed_child ha "elements")
          (wellFormed_child hb "elements") helements)
        rintro ⟨key, x⟩ ⟨_, y⟩ ⟨rfl, hx, hy⟩
        obtain rfl : x = (a.child "elements").child key := hx
        obtain rfl : y = (b.child "elements").child key := hy
        rw [flatMap_blockElement? fun selector _ hplace hempty ↦
            (hread.empty selector hplace hempty).1,
          flatMap_blockElement? fun selector _ hplace hempty ↦
            (hread.empty selector hplace hempty).2]
        rcases Element.ofName? key with - | element
        · rfl
        · exact hread.plain _ NodePlace.noConfusion ((h.child "elements").child key)
            (wellFormed_child (wellFormed_child ha "elements") key)
            (wellFormed_child (wellFormed_child hb "elements") key) (hmembers key)
      all_goals
        intro key
        rw [blockElement?]
        rcases Element.ofName? key with - | element <;> rfl

end Readings

/-! ### All nodes -/

/-- Two style branches that agree, with what is walked through in the same order: the blocks, the
elements of each block, and the members of each element. -/
structure BranchesAlike (a b : Json) : Prop where
  agree : a.Agree b
  wellFormed : a.WellFormed
  wellFormed' : b.WellFormed
  blocks : a.InOrder b ["blocks"]
  element (name : String) : a.InOrder b ["elements", name]
  blockElements (scope : String) : a.InOrder b ["blocks", scope, "elements"]
  blockElement (scope name : String) : a.InOrder b ["blocks", scope, "elements", name]

/-- The blocks that have styles, in the order of the tree. -/
theorem blocks_eq_entries (tree : Json) : blocks tree = ((branch tree).child "blocks").entries :=
  entries_get? (branch tree) "blocks"

/-- A block that is `null` has no nodes. -/
theorem ofBlock_null (registry : Registry) (scope : String) :
    ofBlock registry false (scope, .null) = [] := by
  rw [ofBlock]
  rcases Entries.get? registry scope with - | entry <;> rfl

/-- **Readings that do not tell agreeing subtrees apart read the same of all nodes.** -/
theorem flatMap_all_congr {α : Type} {read other : StyleNode → List α}
    (hread : ReadAlike read other) (registry : Registry) {a b : Json}
    (h : BranchesAlike (branch a) (branch b)) :
    (all a registry false).flatMap read = (all b registry false).flatMap other := by
  -- the nodes are the root, its elements, and the blocks with theirs
  simp only [all, List.flatMap_append, List.flatMap_cons, List.flatMap_assoc,
    List.filterMap_eq_flatMap_toList, blocks_eq_entries]
  have hroot : read (root (branch a) false) = other (root (branch b) false) :=
    hread.picked { plain .root rootSelector .null with hasLayoutSupport := true }
      (agree_pick ownKeys false h.agree h.wellFormed h.wellFormed')
      (wellFormed_pick ownKeys false h.wellFormed) (wellFormed_pick ownKeys false h.wellFormed')
      (List.Subset.trans (keys_pick_subset ownKeys false _) (List.subset_append_left _ _))
      (List.Subset.trans (keys_pick_subset ownKeys false _) (List.subset_append_left _ _))
  have helements : (Element.all.flatMap fun element ↦
        (rootElement? (branch a) false element).toList.flatMap read) =
      Element.all.flatMap fun element ↦
        (rootElement? (branch b) false element).toList.flatMap other := by
    refine List.flatMap_congr fun element _ ↦ ?_
    rw [flatMap_rootElement? fun selector _ hplace hempty ↦
        (hread.empty selector hplace hempty).1,
      flatMap_rootElement? fun selector _ hplace hempty ↦
        (hread.empty selector hplace hempty).2]
    exact hread.plain _ NodePlace.noConfusion (h.agree.down _) (wellFormed_down h.wellFormed _)
      (wellFormed_down h.wellFormed' _) (h.element element.name)
  have hblocks : (((branch a).child "blocks").entries.flatMap fun member ↦
        (ofBlock registry false member).flatMap read) =
      ((branch b).child "blocks").entries.flatMap fun member ↦
        (ofBlock registry false member).flatMap other := by
    rw [flatMap_live _ fun scope ↦ by rw [ofBlock_null]; rfl,
      flatMap_live _ fun scope ↦ by rw [ofBlock_null]; rfl]
    refine flatMap_eq_of_forall₂ ?_ (forall₂_live (wellFormed_child h.wellFormed "blocks")
      (wellFormed_child h.wellFormed' "blocks") h.blocks)
    rintro ⟨scope, x⟩ ⟨_, y⟩ ⟨rfl, hx, hy⟩
    obtain rfl : x = ((branch a).child "blocks").child scope := hx
    obtain rfl : y = ((branch b).child "blocks").child scope := hy
    exact flatMap_ofBlock_congr hread registry scope ((h.agree.child "blocks").child scope)
      (wellFormed_child (wellFormed_child h.wellFormed "blocks") scope)
      (wellFormed_child (wellFormed_child h.wellFormed' "blocks") scope) (h.blockElements scope)
      (h.blockElement scope)
  rw [hroot, helements, hblocks]

/-! ### Where nodes come from -/

/-- The node of a block that the registry knows, with some styles. -/
def ofEntry (scope : String) (entry : BlockSelectors) (styles : Json) : StyleNode where
  place := .block scope
  selector := entry.selector
  styles := styles
  duotoneSelector := entry.duotoneSelector
  hasLayoutSupport := entry.hasLayoutSupport
  fallbackGap := entry.fallbackGap
  featureSelectors := entry.featureSelectors
  variationSelectors := entry.variationSelectors

/-- A node is made of a place in a tree and, at a block, of what the registry says about it. -/
inductive OfTree (tree : Json) (registry : Registry) (skipFilters : Bool) : StyleNode → Prop
  | root : OfTree tree registry skipFilters (root (branch tree) skipFilters)
  | rootElement {element : Element} {subtree : Json}
      (hget : (branch tree).get? ["elements", element.name] = some subtree) :
      OfTree tree registry skipFilters
        (plain (.rootElement element) element.selector (withoutFilter skipFilters subtree))
  | block {member : String × Json} {entry : BlockSelectors} (hmember : member ∈ blocks tree)
      (hentry : Entries.get? registry member.1 = some entry) :
      OfTree tree registry skipFilters
        (ofEntry member.1 entry (pick (ownKeys ++ ["variations"]) skipFilters member.2))
  | blockElement {member : String × Json} {entry : BlockSelectors} {element : Element}
      {inner : String × Json} (hmember : member ∈ blocks tree)
      (hentry : Entries.get? registry member.1 = some entry)
      (hinner : inner ∈ (member.2.child "elements").entries) :
      OfTree tree registry skipFilters
        (plain (.blockElement member.1 element) (elementSelector entry element)
          (withoutFilter skipFilters inner.2))

/-- **Every node of a tree comes from one of its places.** -/
theorem ofTree_of_mem_all {tree : Json} {registry : Registry} {skipFilters : Bool}
    {node : StyleNode} (h : node ∈ all tree registry skipFilters) :
    OfTree tree registry skipFilters node := by
  rw [all, List.mem_append, List.mem_cons] at h
  rcases h with (rfl | helement) | hblock
  · exact .root
  · obtain ⟨element, -, hsome⟩ := List.mem_filterMap.1 helement
    simp only [rootElement?] at hsome
    split at hsome <;> rename_i hget
    · cases hsome
    · split at hsome
      · cases hsome
      · cases hsome
        exact .rootElement hget
  · -- of a block there are nodes only if the registry knows it
    obtain ⟨member, hmember, hmem⟩ := List.mem_flatMap.1 hblock
    rw [ofBlock] at hmem
    split at hmem <;> rename_i hentry
    · cases hmem
    · rw [entries_get?] at hmem
      rcases List.mem_append.1 hmem with hown | helement
      · have hsome := Option.mem_toList.1 hown
        simp only [block?] at hsome
        split at hsome
        · cases hsome
        · cases hsome
          exact .block hmember hentry
      · obtain ⟨inner, hinner, hsome⟩ := List.mem_filterMap.1 helement
        simp only [blockElement?] at hsome
        split at hsome
        · cases hsome
        · split at hsome
          · cases hsome
          · cases hsome
            exact .blockElement hmember hentry hinner

end GlobalStyles.StyleNode
