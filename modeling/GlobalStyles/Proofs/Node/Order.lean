import GlobalStyles.Proofs.Json.Traversal
import GlobalStyles.Proofs.Stylesheet.Alike

/-!
# The order of style nodes

Later rules win where selectors weigh the same, so the order of nodes is part of what a tree means.
It follows from the places of nodes: the root comes before its elements, these stand in their own
order, and then the blocks follow as in the tree, each before its elements, which again stand as in
the tree (`NodePlace.Precedes`). Which places have a node is decided by the subtrees there, cut down
to what belongs to the place (`NodePlace.subtree`): the root always has one, and every other place
exactly if something is left.

`StyleNode.Enumerates` puts the order, the subtrees and the completeness of a list of nodes
together, and `StyleNode.enumerates_all` says that the nodes of a tree are such a list.
-/

namespace GlobalStyles

open Json

/-! ### Places -/

theorem Element.name_of_ofName? {name : String} {element : Element}
    (h : ofName? name = some element) : element.name = name := by
  simpa using List.find?_some h

/-- No key stands twice, so every entry is found under its key. -/
theorem Json.child_of_mem_entries {tree : Json} (h : tree.WellFormed) {entry : String × Json}
    (hmem : entry ∈ tree.entries) : tree.child entry.1 = entry.2 := by
  rw [child, member?, Entries.get?_of_mem (nodup_keys_entries h) hmem, Option.getD_some]

/-- What is not `null` at the end of a path stands under a key there. -/
theorem Json.exists_entry_of_down_ne_null {tree : Json} {path : List String} {key : String}
    (h : tree.down (path ++ [key]) ≠ null) :
    ∃ value, (key, value) ∈ (tree.down path).entries := by
  rw [down_append, down_cons, down_nil] at h
  obtain ⟨member, hmember, hkey⟩ := List.mem_map.1 (mem_keys_of_child_ne_null h)
  exact ⟨member.2, hkey ▸ hmember⟩

namespace NodePlace

/-- The keys that lead to a place. -/
def path : NodePlace → List String
  | root => ["styles"]
  | rootElement element => ["styles", "elements", element.name]
  | block scope => ["styles", "blocks", scope]
  | blockElement scope element => ["styles", "blocks", scope, "elements", element.name]

/-- The part of a subtree that belongs to a place. The root and a block have members of their own,
and an element has all of them; filters are left out if they are to be skipped. -/
def cut (skipFilters : Bool) : NodePlace → Json → Json
  | root => StyleNode.pick StyleNode.ownKeys skipFilters
  | rootElement _ => StyleNode.withoutFilter skipFilters
  | block _ => StyleNode.pick StyleNode.pickedKeys skipFilters
  | blockElement _ _ => StyleNode.withoutFilter skipFilters

/-- What a tree says at a place. -/
def subtree (tree : Json) (skipFilters : Bool) (place : NodePlace) : Json :=
  place.cut skipFilters (tree.down place.path)

/-- The styles at a place are well formed, as the tree is. -/
theorem wellFormed_subtree {tree : Json} (h : tree.WellFormed) (skipFilters : Bool)
    (place : NodePlace) : (place.subtree tree skipFilters).WellFormed := by
  have hdown := wellFormed_down h place.path
  cases place with
  | root => exact StyleNode.wellFormed_pick _ skipFilters hdown
  | block => exact StyleNode.wellFormed_pick _ skipFilters hdown
  | rootElement => exact StyleNode.wellFormed_withoutFilter skipFilters hdown
  | blockElement => exact StyleNode.wellFormed_withoutFilter skipFilters hdown

/-- The order in which the places of a tree are gone through. -/
inductive Precedes (tree : Json) : NodePlace → NodePlace → Prop
  /-- The root comes before everything else. -/
  | root {place : NodePlace} (h : place ≠ root) : Precedes tree root place
  /-- Elements of the root stand in the order of their declaration. -/
  | elements {element other : Element} (h : element.ctorIdx < other.ctorIdx) :
    Precedes tree (rootElement element) (rootElement other)
  /-- They come before the blocks. -/
  | elementScope {element : Element} {place : NodePlace} (h : place.scope?.isSome) :
    Precedes tree (rootElement element) place
  /-- Blocks stand as in the tree, together with their elements. -/
  | scopes {place other : NodePlace} {scope later : String} (hplace : place.scope? = some scope)
    (hother : other.scope? = some later)
    (h : [scope, later].Sublist (tree.keysAt ["styles", "blocks"])) : Precedes tree place other
  /-- A block comes before its elements. -/
  | blockElement (scope : String) (element : Element) :
    Precedes tree (block scope) (blockElement scope element)
  /-- The elements of a block stand as in the tree. -/
  | blockElements {scope : String} {element other : Element}
    (h : [element.name, other.name].Sublist
      (tree.keysAt ["styles", "blocks", scope, "elements"])) :
    Precedes tree (blockElement scope element) (blockElement scope other)

/-- Of two places that are the same, none comes first. -/
theorem Precedes.ne {tree : Json} (htree : tree.WellFormed) {place other : NodePlace}
    (h : place.Precedes tree other) : place ≠ other := by
  have hkeys (path : List String) (key : String) : ¬[key, key].Sublist (tree.keysAt path) :=
    fun hsub ↦ absurd (hsub.nodup (nodup_keys_entries (wellFormed_down htree path))) (by simp)
  cases h with
  | root h => exact h.symm
  | elements h =>
    rintro ⟨⟩
    exact absurd h (Nat.lt_irrefl _)
  | elementScope h =>
    rintro rfl
    cases h
  | scopes hplace hother h =>
    rintro rfl
    rw [hplace] at hother
    cases hother
    exact hkeys _ _ h
  | blockElement _ _ => exact NodePlace.noConfusion
  | blockElements h =>
    rintro ⟨⟩
    exact hkeys _ _ h

end NodePlace

/-! ### Lists of nodes -/

namespace StyleNode

/-- A list of nodes is that of a tree: it goes through the places of the tree in their order. -/
structure Enumerates (tree : Json) (registry : Registry) (skipFilters : Bool)
    (nodes : List StyleNode) : Prop where
  /-- The node of the root comes first. -/
  root_first : (nodes.map place).head? = some .root
  /-- Every node stands after those whose places come before its own. -/
  ordered : (nodes.map place).Pairwise (NodePlace.Precedes tree)
  /-- The nodes of a block and its elements stand together, and there are none of a block that the
  registry does not know. -/
  together (scope : String) : ∃ before run after, nodes = before ++ run ++ after ∧
    (∀ node ∈ run, node.place.scope? = some scope ∧ (Entries.get? registry scope).isSome) ∧
      ∀ node ∈ before ++ after, node.place.scope? ≠ some scope
  /-- A node has the subtree of its place, and only that of the root may hold nothing. -/
  styles_eq (node : StyleNode) : node ∈ nodes →
    node.styles = node.place.subtree tree skipFilters ∧
      (node.place = .root ∨ node.styles.isEmptySubtree = false)
  /-- A place where something is said has exactly one node. -/
  complete (place : NodePlace) :
    (∀ scope ∈ place.scope?, (Entries.get? registry scope).isSome) →
      (place.subtree tree skipFilters).isEmptySubtree = false →
        (nodes.map StyleNode.place).count place = 1

/-! ### Where nodes stand -/

theorem nodup_keys_blocks {tree : Json} (h : tree.WellFormed) :
    (Entries.keys (blocks tree)).Nodup := by
  rw [blocks_eq_entries]
  exact nodup_keys_entries (wellFormed_child (wellFormed_branch h) "blocks")

/-- The style branch of a tree has what stands under its key. -/
theorem entries_branch (tree : Json) : (branch tree).entries = (tree.child "styles").entries := by
  rw [branch, get?_eq_down, down_cons, down_nil]
  split <;> rename_i h
  · rw [(isNull_eq_true_iff _).1 h]
    rfl
  · rfl

section

variable (tree : Json) (skipFilters : Bool)

theorem styles_root :
    (root (branch tree) skipFilters).styles = NodePlace.root.subtree tree skipFilters := by
  show pick ownKeys skipFilters (branch tree) = pick ownKeys skipFilters (tree.child "styles")
  rw [pick, pick, entries_branch]

/-- An element of the root has a node unless nothing is said there. -/
theorem rootElement?_eq (element : Element) :
    rootElement? (branch tree) skipFilters element =
      if ((NodePlace.rootElement element).subtree tree skipFilters).isEmptySubtree then none
      else some (plain (.rootElement element) element.selector
        ((NodePlace.rootElement element).subtree tree skipFilters)) := by
  have hdown : (branch tree).down ["elements", element.name] =
      tree.down (NodePlace.rootElement element).path := by
    rw [down_cons, child_branch]
    rfl
  rw [rootElement?, get?_eq_down, hdown, NodePlace.subtree]
  by_cases hnull : (tree.down (NodePlace.rootElement element).path).isNull
  · rw [if_pos hnull, (isNull_eq_true_iff _).1 hnull]
    rfl
  · rw [if_neg hnull]
    rfl

end

section

variable {tree : Json} (htree : tree.WellFormed) {member : String × Json}
  (hmember : member ∈ blocks tree)
include htree hmember

/-- No block stands twice, so the tree has at its place what is listed. -/
theorem down_of_mem_blocks : tree.down ["styles", "blocks", member.1] = member.2 := by
  rw [blocks_eq_entries, child_branch] at hmember
  exact child_of_mem_entries (wellFormed_child (wellFormed_child htree "styles") "blocks") hmember

/-- A block has a node unless nothing is said there. -/
theorem block?_eq (entry : BlockSelectors) (skipFilters : Bool) :
    block? member.1 entry member.2 skipFilters =
      if ((NodePlace.block member.1).subtree tree skipFilters).isEmptySubtree then none
      else some (ofEntry member.1 entry
        ((NodePlace.block member.1).subtree tree skipFilters)) := by
  rw [NodePlace.subtree, NodePlace.path, down_of_mem_blocks htree hmember]
  rfl

/-- An element of a block has a node unless nothing is said there. -/
theorem blockElement?_eq (entry : BlockSelectors) (skipFilters : Bool) {inner : String × Json}
    (hinner : inner ∈ (member.2.child "elements").entries) {element : Element}
    (helement : Element.ofName? inner.1 = some element) :
    blockElement? member.1 entry skipFilters inner =
      if ((NodePlace.blockElement member.1 element).subtree tree skipFilters).isEmptySubtree then
        none
      else some (plain (.blockElement member.1 element) (elementSelector entry element)
        ((NodePlace.blockElement member.1 element).subtree tree skipFilters)) := by
  have hdown : tree.down (NodePlace.blockElement member.1 element).path = inner.2 := by
    have hblock := down_of_mem_blocks htree hmember
    have hwell : (member.2.child "elements").WellFormed :=
      wellFormed_child (hblock ▸ wellFormed_down htree _) "elements"
    rw [NodePlace.path, Element.name_of_ofName? helement, ← child_of_mem_entries hwell hinner,
      ← hblock]
    rfl
  rw [blockElement?, helement, NodePlace.subtree, hdown]
  rfl

end

section

variable {registry : Registry} {skipFilters : Bool} {node : StyleNode}

/-- The nodes of a block that the registry knows are the block and its elements. -/
theorem mem_ofBlock_iff {member : String × Json} :
    node ∈ ofBlock registry skipFilters member ↔
      ∃ entry, Entries.get? registry member.1 = some entry ∧
        (block? member.1 entry member.2 skipFilters = some node ∨
          ∃ inner ∈ (member.2.child "elements").entries,
            blockElement? member.1 entry skipFilters inner = some node) := by
  rw [ofBlock]
  rcases Entries.get? registry member.1 with _ | entry
  · simp
  · simp [entries_get?]

/-- A node is the root, an element of the root, or one of a block. -/
theorem mem_all_iff {tree : Json} :
    node ∈ all tree registry skipFilters ↔
      node = root (branch tree) skipFilters ∨
        (∃ element, rootElement? (branch tree) skipFilters element = some node) ∨
          ∃ member ∈ blocks tree, node ∈ ofBlock registry skipFilters member := by
  rw [all, List.mem_append, List.mem_cons, List.mem_filterMap, List.mem_flatMap, or_assoc]
  simp only [Element.mem_all, true_and]

/-- The node of an element of a block has a known name. -/
theorem exists_element_of_blockElement? {scope : String} {entry : BlockSelectors}
    {inner : String × Json} (h : blockElement? scope entry skipFilters inner = some node) :
    ∃ element, Element.ofName? inner.1 = some element ∧
      node.place = .blockElement scope element := by
  rw [blockElement?] at h
  split at h <;> rename_i helement
  · cases h
  · simp only at h
    split at h
    · cases h
    · cases h
      exact ⟨_, helement, rfl⟩

theorem place_of_block? {scope : String} {entry : BlockSelectors} {styles : Json}
    (h : block? scope entry styles skipFilters = some node) : node.place = .block scope := by
  simp only [block?] at h
  split at h
  · cases h
  · cases h
    rfl

theorem place_of_rootElement? {styles : Json} {element : Element}
    (h : rootElement? styles skipFilters element = some node) :
    node.place = .rootElement element := by
  rw [rootElement?] at h
  split at h
  · cases h
  · simp only at h
    split at h
    · cases h
    · cases h
      rfl

/-- The elements of the root stand at places of elements. -/
theorem exists_element_of_mem_rootElements {styles : Json}
    (h : node ∈ Element.all.filterMap (rootElement? styles skipFilters)) :
    ∃ element, node.place = .rootElement element := by
  obtain ⟨element, -, hsome⟩ := List.mem_filterMap.1 h
  exact ⟨element, place_of_rootElement? hsome⟩

/-- The nodes of a block belong to it, and the registry knows it. -/
theorem scope?_of_mem_ofBlock {member : String × Json}
    (h : node ∈ ofBlock registry skipFilters member) :
    node.place.scope? = some member.1 ∧ (Entries.get? registry member.1).isSome := by
  obtain ⟨entry, hentry, hblock | ⟨inner, -, helement⟩⟩ := mem_ofBlock_iff.1 h
  · exact ⟨by rw [place_of_block? hblock]; rfl, Option.isSome_of_eq_some hentry⟩
  · obtain ⟨element, -, hplace⟩ := exists_element_of_blockElement? helement
    exact ⟨by rw [hplace]; rfl, Option.isSome_of_eq_some hentry⟩

theorem isSome_scope?_of_mem_blocks {fields : Fields}
    (h : node ∈ fields.flatMap (ofBlock registry skipFilters)) : node.place.scope?.isSome := by
  obtain ⟨member, -, hmem⟩ := List.mem_flatMap.1 h
  exact Option.isSome_of_eq_some (scope?_of_mem_ofBlock hmem).1

end

/-! ### The order of nodes -/

section

variable {tree : Json} (htree : tree.WellFormed) (registry : Registry) (skipFilters : Bool)

/-- The elements of the root stand in their fixed order. -/
theorem pairwise_rootElements (styles : Json) :
    (Element.all.filterMap (rootElement? styles skipFilters)).Pairwise
      fun a b ↦ a.place.Precedes tree b.place := by
  have hall : Element.all.Pairwise fun a b ↦ a.ctorIdx < b.ctorIdx := by decide
  refine hall.filterMap _ fun element other hlt a ha b hb ↦ ?_
  rw [place_of_rootElement? ha, place_of_rootElement? hb]
  exact .elements hlt

include htree

/-- A block comes before its elements, and these in the order of the tree. -/
theorem pairwise_ofBlock {member : String × Json} (hmember : member ∈ blocks tree) :
    (ofBlock registry skipFilters member).Pairwise fun a b ↦ a.place.Precedes tree b.place := by
  have hblock := down_of_mem_blocks htree hmember
  rw [ofBlock]
  rcases Entries.get? registry member.1 with _ | entry
  · exact .nil
  · rw [entries_get?]
    refine List.pairwise_append.2 ⟨?_, ?_, fun a ha b hb ↦ ?_⟩
    · rcases block? member.1 entry member.2 skipFilters with _ | own
      · exact .nil
      · exact List.pairwise_singleton _ _
    · refine (Entries.pairwise_sublist_keys _).filterMap _ fun inner other hsub a ha b hb ↦ ?_
      obtain ⟨element, hinner, haplace⟩ := exists_element_of_blockElement? ha
      obtain ⟨later, hother, hbplace⟩ := exists_element_of_blockElement? hb
      rw [haplace, hbplace]
      refine .blockElements ?_
      rw [Element.name_of_ofName? hinner, Element.name_of_ofName? hother, keysAt]
      rw [← hblock] at hsub
      exact hsub
    · obtain ⟨inner, -, helement⟩ := List.mem_filterMap.1 hb
      obtain ⟨element, -, hplace⟩ := exists_element_of_blockElement? helement
      rw [place_of_block? (Option.mem_toList.1 ha), hplace]
      exact .blockElement member.1 element

/-- **Nodes stand in the order of their places.** -/
theorem pairwise_all :
    (all tree registry skipFilters).Pairwise fun a b ↦ a.place.Precedes tree b.place := by
  rw [all, List.cons_append, List.pairwise_cons, List.pairwise_append, List.pairwise_flatMap]
  refine ⟨fun node hnode ↦ .root ?_, pairwise_rootElements skipFilters _,
    ⟨fun member hmember ↦ pairwise_ofBlock htree registry skipFilters hmember, ?_⟩,
    fun a ha b hb ↦ ?_⟩
  · rcases List.mem_append.1 hnode with hnode | hnode
    · obtain ⟨element, hplace⟩ := exists_element_of_mem_rootElements hnode
      rw [hplace]
      exact NodePlace.noConfusion
    · intro hplace
      have hscope := isSome_scope?_of_mem_blocks hnode
      rw [hplace] at hscope
      cases hscope
  · refine (Entries.pairwise_sublist_keys _).imp fun {member later} hsub a ha b hb ↦ ?_
    refine .scopes (scope?_of_mem_ofBlock ha).1 (scope?_of_mem_ofBlock hb).1 ?_
    rwa [blocks_eq_entries, child_branch] at hsub
  · obtain ⟨element, hplace⟩ := exists_element_of_mem_rootElements ha
    rw [hplace]
    exact .elementScope (isSome_scope?_of_mem_blocks hb)

end

/-! ### The run of a block -/

/-- The nodes of the root and its elements. -/
def rootNodes (tree : Json) (skipFilters : Bool) : List StyleNode :=
  root (branch tree) skipFilters :: Element.all.filterMap (rootElement? (branch tree) skipFilters)

section

variable {tree : Json} {registry : Registry} {skipFilters : Bool} {node : StyleNode}
  {scope : String} {fields : Fields}

/-- The nodes of some blocks stand between those of the blocks before and after. -/
theorem all_eq_of_blocks {before own after : Fields} (h : blocks tree = before ++ own ++ after)
    (registry : Registry) (skipFilters : Bool) :
    all tree registry skipFilters =
      (rootNodes tree skipFilters ++ before.flatMap (ofBlock registry skipFilters)) ++
        own.flatMap (ofBlock registry skipFilters) ++
        after.flatMap (ofBlock registry skipFilters) := by
  show rootNodes tree skipFilters ++ (blocks tree).flatMap (ofBlock registry skipFilters) = _
  rw [h, List.flatMap_append, List.flatMap_append, ← List.append_assoc, ← List.append_assoc]

theorem scope?_of_mem_rootNodes (h : node ∈ rootNodes tree skipFilters) :
    node.place.scope? = none := by
  rcases List.mem_cons.1 h with rfl | h
  · rfl
  · obtain ⟨element, hplace⟩ := exists_element_of_mem_rootElements h
    rw [hplace]
    rfl

/-- The nodes of a block belong to its scope, which the registry knows. -/
theorem scope?_of_mem_own (hown : ∀ member ∈ fields, member.1 = scope)
    (h : node ∈ fields.flatMap (ofBlock registry skipFilters)) :
    node.place.scope? = some scope ∧ (Entries.get? registry scope).isSome := by
  obtain ⟨member, hmember, hnode⟩ := List.mem_flatMap.1 h
  obtain rfl := hown member hmember
  exact scope?_of_mem_ofBlock hnode

theorem scope?_ne_of_mem_others (hscope : scope ∉ Entries.keys fields)
    (h : node ∈ fields.flatMap (ofBlock registry skipFilters)) :
    node.place.scope? ≠ some scope := by
  obtain ⟨member, hmember, hnode⟩ := List.mem_flatMap.1 h
  rw [(scope?_of_mem_ofBlock hnode).1]
  rintro ⟨⟩
  exact hscope (List.mem_map_of_mem hmember)

/-- Before and after the nodes of a block there are only others. -/
theorem scope?_ne_of_mem_around {before after : Fields}
    (hscope : scope ∉ Entries.keys (before ++ after))
    (h : node ∈ (rootNodes tree skipFilters ++ before.flatMap (ofBlock registry skipFilters)) ++
      after.flatMap (ofBlock registry skipFilters)) :
    node.place.scope? ≠ some scope := by
  rw [List.append_assoc, ← List.flatMap_append] at h
  rcases List.mem_append.1 h with h | h
  · rw [scope?_of_mem_rootNodes h]
    exact (Option.some_ne_none scope).symm
  · exact scope?_ne_of_mem_others hscope h

end

/-- **The nodes of a block stand together.** -/
theorem exists_run {tree : Json} (htree : tree.WellFormed) (registry : Registry)
    (skipFilters : Bool) (scope : String) :
    ∃ before run after, all tree registry skipFilters = before ++ run ++ after ∧
      (∀ node ∈ run, node.place.scope? = some scope ∧ (Entries.get? registry scope).isSome) ∧
        ∀ node ∈ before ++ after, node.place.scope? ≠ some scope := by
  obtain ⟨before, after, hblocks, hothers⟩ := Entries.exists_parts (nodup_keys_blocks htree) scope
  exact ⟨_, _, _, all_eq_of_blocks hblocks registry skipFilters,
    fun _ ↦ scope?_of_mem_own fun _ ↦ Entries.fst_of_mem_toList_map,
    fun _ ↦ scope?_ne_of_mem_around hothers⟩

/-! ### The nodes of a tree -/

section

variable {tree : Json} (htree : tree.WellFormed) {registry : Registry} {skipFilters : Bool}
include htree

/-- A node has the subtree of its place, and something stands there unless it is the root. -/
theorem styles_of_mem_all {node : StyleNode} (h : node ∈ all tree registry skipFilters) :
    node.styles = node.place.subtree tree skipFilters ∧
      (node.place = .root ∨ node.styles.isEmptySubtree = false) := by
  obtain rfl | ⟨element, hsome⟩ | ⟨member, hmember, hnode⟩ := mem_all_iff.1 h
  · exact ⟨styles_root tree skipFilters, .inl rfl⟩
  · rw [rootElement?_eq] at hsome
    obtain ⟨hempty, ⟨⟩⟩ := Option.ite_none_left_eq_some.1 hsome
    exact ⟨rfl, .inr (eq_false_of_ne_true hempty)⟩
  · obtain ⟨entry, -, hblock | ⟨inner, hinner, helement⟩⟩ := mem_ofBlock_iff.1 hnode
    · rw [block?_eq htree hmember] at hblock
      obtain ⟨hempty, ⟨⟩⟩ := Option.ite_none_left_eq_some.1 hblock
      exact ⟨rfl, .inr (eq_false_of_ne_true hempty)⟩
    · obtain ⟨element, hname, -⟩ := exists_element_of_blockElement? helement
      rw [blockElement?_eq htree hmember entry skipFilters hinner hname] at helement
      obtain ⟨hempty, ⟨⟩⟩ := Option.ite_none_left_eq_some.1 helement
      exact ⟨rfl, .inr (eq_false_of_ne_true hempty)⟩

/-- Where something is said, of what the registry knows, there is a node. -/
theorem exists_mem_all {place : NodePlace}
    (hscope : ∀ scope ∈ place.scope?, (Entries.get? registry scope).isSome)
    (h : (place.subtree tree skipFilters).isEmptySubtree = false) :
    ∃ node ∈ all tree registry skipFilters, node.place = place := by
  have hne : tree.down place.path ≠ null := by
    intro hnull
    rw [NodePlace.subtree, hnull] at h
    cases place <;> cases h
  have hblocks : (tree.down ["styles", "blocks"]).entries = blocks tree := by
    rw [blocks_eq_entries, child_branch]
    rfl
  cases place with
  | root => exact ⟨_, mem_all_iff.2 (.inl rfl), rfl⟩
  | rootElement element =>
    have hnode := rootElement?_eq tree skipFilters element
    rw [if_neg (ne_true_of_eq_false h)] at hnode
    exact ⟨_, mem_all_iff.2 (.inr (.inl ⟨element, hnode⟩)), rfl⟩
  | block scope =>
    obtain ⟨entry, hentry⟩ := Option.isSome_iff_exists.1 (hscope scope rfl)
    obtain ⟨styles, hmember⟩ := exists_entry_of_down_ne_null
      (show tree.down (["styles", "blocks"] ++ [scope]) ≠ null from hne)
    rw [hblocks] at hmember
    have hnode := block?_eq htree hmember entry skipFilters
    rw [if_neg (ne_true_of_eq_false h)] at hnode
    exact ⟨_, mem_all_iff.2 (.inr (.inr ⟨_, hmember, mem_ofBlock_iff.2 ⟨entry, hentry,
      .inl hnode⟩⟩)), rfl⟩
  | blockElement scope element =>
    obtain ⟨entry, hentry⟩ := Option.isSome_iff_exists.1 (hscope scope rfl)
    have hblock : tree.down (["styles", "blocks"] ++ [scope]) ≠ null := by
      intro hnull
      refine hne ?_
      rw [show (NodePlace.blockElement scope element).path =
          (["styles", "blocks"] ++ [scope]) ++ ["elements", element.name] from rfl,
        down_append, hnull]
      rfl
    obtain ⟨styles, hmember⟩ := exists_entry_of_down_ne_null hblock
    rw [hblocks] at hmember
    obtain ⟨inner, hinner⟩ := exists_entry_of_down_ne_null
      (show tree.down (["styles", "blocks", scope, "elements"] ++ [element.name]) ≠ null from hne)
    have hstyles : tree.down ["styles", "blocks", scope] = styles :=
      down_of_mem_blocks htree hmember
    replace hinner : (element.name, inner) ∈ (styles.child "elements").entries := by
      rw [← hstyles]
      exact hinner
    have hnode := blockElement?_eq htree hmember entry skipFilters hinner
      (Element.ofName?_name element)
    rw [if_neg (ne_true_of_eq_false h)] at hnode
    exact ⟨_, mem_all_iff.2 (.inr (.inr ⟨_, hmember, mem_ofBlock_iff.2 ⟨entry, hentry,
      .inr ⟨_, hinner, hnode⟩⟩⟩)), rfl⟩

end

/-- **The nodes of a tree go through its places in order**, each with the subtree of its place, and
through every place that the registry knows and that says something. -/
theorem enumerates_all {tree : Json} (htree : tree.WellFormed) (registry : Registry)
    (skipFilters : Bool) :
    Enumerates tree registry skipFilters (all tree registry skipFilters) where
  root_first := rfl
  ordered := List.pairwise_map.2 (pairwise_all htree registry skipFilters)
  together := exists_run htree registry skipFilters
  styles_eq _ hnode := styles_of_mem_all htree hnode
  complete place hscope hsaid := by
    obtain ⟨node, hnode, rfl⟩ := exists_mem_all htree hscope hsaid
    refine List.count_eq_one_of_mem ?_ (List.mem_map_of_mem hnode)
    exact (List.pairwise_map.2 (pairwise_all htree registry skipFilters)).imp
      fun h ↦ NodePlace.Precedes.ne htree h

/-- Two blocks of which the registry knows one, with elements in an order of their own. -/
def treeWithQuote : Json :=
  obj [("styles", obj
    [("elements", obj [("link", obj [("color", obj [("text", str "#111")])])]),
      ("blocks", obj
        [("core/verse", obj [("color", obj [("text", str "#222")])]),
          ("core/quote", obj
            [("elements", obj
              [("cite", obj [("color", obj [("text", str "#333")])]),
                ("button", obj [("filter", obj [])]),
                ("link", obj [("color", obj [("text", str "#444")])])]),
              ("color", obj [("text", str "#555")])])])])]

/-- A quote with its elements, beside the root and its own. -/
theorem enumerates_all_treeWithQuote :
    treeWithQuote.WellFormed ∧
      Enumerates treeWithQuote [("core/quote", .ofSelector "blockquote")] true
        (all treeWithQuote [("core/quote", .ofSelector "blockquote")] true) ∧
      (all treeWithQuote [("core/quote", .ofSelector "blockquote")] true).map place =
        [.root, .rootElement .link, .block "core/quote", .blockElement "core/quote" .cite,
          .blockElement "core/quote" .link] := by
  have htree : treeWithQuote.WellFormed := by
    simp [treeWithQuote, Json.WellFormed, Json.FieldsWellFormed]
  exact ⟨htree, enumerates_all htree _ _, by decide⟩

end StyleNode

end GlobalStyles
