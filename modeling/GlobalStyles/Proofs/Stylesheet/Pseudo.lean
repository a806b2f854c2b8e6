import GlobalStyles.Proofs.Node.Order
import GlobalStyles.Proofs.Selector.Parts
import GlobalStyles.Proofs.Stylesheet.Alike

/-!
# The order of pseudo-selectors

The pseudo-selectors of an element become rules in the order of its members, and of rules that are
as specific the later one wins. While filters are skipped, the filter of an element is taken out
first, and then the last member stands in the freed place (`Entries.swapRemove_append_cons`). So the
rules keep the order of the tree unless a pseudo-selector at the end overtakes another one in that
way (`pseudoRules_in_order_iff`); none is lost or added.

That two orders are different at all rests on the rules being different, and they are since their
selectors are (`Selector.append_right_cancel`).
-/

namespace GlobalStyles

open Json Stylesheet NodeParts

/-! ### Taking out a key -/

/-- Of what stood after a key, the last entry comes first once the key is taken out. -/
theorem Entries.swapRemove_append_cons {α : Type} {before : Entries α} {key : String}
    (h : key ∉ keys before) (value : α) (after : Entries α) :
    swapRemove (before ++ (key, value) :: after) key =
      before ++ (after.getLast?.toList ++ after.dropLast) := by
  induction before with
  | nil =>
    rw [List.nil_append, swapRemove, if_pos rfl, List.nil_append]
    split <;> rename_i hlast
    · rw [hlast, List.getLast?_eq_none_iff.1 hlast]
      rfl
    · rw [hlast]
      rfl
  | cons entry rest ih =>
    obtain ⟨k, v⟩ := entry
    have hne : k ≠ key := fun heq ↦ h (heq ▸ List.mem_cons_self)
    rw [List.cons_append, swapRemove, if_neg hne, ih fun hmem ↦ h (List.mem_cons_of_mem _ hmem),
      List.cons_append]

/-! ### Elements -/

namespace NodePlace

/-- The element at a place that is one of an element. -/
def element? : NodePlace → Option Element
  | rootElement element => some element
  | blockElement _ element => some element
  | _ => none

variable {place : NodePlace} (h : place.element?.isSome)
include h

theorem ne_root_of_element? : place ≠ root := by
  rintro rfl
  cases h

/-- The colour of separators is filled in outside of elements. -/
theorem down_withSeparatorColors (tree : Json) :
    (withSeparatorColors tree).down place.path = tree.down place.path := by
  rw [withSeparatorColors_eq]
  split
  · rfl
  · refine down_set_of_diverge ?_ ?_ _ _ <;> cases place <;>
      simp [element?, path, separatorColors, List.cons_prefix_cons] at h ⊢

/-- An element keeps all of its members, up to the filter. -/
theorem subtree_of_element? (tree : Json) (skipFilters : Bool) :
    place.subtree tree skipFilters =
      StyleNode.withoutFilter skipFilters (tree.down place.path) := by
  cases place <;> first | rfl | cases h

end NodePlace

namespace StyleNode

/-- The rules of the pseudo-selectors among some entries, in the order of the entries. -/
def pseudoRules (node : StyleNode) (ctx : StyleContext) (entries : Fields) : List Rule :=
  (entries.filter fun entry ↦ isPseudo entry.1).flatMap fun entry ↦
    Rule.make .terminated (Selector.append node.selector entry.1) (ctx.declarations entry.2 false)

theorem pseudoRules_append (node : StyleNode) (ctx : StyleContext) (a b : Fields) :
    node.pseudoRules ctx (a ++ b) = node.pseudoRules ctx a ++ node.pseudoRules ctx b := by
  rw [pseudoRules, List.filter_append, List.flatMap_append]
  rfl

/-- Of an element the registry says nothing. -/
theorem eq_plain_of_mem_all {tree : Json} {registry : Registry} {skipFilters : Bool}
    {node : StyleNode} (h : node ∈ all tree registry skipFilters)
    (helement : node.place.element?.isSome) :
    node = plain node.place node.selector node.styles := by
  cases ofTree_of_mem_all h with
  | root => cases helement
  | rootElement => rfl
  | block => cases helement
  | blockElement => rfl

/-- The rules of an element are its own and those of its pseudo-selectors. -/
theorem nodeRules_of_element? {tree : Json} {registry : Registry} {options : CompileOptions}
    {node : StyleNode} (h : node ∈ all tree registry options.skipFilters)
    (helement : node.place.element?.isSome) :
    nodeRules tree options node =
      Rule.make .terminated node.selector
          (((StyleContext.ofTree tree options.space).within node.place.scope?).declarations
            node.styles false) ++
        node.pseudoRules ((StyleContext.ofTree tree options.space).within node.place.scope?)
          node.styles.entries := by
  have hroot := NodePlace.ne_root_of_element? helement
  rw [nodeRules, eq_plain_of_mem_all h helement]
  simp only [layoutRules_plain hroot, ite_self, rules_plain hroot]
  rfl

/-! ### Without the filter -/

theorem entries_withoutFilter (skipFilters : Bool) (styles : Json) :
    (withoutFilter skipFilters styles).entries =
      if skipFilters then Entries.swapRemove styles.entries "filter" else styles.entries := by
  cases styles <;> cases skipFilters <;> rfl

section

variable (node : StyleNode) (ctx : StyleContext)

/-- The filter of an element is no pseudo-selector. -/
theorem pseudoRules_filter_cons (filter : Json) (entries : Fields) :
    node.pseudoRules ctx (("filter", filter) :: entries) = node.pseudoRules ctx entries := by
  have hfilter : isPseudo "filter" = false := by decide
  simp only [pseudoRules, List.filter_cons, hfilter]
  rfl

/-- The rule of an entry, told by its selector. -/
theorem selector_of_mem_pseudoRules {entries : Fields} {rule : Rule}
    (h : rule ∈ node.pseudoRules ctx entries) :
    ∃ key ∈ Entries.keys entries, rule.selector = Selector.append node.selector key := by
  obtain ⟨entry, hentry, hrule⟩ := List.mem_flatMap.1 h
  refine ⟨entry.1, List.mem_map_of_mem (List.mem_filter.1 hentry).1, ?_⟩
  rw [(Rule.mem_make_iff.1 hrule).2]

/-- A single entry has at most one rule. -/
theorem pseudoRules_singleton (entry : String × Json) :
    node.pseudoRules ctx [entry] = [] ∨ ∃ rule, node.pseudoRules ctx [entry] = [rule] := by
  rw [pseudoRules, List.filter_cons]
  split
  · rw [List.filter_nil, List.flatMap_singleton, Rule.make]
    split
    · exact .inl rfl
    · exact .inr ⟨_, rfl⟩
  · exact .inl rfl

/-- An entry can be put before others only if one of the two sides has no rule. -/
theorem pseudoRules_comm_iff {between : Fields} {last : String × Json}
    (h : last.1 ∉ Entries.keys between) :
    node.pseudoRules ctx [last] ++ node.pseudoRules ctx between =
        node.pseudoRules ctx between ++ node.pseudoRules ctx [last] ↔
      ¬(node.pseudoRules ctx between ≠ [] ∧ node.pseudoRules ctx [last] ≠ []) := by
  constructor
  · rintro heq ⟨hbetween, hlast⟩
    obtain hnil | ⟨rule, hrule⟩ := node.pseudoRules_singleton ctx last
    · exact hlast hnil
    · obtain ⟨first, rest, hfirst⟩ := List.exists_cons_of_ne_nil hbetween
      rw [hrule, hfirst] at heq
      have hmem : rule ∈ node.pseudoRules ctx between := by
        rw [hfirst, (List.cons.inj heq).1]
        exact List.mem_cons_self
      -- one rule would have the selectors of two keys
      obtain ⟨key, hkey, hselector⟩ := node.selector_of_mem_pseudoRules ctx hmem
      obtain ⟨other, hother, hselector'⟩ := node.selector_of_mem_pseudoRules ctx
        (hrule ▸ List.mem_singleton_self rule)
      rw [List.mem_singleton.1 hother] at hselector'
      exact h (Selector.append_right_cancel (hselector'.symm.trans hselector) ▸ hkey)
  · intro hempty
    rw [not_and_or, not_not, not_not] at hempty
    rcases hempty with hempty | hempty <;> rw [hempty, List.append_nil, List.nil_append]

/-- The last entry has a rule and overtakes another one that has a rule, once the filter is taken
out. -/
def Overtakes (entries : Fields) : Prop :=
  ∃ before filter between last, entries = before ++ ("filter", filter) :: (between ++ [last]) ∧
    node.pseudoRules ctx between ≠ [] ∧ node.pseudoRules ctx [last] ≠ []

theorem not_overtakes_of_get?_eq_none {entries : Fields}
    (h : Entries.get? entries "filter" = none) : ¬node.Overtakes ctx entries := by
  rintro ⟨before, filter, between, last, rfl, -⟩
  rw [← Option.not_isSome_iff_eq_none, ← Entries.mem_keys_iff] at h
  exact h (List.mem_map_of_mem (List.mem_append_right _ List.mem_cons_self))

/-- Entries part at the filter in one way only. -/
theorem overtakes_append_cons_iff {before after : Fields} (hbefore : "filter" ∉ Entries.keys before)
    (hafter : "filter" ∉ Entries.keys after) (filter : Json) :
    node.Overtakes ctx (before ++ ("filter", filter) :: after) ↔
      ∃ between last, after = between ++ [last] ∧ node.pseudoRules ctx between ≠ [] ∧
        node.pseudoRules ctx [last] ≠ [] := by
  constructor
  · rintro ⟨before', filter', between, last, heq, hrules⟩
    have hnot {entries : Fields} (hkeys : "filter" ∉ Entries.keys entries) :
        ("filter", filter') ∉ entries := fun hmem ↦ hkeys (List.mem_map_of_mem hmem)
    have hparts := (List.append_cons_inj_of_notMem (hnot hbefore) (hnot hafter)).1 heq
    exact ⟨between, last, hparts.2.2, hrules⟩
  · rintro ⟨between, last, rfl, hrules⟩
    exact ⟨before, filter, between, last, rfl, hrules⟩

/-- The last of the entries behind the filter has its rule before the others or after them. -/
theorem pseudoRules_rotate_iff {after : Fields} (h : (Entries.keys after).Nodup) :
    node.pseudoRules ctx (after.getLast?.toList ++ after.dropLast) = node.pseudoRules ctx after ↔
      ¬∃ between last, after = between ++ [last] ∧ node.pseudoRules ctx between ≠ [] ∧
        node.pseudoRules ctx [last] ≠ [] := by
  rcases List.eq_nil_or_concat after with rfl | ⟨between, last, rfl⟩
  · exact iff_of_true rfl (by simp)
  · rw [List.concat_eq_append] at h ⊢
    have hlast : last.1 ∉ Entries.keys between := by
      rw [Entries.keys, List.map_append] at h
      exact fun hmem ↦ List.disjoint_of_nodup_append h hmem List.mem_cons_self
    rw [List.getLast?_concat, List.dropLast_concat, Option.toList_some, pseudoRules_append,
      pseudoRules_append, node.pseudoRules_comm_iff ctx hlast]
    refine not_congr ⟨fun hrules ↦ ⟨between, last, rfl, hrules⟩, ?_⟩
    rintro ⟨between', last', heq, hrules⟩
    obtain ⟨rfl, hsame⟩ := List.append_inj' heq rfl
    rwa [List.singleton_inj.1 hsame]

variable {entries : Fields} (h : (Entries.keys entries).Nodup)
include h

/-- Taking out the filter loses no rule and adds none. -/
theorem perm_pseudoRules_swapRemove :
    (node.pseudoRules ctx (Entries.swapRemove entries "filter")).Perm
      (node.pseudoRules ctx entries) := by
  have hothers : (entries.filter fun entry ↦ entry.1 ≠ "filter").filter
      (fun entry ↦ isPseudo entry.1) = entries.filter fun entry ↦ isPseudo entry.1 := by
    rw [List.filter_filter]
    refine List.filter_congr fun entry _ ↦ ?_
    by_cases hkey : entry.1 = "filter"
    · rw [hkey]
      decide
    · simp [hkey]
  rw [pseudoRules, pseudoRules, ← hothers]
  exact ((Entries.swapRemove_perm h "filter").filter _).flatMap_right _

/-- **Taking out the filter keeps the order of the rules unless the last one overtakes another.** -/
theorem pseudoRules_swapRemove_iff :
    node.pseudoRules ctx (Entries.swapRemove entries "filter") = node.pseudoRules ctx entries ↔
      ¬node.Overtakes ctx entries := by
  rcases hget : Entries.get? entries "filter" with _ | filter
  · rw [Entries.swapRemove_of_get?_eq_none hget]
    exact iff_of_true rfl (node.not_overtakes_of_get?_eq_none ctx hget)
  · obtain ⟨before, after, rfl⟩ := List.append_of_mem (Entries.mem_of_get? hget)
    rw [Entries.keys, List.map_append, List.map_cons, List.nodup_middle, List.nodup_cons,
      List.mem_append, not_or] at h
    obtain ⟨⟨hbefore, hafter⟩, hnodup⟩ := h
    rw [Entries.swapRemove_append_cons hbefore, node.pseudoRules_append ctx before,
      node.pseudoRules_append ctx before, pseudoRules_filter_cons, List.append_cancel_left_eq,
      node.pseudoRules_rotate_iff ctx hnodup.of_append_right,
      node.overtakes_append_cons_iff ctx hbefore hafter]

end

end StyleNode

/-! ### In a stylesheet -/

/-- The options that leave filters out. -/
def CompileOptions.skippingFilters : CompileOptions :=
  { standard with skipFilters := true }

namespace Stylesheet

open StyleNode

/-- **Pseudo-selectors have their rules in the order of the tree, unless the last one overtakes
others while filters are skipped.** Of every well-formed tree, every registry and options, and the
node of every element: its own rule and those of its pseudo-selectors stand together in the styles;
the latter are those of the element's members as they stand in the tree, up to order; and they are
in the order of the tree exactly when filters are kept, or the last member of the element has no
rule, or no member between the filter and the last one has a rule. -/
theorem pseudoRules_in_order_iff {tree : Json} (htree : tree.WellFormed) {registry : Registry}
    {options : CompileOptions} {node : StyleNode}
    (hnode : node ∈ all (withSeparatorColors tree) registry options.skipFilters)
    (helement : node.place.element?.isSome) :
    let ctx := contextOf tree options node.place.scope?
    let members := (tree.down node.place.path).entries
    Rule.make .terminated node.selector (ctx.declarations node.styles false) ++
          node.pseudoRules ctx node.styles.entries <:+: (compile tree registry options).styles ∧
      (node.pseudoRules ctx node.styles.entries).Perm (node.pseudoRules ctx members) ∧
      (node.pseudoRules ctx node.styles.entries = node.pseudoRules ctx members ↔
        ¬(options.skipFilters = true ∧ node.Overtakes ctx members)) := by
  intro ctx members
  have htogether := nodeRules_together hnode
  rw [nodeRules_of_element? hnode helement] at htogether
  have hstyles := (styles_of_mem_all (wellFormed_withSeparatorColors htree) hnode).1
  rw [NodePlace.subtree_of_element? helement, NodePlace.down_withSeparatorColors helement]
    at hstyles
  have hentries : node.styles.entries =
      if options.skipFilters then Entries.swapRemove members "filter" else members := by
    rw [hstyles, entries_withoutFilter]
  have hnodup : (Entries.keys members).Nodup := nodup_keys_entries (wellFormed_down htree _)
  refine ⟨htogether, ?_⟩
  rw [hentries]
  split <;> rename_i hskip
  · exact ⟨node.perm_pseudoRules_swapRemove ctx hnodup, by
      rw [node.pseudoRules_swapRemove_iff ctx hnodup, and_iff_right hskip]⟩
  · exact ⟨.refl _, iff_of_true rfl fun h ↦ hskip h.1⟩

/-- Links whose pseudo-selectors come in the usual order, after a filter. -/
def treeWithLinks : Json :=
  .obj [("styles", .obj [("elements", .obj [("link", .obj
    [("filter", .obj [("duotone", .str "none")]),
      (":link", .obj [("color", .obj [("text", .str "red")])]),
      (":visited", .obj [("color", .obj [("text", .str "green")])]),
      (":hover", .obj [("color", .obj [("text", .str "blue")])])])])])]

/-- The node of the links, without their filter. -/
def linkNode : StyleNode :=
  .plain (.rootElement .link) "a" (withoutFilter true
    (treeWithLinks.down ["styles", "elements", "link"]))

/-- Links have a rule that overtakes two others. -/
theorem pseudoRules_in_order_iff_links :
    treeWithLinks.WellFormed ∧
      linkNode ∈ all (withSeparatorColors treeWithLinks) []
        CompileOptions.skippingFilters.skipFilters ∧
      linkNode.place.element?.isSome ∧
      linkNode.pseudoRules (contextOf treeWithLinks .skippingFilters none) linkNode.styles.entries ≠
        linkNode.pseudoRules (contextOf treeWithLinks .skippingFilters none)
          (treeWithLinks.down ["styles", "elements", "link"]).entries := by
  have htree : treeWithLinks.WellFormed := by
    simp [treeWithLinks, Json.WellFormed, Json.FieldsWellFormed]
  have hnode : linkNode ∈ all (withSeparatorColors treeWithLinks) []
      CompileOptions.skippingFilters.skipFilters := .tail _ (.head _)
  refine ⟨htree, hnode, rfl, fun heq ↦ ?_⟩
  exact (pseudoRules_in_order_iff htree hnode rfl).2.2.1 heq ⟨rfl, [], _,
    [(":link", .obj [("color", .obj [("text", .str "red")])]),
      (":visited", .obj [("color", .obj [("text", .str "green")])])], _, rfl,
    by decide +kernel, by decide +kernel⟩

/-- Without filters the rule of links under the pointer comes before those of links and of visited
links, which win over it then, although the tree has it after them. With filters it stays last. -/
theorem compile_hover_first :
    Entries.keys (treeWithLinks.down ["styles", "elements", "link"]).entries =
        ["filter", ":link", ":visited", ":hover"] ∧
      ((compile treeWithLinks [] .skippingFilters).styles.map Rule.selector).take 4 =
        ["body", "a:hover", "a:link", "a:visited"] ∧
      ((compile treeWithLinks [] .standard).styles.map Rule.selector).take 5 =
        ["body", "a", "a:link", "a:visited", "a:hover"] := by
  decide +kernel

end Stylesheet

end GlobalStyles
