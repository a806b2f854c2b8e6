import GlobalStyles.Proofs.Node.Style
import GlobalStyles.Proofs.Style.Gathering
import GlobalStyles.Stylesheet.Node

/-!
# Nodes whose styles agree

The rules and the reports of a node are a function of what its parts say, so they are the same for
styles that agree (`StyleNode.rules_congr`, `StyleNode.styleDiagnostics_congr`), in contexts that
match.

One part needs the order of members: pseudo-selectors become rules in the order of the styles. There
are none in the node of the root or of a block, whose members are picked by name, and the node of an
element has neither features nor a filter to take out, so its styles stay in order. The two cases
are `NodeParts.alike_of_picked` and `NodeParts.alike_of_plain`.
-/

namespace GlobalStyles

open FeaturePart (gathered)

/-! ### Variations -/

namespace VariationParts

/-- Two variations that say the same. -/
structure Alike (ctx other : StyleContext) (a b : VariationParts) : Prop where
  name : a.name = b.name
  selector : a.selector = b.selector
  features : gathered ctx a.features = gathered other b.features
  own : a.own.Agree b.own

variable {ctx other : StyleContext}

theorem Alike.rules_eq (hctx : ctx.Matches other) {a b : VariationParts} (h : Alike ctx other a b) :
    a.rules ctx = b.rules other := by
  rw [rules, rules, h.name, h.selector, FeaturePart.groups_congr hctx h.features,
    hctx.declarations_eq h.own]

theorem Alike.diagnostics_eq (hctx : ctx.Matches other) {a b : VariationParts}
    (h : Alike ctx other a b) : a.diagnostics ctx = b.diagnostics other := by
  rw [diagnostics, diagnostics, FeaturePart.diagnostics_congr hctx h.features,
    hctx.diagnostics_eq h.own]

/-- Styles that agree have the same variations. -/
theorem alike_ofStyles? (hctx : ctx.Matches other) (node : StyleNode) {a b : Json} (h : a.Agree b)
    (ha : a.WellFormed) (hb : b.WellFormed) (variation : String × String) :
    List.Forall₂ (Alike ctx other) (ofStyles? node a variation).toList
      (ofStyles? node b variation).toList := by
  rw [ofStyles?, ofStyles?]
  rcases h.get?_cases ["variations", variation.1] with
    ⟨hnone, hnone'⟩ | ⟨v, w, hsome, hsome', hvalue⟩
  · rw [hnone, hnone']
    exact .nil
  · obtain ⟨hfeatures, hown⟩ := FeaturePart.take_alike hctx node.featureSelectors hvalue
      (Json.wellFormed_of_get? ha hsome) (Json.wellFormed_of_get? hb hsome')
    rw [hsome, hsome']
    exact .cons ⟨rfl, rfl, hfeatures, hown⟩ .nil

end VariationParts

/-! ### Parts of a node -/

namespace NodeParts

/-- The filter as a part. -/
def duotoneParts (parts : NodeParts) : List FeaturePart :=
  parts.duotone.toList.map fun entry ↦ ⟨entry.1, entry.2⟩

/-- The pseudo-selectors as parts. -/
def pseudoParts (parts : NodeParts) : List FeaturePart :=
  parts.pseudo.map fun entry ↦ ⟨entry.1, entry.2⟩

/-- Two nodes that say the same, part by part. -/
structure Alike (ctx other : StyleContext) (a b : NodeParts) : Prop where
  features : gathered ctx a.features = gathered other b.features
  variations : List.Forall₂ (VariationParts.Alike ctx other) a.variations b.variations
  duotone : gathered ctx a.duotoneParts = gathered other b.duotoneParts
  own : a.own.Agree b.own
  pseudo : gathered ctx a.pseudoParts = gathered other b.pseudoParts

variable {ctx other : StyleContext}

/-- The filter of an object, where a `null` and a missing one say the same. -/
theorem gathered_takeDuotone (ctx : StyleContext) (selector : String) (fields : Fields) :
    gathered ctx ((takeDuotone (some selector) (.obj fields)).1.toList.map
        fun entry ↦ ⟨entry.1, entry.2⟩) =
      gathered ctx [⟨selector, .obj [("filter", (Json.obj fields).child "filter")]⟩] := by
  rw [takeDuotone, Json.child_obj]
  rcases hget : Entries.get? fields "filter" with _ | filter
  · have hnull : ctx.written (.obj [("filter", .null)]) false = [] := by
      refine ctx.written_eq_nil (fun category ↦ ?_) fun category key ↦ ?_
      all_goals rw [Json.child_singleton, ite_self]
      · exact .inl rfl
      · rfl
    exact (FeaturePart.gathered_of_written_eq_nil hnull).symm
  · rfl

theorem takeDuotone_snd (selector : String) (fields : Fields) :
    (takeDuotone (some selector) (.obj fields)).2 = .obj (Entries.swapRemove fields "filter") := by
  rw [takeDuotone]
  rcases hget : Entries.get? fields "filter" with _ | filter
  · rw [Entries.swapRemove_of_get?_eq_none hget]
  · rfl

theorem takeDuotone_of_not_isObject {styles : Json} (h : styles.isObject = false)
    (selector : Option String) : takeDuotone selector styles = (none, styles) := by
  cases styles with
  | obj fields => cases h
  | _ => cases selector <;> rfl

/-- Of subtrees that agree, the same filter is taken out, and what is left agrees. -/
theorem takeDuotone_alike (hctx : ctx.Matches other) (selector : Option String) {a b : Json}
    (h : a.Agree b) (ha : a.WellFormed) (hb : b.WellFormed) :
    gathered ctx ((takeDuotone selector a).1.toList.map fun entry ↦ ⟨entry.1, entry.2⟩) =
        gathered other ((takeDuotone selector b).1.toList.map fun entry ↦ ⟨entry.1, entry.2⟩) ∧
      (takeDuotone selector a).2.Agree (takeDuotone selector b).2 := by
  rcases selector with - | selector
  · exact ⟨rfl, h⟩
  · rcases h.isObject_cases with ⟨hobject, hobject'⟩ | ⟨fields, fields', rfl, rfl⟩
    · rw [takeDuotone_of_not_isObject hobject, takeDuotone_of_not_isObject hobject']
      exact ⟨rfl, h⟩
    · rw [gathered_takeDuotone, gathered_takeDuotone, takeDuotone_snd, takeDuotone_snd]
      exact ⟨FeaturePart.gathered_congr hctx ((h.child "filter").singleton "filter") selector,
        h.swapRemove ha.1 hb.1 "filter"⟩

section

variable (hctx : ctx.Matches other) (node : StyleNode) {a b : Json} (h : a.Agree b)
  (variationStyles : Bool)
include hctx h

/-- Two nodes with styles that agree say the same, if their pseudo-selectors do. -/
theorem alike_of_pseudo (ha : a.WellFormed) (hb : b.WellFormed)
    (hpseudo : gathered ctx (ofNode { node with styles := a } variationStyles).pseudoParts =
      gathered other (ofNode { node with styles := b } variationStyles).pseudoParts) :
    Alike ctx other (ofNode { node with styles := a } variationStyles)
      (ofNode { node with styles := b } variationStyles) := by
  obtain ⟨hfeatures, hleft⟩ := FeaturePart.take_alike hctx node.featureSelectors h ha hb
  have hwell := FeaturePart.wellFormed_take node.featureSelectors ha
  have hwell' := FeaturePart.wellFormed_take node.featureSelectors hb
  obtain ⟨hduotone, hown⟩ := takeDuotone_alike hctx node.duotoneSelector hleft hwell hwell'
  refine ⟨hfeatures, ?_, hduotone, hown, hpseudo⟩
  simp only [ofNode]
  split
  · rw [List.filterMap_eq_flatMap_toList, List.filterMap_eq_flatMap_toList]
    exact forall₂_flatMap
      (VariationParts.alike_ofStyles? hctx { node with styles := a } hleft hwell hwell') _
  · exact .nil

end

/-! ### Pseudo-selectors -/

theorem keys_takeDuotone_subset (selector : Option String) (styles : Json) :
    Entries.keys (takeDuotone selector styles).2.entries ⊆ Entries.keys styles.entries := by
  cases hobject : styles.isObject
  · rw [takeDuotone_of_not_isObject hobject]
    exact List.Subset.refl _
  · obtain ⟨fields, rfl⟩ := Json.exists_obj hobject
    rcases selector with - | selector
    · exact List.Subset.refl _
    · rw [takeDuotone_snd]
      exact List.map_subset _ (Entries.swapRemove_subset fields "filter")

/-- No member that is picked by name is a pseudo-selector. -/
theorem isPseudo_of_mem_pickedKeys {key : String} (h : key ∈ StyleNode.pickedKeys) :
    isPseudo key = false := by
  have hall : ∀ key ∈ StyleNode.pickedKeys, isPseudo key = false := by decide
  exact hall key h

/-- Styles without a pseudo-selector leave none. -/
theorem pseudo_eq_nil {node : StyleNode}
    (h : ∀ key ∈ Entries.keys node.styles.entries, isPseudo key = false) (variationStyles : Bool) :
    (ofNode node variationStyles).pseudo = [] := by
  refine List.filter_eq_nil_iff.2 fun entry hmem ↦ ?_
  have hkey := List.mem_map_of_mem (f := Prod.fst) hmem
  rw [h entry.1 (FeaturePart.keys_take_subset _ _ (keys_takeDuotone_subset _ _ hkey))]
  exact Bool.false_ne_true

/-- Nothing is said under a pseudo-selector that is `null`. -/
theorem gathered_live (ctx : StyleContext) (p : String × Json → Bool) (fields : Fields) :
    gathered ctx ((fields.filter p).map fun entry ↦ ⟨entry.1, entry.2⟩) =
      gathered ctx (((Json.obj fields).live.filter p).map fun entry ↦ ⟨entry.1, entry.2⟩) := by
  have hnull (selector : String) : gathered ctx [⟨selector, .null⟩] = [] :=
    FeaturePart.gathered_of_written_eq_nil
      (ctx.written_eq_nil (fun _ ↦ .inl rfl) fun _ _ ↦ rfl)
  induction fields with
  | nil => rfl
  | cons entry rest ih =>
    obtain ⟨key, value⟩ := entry
    have hlive : (Json.obj ((key, value) :: rest)).live =
        if value.isNull then (Json.obj rest).live else (key, value) :: (Json.obj rest).live := by
      cases value <;> rfl
    rw [hlive]
    split <;> rename_i hvalue
    · -- a part more or less that says nothing
      rw [(Json.isNull_eq_true_iff value).1 hvalue, List.filter_cons]
      split
      · rw [List.map_cons, FeaturePart.gathered_cons, hnull]
        exact ih
      · exact ih
    · rw [List.filter_cons, List.filter_cons]
      split
      · rw [List.map_cons, List.map_cons, FeaturePart.gathered_cons, ih,
          ← FeaturePart.gathered_cons]
      · exact ih

/-- Entries with the same keys and values that agree say the same. -/
theorem gathered_map_congr (hctx : ctx.Matches other) {as bs : Fields}
    (h : List.Forall₂ (fun x y ↦ x.1 = y.1 ∧ x.2.Agree y.2) as bs) :
    gathered ctx (as.map fun entry ↦ ⟨entry.1, entry.2⟩) =
      gathered other (bs.map fun entry ↦ ⟨entry.1, entry.2⟩) := by
  induction h with
  | nil => rfl
  | cons hhead _ ih =>
    rw [List.map_cons, List.map_cons, FeaturePart.gathered_cons, ih, hhead.1,
      FeaturePart.gathered_congr hctx hhead.2, ← FeaturePart.gathered_cons]

/-- The pseudo-selectors of subtrees that agree in order say the same, in the same order. -/
theorem gathered_pseudo_congr (hctx : ctx.Matches other) {a b : Json} (h : a.Agree b)
    (ha : a.WellFormed) (hb : b.WellFormed) (horder : a.InOrder b []) :
    gathered ctx ((a.entries.filter fun entry ↦ isPseudo entry.1).map
        fun entry ↦ ⟨entry.1, entry.2⟩) =
      gathered other ((b.entries.filter fun entry ↦ isPseudo entry.1).map
        fun entry ↦ ⟨entry.1, entry.2⟩) := by
  rw [gathered_live ctx, gathered_live other]
  show gathered ctx ((a.live.filter _).map _) = gathered other ((b.live.filter _).map _)
  have hlive : List.Forall₂ (fun x y ↦ x.1 = y.1 ∧ x.2.Agree y.2) a.live b.live :=
    (Json.forall₂_live ha hb horder).imp fun x y ⟨hkey, hvalue, hvalue'⟩ ↦
      ⟨hkey, hvalue ▸ hvalue' ▸ h.child x.1⟩
  refine gathered_map_congr hctx (List.rel_filter (fun x y hxy ↦ ?_) hlive)
  exact iff_of_eq (congrArg (fun key ↦ isPseudo key = true) hxy.1)

/-! ### The two kinds of nodes -/

/-- A node of which the registry says nothing is not taken apart. -/
theorem ofNode_plain (place : NodePlace) (selector : String) (styles : Json)
    (variationStyles : Bool) :
    ofNode (.plain place selector styles) variationStyles =
      ⟨[], [], none, styles, styles.entries.filter fun entry ↦ isPseudo entry.1⟩ := by
  cases styles <;> cases variationStyles <;> rfl

section

variable (hctx : ctx.Matches other) {a b : Json} (h : a.Agree b) (ha : a.WellFormed)
  (hb : b.WellFormed) (variationStyles : Bool)
include hctx h ha hb

/-- Nodes whose members were picked by name have no pseudo-selectors. -/
theorem alike_of_picked (node : StyleNode)
    (hkeys : ∀ key ∈ Entries.keys a.entries, isPseudo key = false)
    (hkeys' : ∀ key ∈ Entries.keys b.entries, isPseudo key = false) :
    Alike ctx other (ofNode { node with styles := a } variationStyles)
      (ofNode { node with styles := b } variationStyles) := by
  refine alike_of_pseudo hctx node h variationStyles ha hb ?_
  rw [pseudoParts, pseudoParts, pseudo_eq_nil hkeys, pseudo_eq_nil hkeys']
  rfl

/-- Nodes of which the registry says nothing keep their styles in order. -/
theorem alike_of_plain (place : NodePlace) (selector : String) (horder : a.InOrder b []) :
    Alike ctx other (ofNode (.plain place selector a) variationStyles)
      (ofNode (.plain place selector b) variationStyles) := by
  refine alike_of_pseudo hctx (.plain place selector .null) h variationStyles ha hb ?_
  show gathered ctx (ofNode (.plain place selector a) variationStyles).pseudoParts =
    gathered other (ofNode (.plain place selector b) variationStyles).pseudoParts
  rw [pseudoParts, pseudoParts, ofNode_plain, ofNode_plain]
  exact gathered_pseudo_congr hctx h ha hb horder

end

end NodeParts

/-! ### Rules and reports -/

namespace StyleNode

variable {ctx other : StyleContext} (hctx : ctx.Matches other) {node node' : StyleNode}
  (hroot : node.isRoot = node'.isRoot) {variationStyles : Bool}
  (h : NodeParts.Alike ctx other (.ofNode node variationStyles) (.ofNode node' variationStyles))
include hctx hroot h

/-- **Nodes that say the same have the same rules.** -/
theorem rules_congr (hselector : node.selector = node'.selector) (layout : List Rule) :
    node.rules ctx variationStyles layout = node'.rules other variationStyles layout := by
  have hduotone := FeaturePart.flatMap_make_congr hctx h.duotone .terminated id
  have hpseudo := FeaturePart.flatMap_make_congr hctx h.pseudo .terminated
    (Selector.append node'.selector)
  simp only [NodeParts.duotoneParts, NodeParts.pseudoParts, List.flatMap_map, id]
    at hduotone hpseudo
  simp only [rules, hselector, hroot, FeaturePart.groups_congr hctx h.features,
    hctx.declarations_eq h.own, hduotone, hpseudo,
    flatMap_eq_of_forall₂ (fun _ _ hvariation ↦ hvariation.rules_eq hctx) h.variations]

/-- **Nodes that say the same have the same reports.** -/
theorem styleDiagnostics_congr :
    node.styleDiagnostics ctx variationStyles = node'.styleDiagnostics other variationStyles := by
  have hduotone := FeaturePart.diagnostics_congr hctx h.duotone
  have hpseudo := FeaturePart.diagnostics_congr hctx h.pseudo
  simp only [FeaturePart.diagnostics, NodeParts.duotoneParts, NodeParts.pseudoParts,
    List.flatMap_map] at hduotone hpseudo
  simp only [styleDiagnostics, hroot, FeaturePart.diagnostics_congr hctx h.features,
    hctx.diagnostics_eq h.own, hduotone, hpseudo,
    flatMap_eq_of_forall₂ (fun _ _ hvariation ↦ hvariation.diagnostics_eq hctx) h.variations]

end StyleNode

/-! ### Layout -/

/-- The gap is read along paths. -/
theorem GapSupport.css?_congr {v w : Json} (h : v.Agree w) (space : String) :
    css? v space = css? w space := by
  have hside (key : String) : side? v space key = side? w space key := by
    rw [side?, side?, h.bind_get?_eq [key] fun _ _ hvalue ↦ hvalue.css?_eq]
  rcases h.isObject_cases with ⟨hobject, hobject'⟩ | ⟨fields, fields', rfl, rfl⟩
  · have hother {value : Json} (hvalue : value.isObject = false) : css? value space =
        (value.css?.filter (· ≠ "")).map (Reference.compile · space) := by
      cases value with
      | obj fields => cases hvalue
      | _ => rfl
    rw [hother hobject, hother hobject', h.css?_eq]
  · simp only [css?, hside]

/-- Nodes whose styles agree have the same layout rules. -/
theorem StyleNode.layoutRules_congr (node : StyleNode) {a b : Json} (h : a.Agree b)
    (kinds : List LayoutKind) (gap : GapSupport) (space : String) :
    layoutRules { node with styles := a } kinds gap space =
      layoutRules { node with styles := b } kinds gap space := by
  have hgap : gap? { node with styles := a } gap space =
      gap? { node with styles := b } gap space := by
    simp only [gap?, isRoot,
      h.bind_get?_eq ["spacing", "blockGap"] fun _ _ hvalue ↦ GapSupport.css?_congr hvalue space]
  simp only [layoutRules, hgap]
  rfl

/-! ### Nodes of elements -/

namespace StyleNode

variable {place : NodePlace} (hplace : place ≠ .root) (selector : String) {styles : Json}
include hplace

/-- Elements have no layout. -/
theorem layoutRules_plain (styles : Json) (kinds : List LayoutKind) (gap : GapSupport)
    (space : String) : (plain place selector styles).layoutRules kinds gap space = [] := by
  have hroot : (plain place selector styles).isRoot = false := beq_eq_false_iff_ne.2 hplace
  simp only [layoutRules, hroot]
  rfl

/-- The rules of a node of which the registry says nothing. -/
theorem rules_plain (styles : Json) (ctx : StyleContext) (variationStyles : Bool) :
    (plain place selector styles).rules ctx variationStyles [] =
      Rule.make .terminated selector (ctx.declarations styles false) ++
        (styles.entries.filter fun entry ↦ NodeParts.isPseudo entry.1).flatMap fun entry ↦
          Rule.make .terminated (Selector.append selector entry.1)
            (ctx.declarations entry.2 false) := by
  have hroot : (plain place selector styles).isRoot = false := beq_eq_false_iff_ne.2 hplace
  simp only [rules, NodeParts.ofNode_plain, hroot]
  rfl

/-- In a node of which the registry says nothing, problems are those of its own styles and of its
pseudo-selectors. -/
theorem styleDiagnostics_plain (styles : Json) (ctx : StyleContext) (variationStyles : Bool) :
    (plain place selector styles).styleDiagnostics ctx variationStyles =
      ctx.diagnostics styles false ++
        (styles.entries.filter fun entry ↦ NodeParts.isPseudo entry.1).flatMap fun entry ↦
          ctx.diagnostics entry.2 false := by
  have hroot : (plain place selector styles).isRoot = false := beq_eq_false_iff_ne.2 hplace
  simp only [styleDiagnostics, NodeParts.ofNode_plain, hroot]
  rfl

variable (h : styles.entries = [])
include h

/-- The styles of an element that hold nothing say nothing. -/
theorem written_plain_eq_nil (ctx : StyleContext) :
    ctx.written styles (plain place selector styles).isRoot = [] := by
  have hchild (key : String) : styles.child key = .null := by
    rw [Json.child, Json.member?, h]
    rfl
  have hroot : (plain place selector styles).isRoot = false := beq_eq_false_iff_ne.2 hplace
  rw [hroot]
  refine ctx.written_eq_nil (fun category ↦ .inl (hchild category)) fun category key ↦ ?_
  rw [hchild]
  rfl

theorem rules_plain_eq_nil (ctx : StyleContext) (variationStyles : Bool) :
    (plain place selector styles).rules ctx variationStyles [] = [] := by
  have hsaid := written_plain_eq_nil hplace selector h ctx
  simp only [rules, NodeParts.ofNode_plain, StyleContext.declarations, hsaid, h]
  rfl

theorem styleDiagnostics_plain_eq_nil (ctx : StyleContext) (variationStyles : Bool) :
    (plain place selector styles).styleDiagnostics ctx variationStyles = [] := by
  have hsaid := written_plain_eq_nil hplace selector h ctx
  simp only [styleDiagnostics, NodeParts.ofNode_plain, StyleContext.diagnostics, hsaid, h]
  rfl

end StyleNode

end GlobalStyles
