import GlobalStyles.Proofs.Style.Gathering

/-!
# The order inside split features

A split selector names the parts of a feature in some order, and the parts are taken in that order.
Named in another order, the same parts are taken: each has the members it had, since no part takes
what another one names, and what is left of the feature agrees. Only the order in which the parts
come is another one (`FeaturePart.rearranged_take`).

So whatever is read of the parts one by one is a permutation, and what is gathered by selector is
the same up to the order of the selectors and the order under each.
-/

namespace GlobalStyles

/-- Two selectors of a feature that differ at most in the order of the parts they name. -/
inductive FeatureSelector.Reordered : FeatureSelector → FeatureSelector → Prop
  | whole (selector : String) : Reordered (.whole selector) (.whole selector)
  | split {a b : Entries String} (hnodup : (Entries.keys a).Nodup) (h : a.Perm b) :
    Reordered (.split a) (.split b)

/-- The same features in the same order, each up to the order of its parts. -/
def FeaturesReordered : Entries FeatureSelector → Entries FeatureSelector → Prop :=
  List.Forall₂ fun x y ↦ x.1 = y.1 ∧ x.2.Reordered y.2

namespace FeaturePart

open Json

variable {ctx : StyleContext}

/-- The same was taken out in another order, as far as it says something, and what is left
agrees. -/
structure Rearranged (ctx : StyleContext) (parts : List FeaturePart) (left : Fields)
    (parts' : List FeaturePart) (left' : Fields) : Prop where
  gathered : (gathered ctx parts).Perm (FeaturePart.gathered ctx parts')
  left : (obj left).Agree (obj left')

/-- What is taken alike is rearranged by leaving it as it is. -/
theorem Alike.rearranged {parts parts' : List FeaturePart} {left left' : Fields}
    (h : Alike ctx ctx parts left parts' left') : Rearranged ctx parts left parts' left' :=
  ⟨.of_eq h.gathered, h.left⟩

theorem Rearranged.refl (parts : List FeaturePart) (left : Fields) :
    Rearranged ctx parts left parts left :=
  ⟨.refl _, .refl _⟩

theorem Rearranged.trans {parts parts' parts'' : List FeaturePart} {left left' left'' : Fields}
    (h : Rearranged ctx parts left parts' left') (h' : Rearranged ctx parts' left' parts'' left'') :
    Rearranged ctx parts left parts'' left'' :=
  ⟨h.gathered.trans h'.gathered, fun path ↦ (h.left path).trans (h'.left path)⟩

theorem gathered_perm {parts others : List FeaturePart} (h : parts.Perm others) :
    (gathered ctx parts).Perm (gathered ctx others) :=
  (h.map _).filter _

/-! ### Named parts -/

/-- The part that a selector takes of a feature: the member it names, alone. -/
def named (feature : String) (members : Fields) (entry : String × String) : FeaturePart :=
  ofFeature entry.2 feature (obj [(entry.1, (obj members).child entry.1)])

/-- Each named part has the member that stands there from the start. -/
theorem gathered_takeNamed (feature : String) {selectors : Entries String}
    (hselectors : (Entries.keys selectors).Nodup) {members : Fields}
    (hwell : (obj members).WellFormed) :
    gathered ctx (takeNamed feature selectors members).1 =
      gathered ctx ((selectors.filter fun entry ↦ entry.1 ≠ "root").map
        (named feature members)) := by
  induction selectors generalizing members with
  | nil => rfl
  | cons entry rest ih =>
    obtain ⟨key, selector⟩ := entry
    obtain ⟨hkey, hrest⟩ := List.nodup_cons.1 hselectors
    by_cases hroot : key = "root"
    · rw [takeNamed, if_pos hroot, ih hrest hwell, List.filter_cons_of_neg (by simpa using hroot)]
    · have hothers : (rest.filter fun entry ↦ entry.1 ≠ "root").map
          (named feature (Entries.swapRemove members key)) =
          (rest.filter fun entry ↦ entry.1 ≠ "root").map (named feature members) := by
        -- the other selectors name other members
        refine List.map_congr_left fun other hother ↦ ?_
        have hmem : other.1 ∈ Entries.keys rest :=
          List.mem_map_of_mem (List.mem_filter.1 hother).1
        have hne : other.1 ≠ key := fun heq ↦ hkey (heq ▸ hmem)
        rw [named, named, child_swapRemove hwell.1, if_neg hne]
      rw [gathered_takeNamed_cons ctx feature hroot, ih hrest (wellFormed_obj_swapRemove hwell key),
        hothers, List.filter_cons_of_pos (by simpa using hroot), List.map_cons,
        gathered_cons ctx (named _ _ _)]
      rfl

/-- Named parts leave the other members, and a member called `root`. -/
theorem child_takeNamed (feature : String) (selectors : Entries String) {members : Fields}
    (hwell : (obj members).WellFormed) (key : String) :
    (obj (takeNamed feature selectors members).2).child key =
      if key ≠ "root" ∧ key ∈ Entries.keys selectors then null else (obj members).child key := by
  induction selectors generalizing members with
  | nil => simp [takeNamed, Entries.keys]
  | cons entry rest ih =>
    obtain ⟨first, selector⟩ := entry
    have hmem : key ∈ Entries.keys ((first, selector) :: rest) ↔
        key = first ∨ key ∈ Entries.keys rest := List.mem_cons
    by_cases hroot : first = "root"
    · rw [takeNamed, if_pos hroot, ih hwell]
      subst hroot
      by_cases hkey : key = "root" <;> simp [hkey, hmem]
    · rw [takeNamed_cons_snd feature hroot, ih (wellFormed_obj_swapRemove hwell first),
        child_swapRemove hwell.1]
      by_cases hkey : key = first
      · subst hkey
        simp [hroot, hmem]
      · simp [hkey, hmem]

/-! ### Features -/

/-- A feature with its selectors in another order takes the same, in some order. -/
theorem rearranged_takeMembers (ctx : StyleContext) (feature : String)
    {selector other : FeatureSelector} (h : selector.Reordered other) {members : Fields}
    (hwell : (obj members).WellFormed) :
    Rearranged ctx (takeMembers feature members selector).1
        (takeMembers feature members selector).2.1 (takeMembers feature members other).1
        (takeMembers feature members other).2.1 ∧
      (takeMembers feature members selector).2.2 = (takeMembers feature members other).2.2 := by
  cases h with
  | whole selector => exact ⟨.refl _ _, rfl⟩
  | @split a b hnodup h =>
    have hnodup' : (Entries.keys b).Nodup := (h.map Prod.fst).nodup_iff.1 hnodup
    refine ⟨⟨?_, .obj fun key ↦ ?_⟩, Entries.get?_perm h hnodup "root"⟩
    · show (gathered ctx (takeNamed feature a members).1).Perm
        (gathered ctx (takeNamed feature b members).1)
      rw [gathered_takeNamed feature hnodup hwell, gathered_takeNamed feature hnodup' hwell]
      exact gathered_perm ((h.filter _).map _)
    · show ((obj (takeNamed feature a members).2).child key).Agree
        ((obj (takeNamed feature b members).2).child key)
      have hkeys : key ∈ Entries.keys a ↔ key ∈ Entries.keys b := (h.map Prod.fst).mem_iff
      rw [child_takeNamed feature a hwell, child_takeNamed feature b hwell]
      simp only [hkeys]
      rfl

/-- The same feature is taken out of the same styles by a selector in another order. -/
theorem rearranged_takeFeature (ctx : StyleContext) {styles : Fields}
    (hwell : (obj styles).WellFormed) (feature : String) {selector other : FeatureSelector}
    (h : selector.Reordered other) :
    Rearranged ctx (takeFeature styles feature selector).1 (takeFeature styles feature selector).2
      (takeFeature styles feature other).1 (takeFeature styles feature other).2 := by
  rw [takeFeature, takeFeature]
  split <;> rename_i hget
  · rename_i members
    obtain ⟨hparts, hrest⟩ := rearranged_takeMembers ctx feature h (hwell.2.of_get? hget)
    split
    · exact .refl _ _
    · rcases htake : takeMembers feature members selector with ⟨parts, left, root⟩
      rcases htake' : takeMembers feature members other with ⟨parts', left', root'⟩
      rw [htake, htake'] at hparts hrest
      cases hrest
      rcases root with - | rest
      · exact ⟨hparts.gathered, (Json.Agree.refl (obj styles)).put hparts.left feature⟩
      · -- what the named parts leave is one part more
        refine ⟨?_, .refl _⟩
        have hlast := gathered_congr (.refl ctx) (hparts.left.singleton feature) rest
        rw [gathered_append, gathered_append]
        exact hparts.gathered.append (.of_eq hlast)
  · exact .refl _ _

/-- **Reordered features take the same from styles that agree**, in some order. -/
theorem rearranged_takeAll (ctx : StyleContext) {features others : Entries FeatureSelector}
    (h : FeaturesReordered features others) {styles styles' : Fields}
    (hagree : (obj styles).Agree (obj styles')) (hwell : (obj styles).WellFormed)
    (hwell' : (obj styles').WellFormed) :
    Rearranged ctx (takeAll features styles).1 (takeAll features styles).2
      (takeAll others styles').1 (takeAll others styles').2 := by
  induction h generalizing styles styles' with
  | nil => exact ⟨.refl _, hagree⟩
  | @cons x y rest rest' hhead _ ih =>
    obtain ⟨feature, selector⟩ := x
    obtain ⟨_, other⟩ := y
    obtain ⟨rfl, hselector⟩ := hhead
    -- first another order on the same styles, then the same order on styles that agree
    have hfirst := (rearranged_takeFeature ctx hwell feature hselector).trans
      (alike_takeFeature (.refl ctx) hagree hwell hwell' feature other).rearranged
    have hrest := ih hfirst.left (wellFormed_takeFeature hwell feature selector)
      (wellFormed_takeFeature hwell' feature other)
    refine ⟨?_, hrest.left⟩
    simp only [takeAll, gathered_append]
    exact hfirst.gathered.append hrest.gathered

/-- **Features whose parts are named in another order take the same out of styles that agree**, in
another order, and what is left agrees. -/
theorem rearranged_take (ctx : StyleContext) {features others : Entries FeatureSelector}
    (h : FeaturesReordered features others) {a b : Json} (hagree : a.Agree b) (ha : a.WellFormed)
    (hb : b.WellFormed) :
    (gathered ctx (take features a).1).Perm (gathered ctx (take others b).1) ∧
      (take features a).2.Agree (take others b).2 := by
  rcases hagree.isObject_cases with ⟨hobject, hobject'⟩ | ⟨fields, fields', rfl, rfl⟩
  · rw [take_of_not_isObject features hobject, take_of_not_isObject others hobject']
    exact ⟨.refl _, hagree⟩
  · have htaken := rearranged_takeAll ctx h hagree ha hb
    exact ⟨htaken.gathered, htaken.left⟩

end FeaturePart

/-! ### What is made of the parts -/

/-- A rule as far as no order shows: its selector, its spacing, and each of its declarations as
often as it stands there. -/
def Rule.content (rule : Rule) : String × RuleShape × Multiset Declaration :=
  (rule.selector, rule.shape, rule.declarations)

namespace FeaturePart

variable {ctx : StyleContext} {parts others : List FeaturePart}
  (h : (gathered ctx parts).Perm (gathered ctx others))
include h

/-- Parts that say the same in another order are gathered to the same rules, up to the order of the
rules and of the declarations in each. -/
theorem perm_content_groups (shape : RuleShape) (name : String → String) :
    (((groups ctx parts).flatMap fun group ↦ Rule.make shape (name group.1) group.2).map
        Rule.content).Perm
      (((groups ctx others).flatMap fun group ↦ Rule.make shape (name group.1) group.2).map
        Rule.content) := by
  have hgroups (parts : List FeaturePart) : groups ctx parts = Entries.gather
      ((gathered ctx parts).map fun entry ↦ (entry.1, entry.2.map ctx.declare)) := by
    rw [groups_eq_foldl_gathered, Entries.gather, List.foldl_map]
    rfl
  have hrules (parts : List FeaturePart) :
      ((groups ctx parts).flatMap fun group ↦ Rule.make shape (name group.1) group.2).map
          Rule.content =
        ((groups ctx parts).map (Prod.map id (Multiset.ofList : List Declaration → _))).map
          fun group ↦ (name group.1, shape, group.2) := by
    rw [List.map_flatMap, List.map_map, List.map_eq_flatMap]
    refine List.flatMap_congr fun group hgroup ↦ ?_
    rw [Rule.make, if_neg (by simpa using (groups_spec ctx parts).2 group hgroup)]
    rfl
  rw [hrules, hrules, hgroups, hgroups]
  exact (Entries.perm_map_gather (h.map _)).map _

/-- The problems met in them are the same, in some order. -/
theorem perm_diagnostics : (diagnostics ctx parts).Perm (diagnostics ctx others) := by
  rw [diagnostics_eq_flatMap_gathered, diagnostics_eq_flatMap_gathered]
  exact h.flatMap_right _

end FeaturePart

end GlobalStyles
