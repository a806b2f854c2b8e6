import GlobalStyles.Proofs.Style.Agreement
import GlobalStyles.Proofs.Style.Feature

/-!
# Features of styles that agree

Taking features out of two subtrees that agree need not give the same number of parts: a split
selector takes a member that is `null`, and takes nothing where the member is missing. Such a part
says nothing, and groups and reports are made of what parts say. `FeaturePart.gathered` keeps that
and drops the parts that say nothing; it is the same on both sides, and what is left agrees
(`FeaturePart.take_alike`).
-/

namespace GlobalStyles.FeaturePart

open Json

/-! ### What parts say -/

/-- What each part says, with its selector; parts that say nothing are left out. -/
def gathered (ctx : StyleContext) (parts : List FeaturePart) : List (String × List Written) :=
  (parts.map fun part ↦ (part.selector, ctx.written part.styles false)).filter
    fun entry ↦ !entry.2.isEmpty

theorem gathered_append (ctx : StyleContext) (a b : List FeaturePart) :
    gathered ctx (a ++ b) = gathered ctx a ++ gathered ctx b := by
  rw [gathered, List.map_append, List.filter_append]
  rfl

theorem gathered_cons (ctx : StyleContext) (part : FeaturePart) (rest : List FeaturePart) :
    gathered ctx (part :: rest) = gathered ctx [part] ++ gathered ctx rest :=
  gathered_append ctx [part] rest

/-- A part that says nothing is not gathered. -/
theorem gathered_of_written_eq_nil {ctx : StyleContext} {part : FeaturePart}
    (h : ctx.written part.styles false = []) : gathered ctx [part] = [] := by
  simp [gathered, h]

/-- Groups are made of what parts say. -/
theorem groups_eq_foldl_gathered (ctx : StyleContext) (parts : List FeaturePart) :
    groups ctx parts =
      (gathered ctx parts).foldl (fun made entry ↦ addTo made entry.1 (entry.2.map ctx.declare))
        [] := by
  suffices h : ∀ made : Entries (List Declaration),
      parts.foldl (fun made part ↦ addTo made part.selector (ctx.declarations part.styles false))
        made =
      (gathered ctx parts).foldl (fun made entry ↦ addTo made entry.1 (entry.2.map ctx.declare))
        made from h []
  induction parts with
  | nil => exact fun made ↦ rfl
  | cons part rest ih =>
    intro made
    rw [List.foldl_cons, ih, gathered_cons, List.foldl_append]
    congr 1
    by_cases hempty : ctx.written part.styles false = []
    · rw [gathered_of_written_eq_nil hempty, StyleContext.declarations, hempty]
      rfl
    · simp [gathered, hempty, StyleContext.declarations]

/-- What parts say decides everything that is read of them, as long as nothing is read of a part
that says nothing. -/
theorem flatMap_eq_flatMap_gathered {α : Type} (ctx : StyleContext) (parts : List FeaturePart)
    (read : String → List Written → List α) (hread : ∀ selector, read selector [] = []) :
    (parts.flatMap fun part ↦ read part.selector (ctx.written part.styles false)) =
      (gathered ctx parts).flatMap fun entry ↦ read entry.1 entry.2 := by
  induction parts with
  | nil => rfl
  | cons part rest ih =>
    rw [gathered_cons, List.flatMap_append, ← ih, List.flatMap_cons]
    congr 1
    by_cases hempty : ctx.written part.styles false = []
    · rw [gathered_of_written_eq_nil hempty, hempty, hread]
      rfl
    · simp [gathered, hempty]

/-- Reports are made of what parts say. -/
theorem diagnostics_eq_flatMap_gathered (ctx : StyleContext) (parts : List FeaturePart) :
    diagnostics ctx parts = (gathered ctx parts).flatMap
      fun entry ↦ entry.2.flatMap fun said ↦ ctx.reports said.text := by
  rw [← flatMap_eq_flatMap_gathered ctx parts
    (fun _ said ↦ said.flatMap fun entry ↦ ctx.reports entry.text) fun _ ↦ rfl]
  rfl

section Alike

variable {ctx other : StyleContext} (hctx : ctx.Matches other)
include hctx

/-- The groups of parts depend on what they say, by selector. -/
theorem groups_congr {a b : List FeaturePart} (h : gathered ctx a = gathered other b) :
    groups ctx a = groups other b := by
  rw [groups_eq_foldl_gathered, groups_eq_foldl_gathered, h, hctx.declare_eq]

theorem diagnostics_congr {a b : List FeaturePart} (h : gathered ctx a = gathered other b) :
    diagnostics ctx a = diagnostics other b := by
  rw [diagnostics_eq_flatMap_gathered, diagnostics_eq_flatMap_gathered, h, hctx.reports_eq]

/-- One rule for each part, under a selector made of the part's. -/
theorem flatMap_make_congr {a b : List FeaturePart} (h : gathered ctx a = gathered other b)
    (shape : RuleShape) (name : String → String) :
    (a.flatMap fun part ↦
        Rule.make shape (name part.selector) (ctx.declarations part.styles false)) =
      b.flatMap fun part ↦
        Rule.make shape (name part.selector) (other.declarations part.styles false) := by
  have hrules (ctx : StyleContext) (parts : List FeaturePart) :
      (parts.flatMap fun part ↦
        Rule.make shape (name part.selector) (ctx.declarations part.styles false)) =
      (gathered ctx parts).flatMap fun entry ↦
        Rule.make shape (name entry.1) (entry.2.map ctx.declare) := by
    rw [← flatMap_eq_flatMap_gathered ctx parts
      (fun selector said ↦ Rule.make shape (name selector) (said.map ctx.declare))
      fun _ ↦ rfl]
    rfl
  rw [hrules, hrules, h, hctx.declare_eq]

theorem gathered_congr {v w : Json} (h : v.Agree w) (selector : String) :
    gathered ctx [⟨selector, v⟩] = gathered other [⟨selector, w⟩] := by
  simp only [gathered, List.map_cons, List.map_nil, hctx.written_eq h]

end Alike

/-! ### Taking features out of styles that agree -/

/-- The same was taken out of two subtrees, as far as it says something, and what is left agrees. -/
structure Alike (ctx other : StyleContext) (parts : List FeaturePart) (left : Fields)
    (parts' : List FeaturePart) (left' : Fields) : Prop where
  gathered : gathered ctx parts = gathered other parts'
  left : (obj left).Agree (obj left')

/-- A part whose only member is `null` says nothing. -/
theorem written_ofFeature_null (ctx : StyleContext) (selector feature key : String) :
    ctx.written (ofFeature selector feature (obj [(key, null)])).styles false = [] := by
  refine ctx.written_eq_nil (fun category ↦ ?_) fun category inner ↦ ?_
  all_goals
    rw [ofFeature, child_singleton]
    split
  · exact .inr rfl
  · exact .inl rfl
  · rw [child_singleton, ite_self]
  · rfl

/-- A named part is taken out, and whether there was a `null` or nothing does not show. -/
theorem gathered_takeNamed_cons (ctx : StyleContext) (feature : String) {key : String}
    (hroot : key ≠ "root") (selector : String) (rest : Entries String) (members : Fields) :
    gathered ctx (takeNamed feature ((key, selector) :: rest) members).1 =
      gathered ctx [ofFeature selector feature (obj [(key, (obj members).child key)])] ++
        gathered ctx (takeNamed feature rest (Entries.swapRemove members key)).1 := by
  rw [takeNamed, if_neg hroot]
  rcases hget : Entries.get? members key with _ | value
  · rw [child_of_get?_eq_none hget,
      gathered_of_written_eq_nil (written_ofFeature_null ctx selector feature key),
      Entries.swapRemove_of_get?_eq_none hget]
    rfl
  · rw [child_of_get? hget]
    exact gathered_cons ctx _ _

/-- A selector for a named member takes the member out. -/
theorem takeNamed_cons_snd (feature : String) {key : String} (hroot : key ≠ "root")
    (selector : String) (rest : Entries String) (members : Fields) :
    (takeNamed feature ((key, selector) :: rest) members).2 =
      (takeNamed feature rest (Entries.swapRemove members key)).2 := by
  rw [takeNamed, if_neg hroot]
  rcases hget : Entries.get? members key with _ | value
  · rw [Entries.swapRemove_of_get?_eq_none hget]
  · rfl

/-- A feature that is no object stays where it is. -/
theorem takeFeature_of_not_isObject {styles : Fields} {feature : String}
    (h : ((obj styles).child feature).isObject = false) (selector : FeatureSelector) :
    takeFeature styles feature selector = ([], styles) := by
  rw [takeFeature]
  split <;> rename_i hget
  · rw [child_obj, hget] at h
    cases h
  · rfl

section Alike

variable {ctx other : StyleContext} (hctx : ctx.Matches other)
include hctx

/-- Named members are taken alike from members that agree. -/
theorem alike_takeNamed (feature : String) (selectors : Entries String)
    {members members' : Fields} (h : (obj members).Agree (obj members'))
    (hwell : (obj members).WellFormed) (hwell' : (obj members').WellFormed) :
    Alike ctx other (takeNamed feature selectors members).1 (takeNamed feature selectors members).2
      (takeNamed feature selectors members').1 (takeNamed feature selectors members').2 := by
  induction selectors generalizing members members' with
  | nil => exact ⟨rfl, h⟩
  | cons entry rest ih =>
    obtain ⟨key, selector⟩ := entry
    by_cases hroot : key = "root"
    · simp only [takeNamed, if_pos hroot]
      exact ih h hwell hwell'
    · have hpart := gathered_congr hctx (((h.child key).singleton key).singleton feature) selector
      have hrest := ih (h.swapRemove hwell.1 hwell'.1 key) (wellFormed_obj_swapRemove hwell key)
        (wellFormed_obj_swapRemove hwell' key)
      refine ⟨?_, ?_⟩
      · rw [gathered_takeNamed_cons ctx feature hroot, gathered_takeNamed_cons other feature hroot,
          hrest.gathered]
        exact congrArg (· ++ _) hpart
      · rw [takeNamed_cons_snd feature hroot, takeNamed_cons_snd feature hroot]
        exact hrest.left

/-- A feature takes alike from members that agree. -/
theorem alike_takeMembers (feature : String) (selector : FeatureSelector)
    {members members' : Fields} (h : (obj members).Agree (obj members'))
    (hwell : (obj members).WellFormed) (hwell' : (obj members').WellFormed) :
    Alike ctx other (takeMembers feature members selector).1
        (takeMembers feature members selector).2.1 (takeMembers feature members' selector).1
        (takeMembers feature members' selector).2.1 ∧
      (takeMembers feature members selector).2.2 = (takeMembers feature members' selector).2.2 := by
  cases selector with
  | whole selector => exact ⟨⟨rfl, h⟩, rfl⟩
  | split selectors => exact ⟨alike_takeNamed hctx feature selectors h hwell hwell', rfl⟩

theorem alike_takeFeature {styles styles' : Fields} (h : (obj styles).Agree (obj styles'))
    (hwell : (obj styles).WellFormed) (hwell' : (obj styles').WellFormed) (feature : String)
    (selector : FeatureSelector) :
    Alike ctx other (takeFeature styles feature selector).1 (takeFeature styles feature selector).2
      (takeFeature styles' feature selector).1 (takeFeature styles' feature selector).2 := by
  rcases (h.child feature).isObject_cases with
    ⟨hobject, hobject'⟩ | ⟨members, members', hmembers, hmembers'⟩
  · rw [takeFeature_of_not_isObject hobject selector,
      takeFeature_of_not_isObject hobject' selector]
    exact ⟨rfl, h⟩
  · have hchild : (obj members).Agree (obj members') := hmembers ▸ hmembers' ▸ h.child feature
    have hget := get?_of_child_eq_obj hmembers
    have hget' := get?_of_child_eq_obj hmembers'
    obtain ⟨halike, hrest⟩ := alike_takeMembers hctx feature selector hchild (hwell.2.of_get? hget)
      (hwell'.2.of_get? hget')
    simp only [takeFeature, hget, hget']
    split
    · exact ⟨rfl, h⟩
    · rcases htake : takeMembers feature members selector with ⟨parts, left, root⟩
      rcases htake' : takeMembers feature members' selector with ⟨parts', left', root'⟩
      rw [htake, htake'] at halike hrest
      cases hrest
      rcases root with - | selector
      · exact ⟨halike.gathered, h.put halike.left feature⟩
      · -- what the named parts leave is one part more
        refine ⟨?_, h.swapRemove hwell.1 hwell'.1 feature⟩
        rw [gathered_append, gathered_append, halike.gathered]
        exact congrArg (_ ++ ·) (gathered_congr hctx (halike.left.singleton feature) selector)

/-- **Features take alike from styles that agree.** -/
theorem alike_takeAll (features : Entries FeatureSelector) {styles styles' : Fields}
    (h : (obj styles).Agree (obj styles')) (hwell : (obj styles).WellFormed)
    (hwell' : (obj styles').WellFormed) :
    Alike ctx other (takeAll features styles).1 (takeAll features styles).2
      (takeAll features styles').1 (takeAll features styles').2 := by
  induction features generalizing styles styles' with
  | nil => exact ⟨rfl, h⟩
  | cons entry rest ih =>
    obtain ⟨feature, selector⟩ := entry
    have hfirst := alike_takeFeature hctx h hwell hwell' feature selector
    have hrest := ih hfirst.left (wellFormed_takeFeature hwell feature selector)
      (wellFormed_takeFeature hwell' feature selector)
    refine ⟨?_, hrest.left⟩
    simp only [takeAll, gathered_append]
    rw [hfirst.gathered, hrest.gathered]

/-- **Features take the same out of subtrees that agree**, and what is left agrees. -/
theorem take_alike (features : Entries FeatureSelector) {a b : Json} (h : a.Agree b)
    (ha : a.WellFormed) (hb : b.WellFormed) :
    gathered ctx (take features a).1 = gathered other (take features b).1 ∧
      (take features a).2.Agree (take features b).2 := by
  rcases h.isObject_cases with ⟨hobject, hobject'⟩ | ⟨fields, fields', rfl, rfl⟩
  · rw [take_of_not_isObject features hobject, take_of_not_isObject features hobject']
    exact ⟨rfl, h⟩
  · have halike := alike_takeAll hctx features h ha hb
    exact ⟨halike.gathered, halike.left⟩

end Alike

end GlobalStyles.FeaturePart
