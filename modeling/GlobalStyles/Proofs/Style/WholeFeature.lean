import GlobalStyles.Proofs.Json.Modify
import GlobalStyles.Proofs.Style.Gathering
import GlobalStyles.Proofs.Style.Hollow
import GlobalStyles.Proofs.Style.Value

/-!
# Whole features

A feature with one selector goes there as a whole: nothing that is left speaks of it, and what it
declares stands together in the group of the selector. This holds of every form that the feature may
have but one (`FeaturePart.takes_whole_feature_iff`). A feature is only taken if it is an object,
and a shadow may be a text of its own; such a shadow stays where it is and is declared there.

Styles say nothing in a category if nothing is read of it (`Json.SaysNothing`). It does not matter
what stands there then (`StyleContext.written_eq_of_saysAlike`), so nothing left of a feature and
something that says nothing come to the same.
-/

namespace GlobalStyles

open Json

/-! ### Categories -/

/-- The categories that declarations are read from. -/
def StyleRule.categories : List String :=
  ["border", "color", "dimensions", "outline", "spacing", "typography", "shadow", "background",
    "filter"]

namespace Json

/-- Styles with one of their categories only. -/
def only (styles : Json) (category : String) : Json :=
  obj [(category, styles.child category)]

/-- Whether a category is a shadow with a text of its own. -/
def IsPlainShadow (styles : Json) (category : String) : Prop :=
  category = "shadow" ∧ (styles.child category).css?.isSome

/-- Whether nothing is read of a category: it has no members, and no text as a shadow. -/
def SaysNothing (styles : Json) (category : String) : Prop :=
  category ∈ StyleRule.categories →
    (styles.child category).isObject = false ∧ ¬styles.IsPlainShadow category

/-- Whether two subtrees are the same in each category of which something is read. -/
def SaysAlike (a b : Json) : Prop :=
  ∀ category, a.child category = b.child category ∨ a.SaysNothing category ∧ b.SaysNothing category

theorem IsPlainShadow.not_isObject {styles : Json} {category : String}
    (h : styles.IsPlainShadow category) : (styles.child category).isObject = false := by
  have hcss := h.2
  generalize styles.child category = shadow at hcss ⊢
  cases shadow <;> first | rfl | cases hcss

/-- Whether a member says nothing depends on the member alone. -/
theorem saysNothing_congr {a b : Json} {category : String}
    (h : a.child category = b.child category) :
    a.SaysNothing category ↔ b.SaysNothing category := by
  rw [SaysNothing, SaysNothing, IsPlainShadow, IsPlainShadow, h]

theorem saysNothing_of_child_eq_null {styles : Json} {category : String}
    (h : styles.child category = null) : styles.SaysNothing category := by
  rintro -
  rw [IsPlainShadow, h]
  exact ⟨rfl, fun hplain ↦ nomatch hplain.2⟩

namespace SaysAlike

/-- Without a member that says nothing, the styles say the same. -/
theorem erase {styles : Json} {category : String} (h : styles.SaysNothing category) :
    (styles.erase category).SaysAlike styles := by
  intro other
  have hchild := child_erase category other styles
  split at hchild <;> rename_i hother
  · exact .inr ⟨saysNothing_of_child_eq_null hchild, hother ▸ h⟩
  · exact .inl hchild

theorem only {styles : Json} {category : String} (h : styles.SaysNothing category) :
    (styles.only category).SaysAlike null := by
  intro other
  have hchild := child_singleton category other (styles.child category)
  split at hchild <;> rename_i hother
  · subst hother
    exact .inr ⟨(saysNothing_congr hchild).2 h, saysNothing_of_child_eq_null rfl⟩
  · exact .inl hchild

variable {a b : Json} (h : a.SaysAlike b)
include h

/-- Members of categories are the same. -/
theorem get?_eq {category : String} (hcategory : category ∈ StyleRule.categories) (key : String)
    (path : List String) : a.get? (category :: key :: path) = b.get? (category :: key :: path) := by
  rw [get?_cons a, get?_cons b]
  rcases h category with heq | ⟨ha, hb⟩
  · rw [heq]
  · rw [get?_cons, get?_cons, child_of_not_isObject (ha hcategory).1,
      child_of_not_isObject (hb hcategory).1]

/-- Styles that say alike do so with the defaults of a background. -/
theorem withBackgroundDefaults (isRoot : Bool) :
    (withBackgroundDefaults a isRoot).SaysAlike (withBackgroundDefaults b isRoot) := by
  cases isRoot
  case true => exact h
  case false =>
    rcases h "background" with heq | ⟨ha, hb⟩
    · intro category
      have hkeep (styles : Json) := child_withBackgroundDefaults styles category
      by_cases hcategory : category = "background"
      · left
        rw [hkeep, hkeep, if_pos hcategory, if_pos hcategory, heq]
      · simp only [if_neg hcategory] at hkeep
        rw [hkeep, hkeep, saysNothing_congr (hkeep a), saysNothing_congr (hkeep b)]
        exact h category
    · -- a background that says nothing has no image, and is not filled in
      have hkeep {styles : Json} (hnothing : styles.SaysNothing "background") :
          GlobalStyles.withBackgroundDefaults styles false = styles := by
        have himage : styles.get? ["background", "backgroundImage"] = none := by
          rw [get?_cons, get?_cons, child_of_not_isObject (hnothing (by decide)).1, get?_null]
        rw [GlobalStyles.withBackgroundDefaults, himage]
        rfl
      rw [hkeep ha, hkeep hb]
      exact h

end SaysAlike

end Json

/-- Every place but that of the shadow is a member of a category. -/
theorem StylePlace.exists_category {place : StylePlace} (h : place ∈ members ++ background) :
    ∃ category ∈ StyleRule.categories, ∃ key path, place.path = category :: key :: path := by
  have hall : ∀ place ∈ members ++ background,
      2 ≤ place.path.length ∧ place.path.headD "" ∈ StyleRule.categories := by
    decide
  obtain ⟨hlength, hhead⟩ := hall place h
  rcases hpath : place.path with _ | ⟨category, _ | ⟨key, path⟩⟩
  · simp [hpath] at hlength
  · simp [hpath] at hlength
  · rw [hpath] at hhead
    exact ⟨category, hhead, key, path, rfl⟩

/-- What is read straight from the table of properties is a member of a category. -/
theorem StyleProperty.exists_category {property : StyleProperty} {isRoot : Bool}
    (h : property ∈ StyleProperty.all.filter (·.isDirect isRoot)) :
    ∃ category ∈ StyleRule.categories, ∃ key path, property.path = category :: key :: path := by
  cases isRoot
  · rw [filter_isDirect_false, List.mem_singleton] at h
    exact ⟨"filter", by decide, "duotone", [], h ▸ rfl⟩
  · rw [filter_isDirect_true, List.mem_cons, List.mem_singleton] at h
    rcases h with rfl | rfl
    · exact ⟨"filter", by decide, "duotone", [], rfl⟩
    · exact ⟨"spacing", by decide, "padding", [], rfl⟩

namespace StyleContext

variable (ctx : StyleContext)

/-- A shadow that says nothing has no text. -/
theorem texts_filter_shadow_eq_nil {styles : Json} (h : styles.SaysNothing "shadow")
    (p : StyleRule → Bool) : ctx.texts ((StylePlace.shadow.rules styles).filter p) = [] := by
  obtain ⟨hobject, hplain⟩ := h (by decide)
  have htext : ctx.text? (styles.child "shadow") = none := by
    rw [ctx.text?_of_not_isObject hobject]
    exact Option.not_isSome_iff_eq_none.1 fun hsome ↦ hplain ⟨rfl, hsome⟩
  refine List.filterMap_eq_nil_iff.2 fun rule hmem ↦ ?_
  rw [StylePlace.shadow, StylePlace.rules_single, StyleRule.at?] at hmem
  obtain ⟨value, hvalue, rfl⟩ :=
    Option.map_eq_some_iff.1 (Option.mem_toList.1 (List.mem_filter.1 hmem).1)
  rw [get?_eq_down] at hvalue
  split at hvalue
  · cases hvalue
  · rw [← Option.some.inj hvalue, down_cons, down_nil, htext]
    rfl

/-- **What says nothing may be anything.** -/
theorem written_eq_of_saysAlike {a b : Json} (h : a.SaysAlike b) (isRoot : Bool) :
    ctx.written a isRoot = ctx.written b isRoot := by
  have hdefaults := h.withBackgroundDefaults isRoot
  have hdirect : (StyleProperty.all.filter (·.isDirect isRoot)).flatMap
        (·.rules a ctx.space ctx.paddingAlign) =
      (StyleProperty.all.filter (·.isDirect isRoot)).flatMap
        (·.rules b ctx.space ctx.paddingAlign) := by
    refine List.flatMap_congr fun property hmem ↦ ?_
    obtain ⟨category, hcategory, key, path, hpath⟩ := StyleProperty.exists_category hmem
    rw [StyleProperty.rules, StyleProperty.rules, hpath, h.get?_eq hcategory]
  have hplace (p : StyleRule → Bool) {place : StylePlace} (hmem : place ∈ StylePlace.all) :
      ctx.texts ((place.rules (withBackgroundDefaults a isRoot)).filter p) =
        ctx.texts ((place.rules (withBackgroundDefaults b isRoot)).filter p) := by
    by_cases hother : place ∈ StylePlace.members ++ StylePlace.background
    · obtain ⟨category, hcategory, key, path, hpath⟩ := StylePlace.exists_category hother
      rw [StylePlace.rules, StylePlace.rules, hpath, hdefaults.get?_eq hcategory]
    · obtain rfl : place = StylePlace.shadow := by
        rw [StylePlace.all, List.mem_append, List.mem_cons] at hmem
        rw [List.mem_append] at hother
        tauto
      rcases hdefaults "shadow" with heq | ⟨ha, hb⟩
      · rw [StylePlace.rules_shadow, StylePlace.rules_shadow, heq]
      · rw [ctx.texts_filter_shadow_eq_nil ha, ctx.texts_filter_shadow_eq_nil hb]
  show ctx.texts (ctx.rules a isRoot) = ctx.texts (ctx.rules b isRoot)
  rw [rules, rules, hdirect, texts_append, texts_append, StyleRule.extract_eq,
    StyleRule.extract_eq, List.filter_flatMap, List.filter_flatMap]
  congr 1
  rw [texts_flatMap, texts_flatMap]
  exact List.flatMap_congr fun place hmem ↦ hplace _ hmem

variable {styles : Json} {category : String}

/-- The declarations stay when a member goes that says nothing. -/
theorem declarations_erase (h : styles.SaysNothing category) (isRoot : Bool) :
    ctx.declarations (styles.erase category) isRoot = ctx.declarations styles isRoot := by
  rw [declarations, declarations, ctx.written_eq_of_saysAlike (.erase h)]

theorem declarations_only_eq_nil (h : styles.SaysNothing category) (isRoot : Bool) :
    ctx.declarations (styles.only category) isRoot = [] := by
  have hnull : withBackgroundDefaults null isRoot = null := by cases isRoot <;> rfl
  rw [declarations, ctx.written_eq_of_saysAlike (.only h),
    ctx.written_eq_nil_of_isHollow (by rfl) hnull, List.map_nil]

/-- There is a shadow exactly where it has a text. -/
theorem mem_map_property_shadow_iff (styles : Json) :
    "box-shadow" ∈ (ctx.declarations styles false).map Declaration.property ↔
      (ctx.text? (styles.child "shadow")).isSome := by
  have htable : ("box-shadow", ["shadow"]) ∈ StyleRule.table := by decide
  have hfilter := filter_property_declarations_below htable (by decide) ctx styles
  rw [bind_text?_get?, down_cons, down_nil, child_withBackgroundDefaults,
    if_neg (by decide)] at hfilter
  have hmem : "box-shadow" ∈ (ctx.declarations styles false).map Declaration.property ↔
      (ctx.declarations styles false).filter (·.property = "box-shadow") ≠ [] := by
    rw [ne_eq, List.filter_eq_nil_iff, List.mem_map]
    simp
  rw [hmem, hfilter]
  rcases ctx.text? (styles.child "shadow") with _ | text <;> simp

/-- On its own, a plain shadow is declared. -/
theorem mem_map_property_only (h : styles.IsPlainShadow category) :
    "box-shadow" ∈ (ctx.declarations (styles.only category) false).map Declaration.property := by
  have hobject := h.not_isObject
  obtain ⟨rfl, hcss⟩ := h
  rw [mem_map_property_shadow_iff, Json.only, child_singleton, if_pos rfl,
    ctx.text?_of_not_isObject hobject]
  exact hcss

end StyleContext

/-! ### Taking -/

namespace FeaturePart

theorem exists_of_mem_takeNamed {feature : String} {selectors : Entries String} {members : Fields}
    {part : FeaturePart} (h : part ∈ (takeNamed feature selectors members).1) :
    ∃ value, part.styles = obj [(feature, value)] := by
  induction selectors generalizing members with
  | nil => cases h
  | cons entry rest ih =>
    rw [takeNamed] at h
    split at h
    · exact ih h
    · split at h
      · exact ih h
      · rcases List.mem_cons.1 h with rfl | hrest
        · exact ⟨_, rfl⟩
        · exact ih hrest

/-- What is taken of a feature is of that feature. -/
theorem exists_of_mem_takeFeature {styles : Fields} {feature : String} {selector : FeatureSelector}
    {part : FeaturePart} (h : part ∈ (takeFeature styles feature selector).1) :
    ∃ value, part.styles = obj [(feature, value)] := by
  rw [takeFeature] at h
  split at h
  · rename_i members hget
    have hnamed : ∀ part ∈ (takeMembers feature members selector).1,
        ∃ value, part.styles = obj [(feature, value)] := by
      intro part hmem
      cases selector with
      | whole selector => cases hmem
      | split selectors => exact exists_of_mem_takeNamed hmem
    split at h
    · cases h
    · split at h <;> rename_i heq <;> rw [heq] at hnamed
      · rcases List.mem_append.1 h with hmem | hmem
        · exact hnamed part hmem
        · obtain rfl := List.mem_singleton.1 hmem
          exact ⟨_, rfl⟩
      · exact hnamed part h
  · cases h

/-- A feature that is not asked for, or is no object, stays. -/
theorem takeFeature_leaves {styles : Fields} (h : (obj styles).WellFormed) {feature other : String}
    (hleft : other = feature → ((obj styles).child feature).isObject = false)
    (selector : FeatureSelector) :
    (obj (takeFeature styles other selector).2).child feature = (obj styles).child feature ∧
      ∀ part ∈ (takeFeature styles other selector).1, part.styles.child feature = null := by
  by_cases hother : other = feature
  · subst hother
    rw [takeFeature_of_not_isObject (hleft rfl)]
    exact ⟨rfl, fun _ hpart ↦ nomatch hpart⟩
  · constructor
    · rw [takeFeature]
      split
      · split
        · rfl
        · split
          · rw [child_swapRemove h.1, if_neg (Ne.symm hother)]
          · rw [child_put, if_neg (Ne.symm hother)]
      · rfl
    · intro part hpart
      obtain ⟨value, hvalue⟩ := exists_of_mem_takeFeature hpart
      rw [hvalue, child_singleton, if_neg (Ne.symm hother)]

/-- **Features leave a member that is no object**, and it is in none of the parts. -/
theorem takeAll_leaves {features : Entries FeatureSelector} {styles : Fields}
    (h : (obj styles).WellFormed) {feature : String}
    (hleft : feature ∈ Entries.keys features → ((obj styles).child feature).isObject = false) :
    (obj (takeAll features styles).2).child feature = (obj styles).child feature ∧
      ∀ part ∈ (takeAll features styles).1, part.styles.child feature = null := by
  induction features generalizing styles with
  | nil => exact ⟨rfl, fun _ hpart ↦ nomatch hpart⟩
  | cons entry rest ih =>
    obtain ⟨hfirst, hparts⟩ := takeFeature_leaves h
      (fun heq ↦ hleft (List.mem_cons.2 (.inl heq.symm))) entry.2
    obtain ⟨hrest, hmore⟩ := ih (wellFormed_takeFeature h entry.1 entry.2)
      (fun hmem ↦ hfirst ▸ hleft (List.mem_cons_of_mem _ hmem))
    exact ⟨hrest.trans hfirst, fun part hpart ↦
      (List.mem_append.1 hpart).elim (hparts part) (hmore part)⟩

/-- An object with one selector is taken as it is. -/
theorem takeFeature_whole {styles : Fields} {feature : String} (hroot : feature ≠ "root")
    (hobject : ((obj styles).child feature).isObject) (selector : String) :
    takeFeature styles feature (.whole selector) =
      ([ofFeature selector feature ((obj styles).child feature)],
        Entries.swapRemove styles feature) := by
  obtain ⟨members, hmembers⟩ := exists_obj hobject
  rw [takeFeature, get?_of_child_eq_obj hmembers, hmembers]
  exact if_neg hroot

/-- Of such an object nothing is left, and it is one of the parts. -/
theorem takeAll_takes {features : Entries FeatureSelector} (hkeys : (Entries.keys features).Nodup)
    {feature selector : String} (hmem : (feature, .whole selector) ∈ features)
    (hroot : feature ≠ "root") {styles : Fields} (h : (obj styles).WellFormed)
    (hobject : ((obj styles).child feature).isObject) :
    (obj (takeAll features styles).2).child feature = null ∧
      ofFeature selector feature ((obj styles).child feature) ∈ (takeAll features styles).1 := by
  induction features generalizing styles with
  | nil => cases hmem
  | cons entry rest ih =>
    obtain ⟨hnew, hrest⟩ := List.nodup_cons.1 hkeys
    have hwell := wellFormed_takeFeature h entry.1 entry.2
    rcases List.mem_cons.1 hmem with rfl | hmem
    · -- the rest does not ask for it again
      obtain ⟨hleft, -⟩ := takeAll_leaves hwell fun hagain ↦ absurd hagain hnew
      refine ⟨hleft.trans ?_, ?_⟩
      · rw [takeFeature_whole hroot hobject, child_swapRemove h.1, if_pos rfl]
      · rw [takeAll, takeFeature_whole hroot hobject]
        exact List.mem_cons_self
    · have hne : entry.1 ≠ feature := fun heq ↦
        hnew (heq ▸ List.mem_map_of_mem (f := Prod.fst) hmem)
      obtain ⟨hsame, -⟩ := takeFeature_leaves h (fun heq ↦ absurd heq hne) entry.2
      obtain ⟨hnull, hpart⟩ := ih hrest hmem hwell (by rwa [hsame])
      rw [hsame] at hpart
      exact ⟨hnull, List.mem_append_right _ hpart⟩

/-! ### Groups -/

/-- What a part declares stands together in the group of its selector. -/
theorem declarations_grouped (ctx : StyleContext) {parts : List FeaturePart}
    {part : FeaturePart} (h : part ∈ parts) :
    ctx.declarations part.styles false <:+:
      (Entries.get? (groups ctx parts) part.selector).getD [] := by
  rw [groups_eq_gather, Entries.get?_gather, List.flatMap_def]
  refine List.infix_of_mem_flatten (List.mem_map.2
    ⟨(part.selector, ctx.declarations part.styles false), List.mem_filter.2 ⟨?_, ?_⟩, rfl⟩)
  · exact List.mem_map_of_mem h
  · exact decide_eq_true rfl

theorem exists_part_of_mem_getD {ctx : StyleContext} {parts : List FeaturePart}
    {selector : String} {declaration : Declaration}
    (h : declaration ∈ (Entries.get? (groups ctx parts) selector).getD []) :
    ∃ part ∈ parts, declaration ∈ ctx.declarations part.styles false := by
  rcases hget : Entries.get? (groups ctx parts) selector with _ | group <;> rw [hget] at h
  · cases h
  · exact (of_mem_groups (Entries.mem_of_get? hget)).2 declaration h

/-! ### Whole features -/

section

variable {styles : Json} (h : styles.WellFormed) {feature : String}
include h

theorem take_leaves (hobject : (styles.child feature).isObject = false)
    (features : Entries FeatureSelector) :
    (take features styles).2.child feature = styles.child feature ∧
      ∀ part ∈ (take features styles).1, part.styles.child feature = null := by
  cases hstyles : styles.isObject
  · rw [take_of_not_isObject features hstyles]
    exact ⟨rfl, fun _ hpart ↦ nomatch hpart⟩
  · obtain ⟨fields, rfl⟩ := exists_obj hstyles
    exact takeAll_leaves h fun _ ↦ hobject

variable {features : Entries FeatureSelector} (hkeys : (Entries.keys features).Nodup)
  {selector : String} (hmem : (feature, .whole selector) ∈ features)
include hkeys hmem

/-- **A feature takes a member that is an object** as a whole. -/
theorem take_takes (hroot : feature ≠ "root") (hobject : (styles.child feature).isObject) :
    (take features styles).2.child feature = null ∧
      ofFeature selector feature (styles.child feature) ∈ (take features styles).1 := by
  cases hstyles : styles.isObject
  · rw [child_of_not_isObject hstyles] at hobject
    cases hobject
  · obtain ⟨fields, rfl⟩ := exists_obj hstyles
    exact takeAll_takes hkeys hmem hroot h hobject

/-- A feature that is no plain shadow is gone from what is left, and gathered under its selector. -/
theorem saysNothing_take_and_grouped (ctx : StyleContext) (hplain : ¬styles.IsPlainShadow feature) :
    (take features styles).2.SaysNothing feature ∧
      ctx.declarations (styles.only feature) false <:+:
        (Entries.get? (groups ctx (take features styles).1) selector).getD [] := by
  by_cases htaken : feature ∈ StyleRule.categories ∧ (styles.child feature).isObject
  · obtain ⟨hcategory, hobject⟩ := htaken
    have hroot : feature ≠ "root" := by
      rintro rfl
      exact absurd hcategory (by decide)
    obtain ⟨hnull, hpart⟩ := take_takes h hkeys hmem hroot hobject
    have hgrouped := declarations_grouped ctx hpart
    exact ⟨saysNothing_of_child_eq_null hnull, hgrouped⟩
  · -- there is nothing to take
    have hnothing : styles.SaysNothing feature := fun hcategory ↦
      ⟨by simpa [hcategory] using htaken, hplain⟩
    refine ⟨fun hcategory ↦ ?_, ?_⟩
    · have hsame := (take_leaves h (hnothing hcategory).1 features).1
      exact (saysNothing_congr hsame).2 hnothing hcategory
    · rw [ctx.declarations_only_eq_nil hnothing]
      exact List.nil_infix

/-- **One selector takes the whole feature, unless the feature is a shadow with a text of its own.**
Exactly then is there nothing of the feature in what is left, at the root or elsewhere, and exactly
then does all that the feature declares stand in the group of the selector. -/
theorem takes_whole_feature_iff (ctx : StyleContext) :
    ((∀ isRoot, ctx.declarations ((take features styles).2.only feature) isRoot = [] ∧
        ctx.declarations ((take features styles).2.erase feature) isRoot =
          ctx.declarations (take features styles).2 isRoot) ↔ ¬styles.IsPlainShadow feature) ∧
      (ctx.declarations (styles.only feature) false <:+:
          (Entries.get? (groups ctx (take features styles).1) selector).getD [] ↔
        ¬styles.IsPlainShadow feature) := by
  have htaken := saysNothing_take_and_grouped h hkeys hmem ctx
  refine ⟨⟨fun hgone hplain ↦ ?_, fun hplain isRoot ↦ ?_⟩, fun hgrouped hplain ↦ ?_,
    fun hplain ↦ (htaken hplain).2⟩
  · -- the shadow is where it was
    have hsame := (take_leaves h hplain.not_isObject features).1
    have hleft : (take features styles).2.IsPlainShadow feature := ⟨hplain.1, hsame ▸ hplain.2⟩
    have hdeclared := ctx.mem_map_property_only hleft
    rw [(hgone false).1] at hdeclared
    cases hdeclared
  · exact ⟨ctx.declarations_only_eq_nil (htaken hplain).1 isRoot,
      ctx.declarations_erase (htaken hplain).1 isRoot⟩
  · -- no other part declares a shadow
    obtain ⟨declaration, hdeclared, hproperty⟩ := List.mem_map.1 (ctx.mem_map_property_only hplain)
    obtain ⟨part, hpart, hsaid⟩ := exists_part_of_mem_getD (hgrouped.subset hdeclared)
    have hnull := (take_leaves h hplain.not_isObject features).2 part hpart
    have hshadow := (ctx.mem_map_property_shadow_iff part.styles).1
      (hproperty ▸ List.mem_map_of_mem hsaid)
    rw [← hplain.1, hnull] at hshadow
    cases hshadow

end

/-- The colour and the typography of a card go to its links. -/
def linkFeatures : Entries FeatureSelector :=
  [("color", .whole ".card a"), ("border", .split [("color", ".card")]),
    ("typography", .whole ".card a")]

/-- The line height of a card stands behind the colour, and is not left to the card. -/
theorem takes_whole_feature_card :
    let ctx := StyleContext.standalone "app"
    let taken := take linkFeatures cardStyles
    cardStyles.WellFormed ∧ (Entries.keys linkFeatures).Nodup ∧
      ("typography", .whole ".card a") ∈ linkFeatures ∧
      ctx.declarations (taken.2.only "typography") false = [] ∧
      ctx.declarations (cardStyles.only "typography") false = [⟨"line-height", "1.5"⟩] ∧
      Entries.get? (groups ctx taken.1) ".card a" =
        some [⟨"color", "navy"⟩, ⟨"line-height", "1.5"⟩] ∧
      ctx.declarations (cardStyles.only "typography") false <:+:
        (Entries.get? (groups ctx taken.1) ".card a").getD [] := by
  intro ctx taken
  have hwell : cardStyles.WellFormed := by
    simp [cardStyles, Json.WellFormed, Json.FieldsWellFormed]
  have hkeys : (Entries.keys linkFeatures).Nodup := by decide
  have hmem : ("typography", .whole ".card a") ∈ linkFeatures := by simp [linkFeatures]
  have hplain : ¬cardStyles.IsPlainShadow "typography" := fun h ↦ absurd h.1 (by decide)
  obtain ⟨hgone, hgrouped⟩ := takes_whole_feature_iff hwell hkeys hmem ctx
  exact ⟨hwell, hkeys, hmem, (hgone.2 hplain false).1, by rfl, by rfl, hgrouped.2 hplain⟩

/-- A plain shadow is left, and its selector has no group. -/
theorem take_leaves_plain_shadow :
    let styles : Json := .obj [("shadow", .str "1px 1px red")]
    let ctx := StyleContext.standalone "app"
    ctx.declarations (styles.only "shadow") false = [⟨"box-shadow", "1px 1px red"⟩] ∧
      groups ctx (take [("shadow", .whole ".img")] styles).1 = [] ∧
      ctx.declarations (take [("shadow", .whole ".img")] styles).2 false =
        [⟨"box-shadow", "1px 1px red"⟩] :=
  ⟨by rfl, by rfl, by rfl⟩

end FeaturePart

end GlobalStyles
