import GlobalStyles.Proofs.Json.Inherited
import GlobalStyles.Proofs.Style.Place
import GlobalStyles.Style.Feature

/-!
# Styles with an inherited property

What is extracted from styles is made of parts of them, and so are the subtrees that features take:
where the styles have a property that objects share with their entries, every extracted value has it
(`StylePlace.inherited_rules`, `StyleProperty.inherited_rules`), every part does, and so does what
features leave (`FeaturePart.inherited_take`). The one text that extraction makes of its own is the
form of a background's address.
-/

namespace GlobalStyles

open Json

variable {P : Json → Prop} {E : String → Json → Prop} (hP : Inherited P E)
include hP

/-! ### Extraction -/

/-- What is read at a place has the property. -/
theorem StyleRule.inherited_at? {styles : Json} (h : P styles) (path : List String)
    (property : String) : ∀ rule ∈ at? styles path property, P rule.value := by
  rw [at?]
  rcases hget : styles.get? path with _ | value
  · exact List.forall_mem_nil _
  · exact List.forall_mem_singleton.2 (hP.of_get? h hget)

section

variable (haddress : ∀ url, P (.str url) → P (.str ("url( '" ++ url ++ "' )")))
include haddress

theorem StyleForm.inherited_rules {value : Json} (h : P value) (form : StyleForm) :
    ∀ rule ∈ form.rules value, P rule.value := by
  cases form with
  | single property => exact List.forall_mem_singleton.2 h
  | sided property sides =>
    rw [rules]
    split
    · intro rule hmem
      obtain ⟨side, -, hmem⟩ := List.mem_flatMap.1 hmem
      exact StyleRule.inherited_at? hP h [side.1] side.2 rule hmem
    · exact List.forall_mem_singleton.2 h
  | image =>
    rw [rules]
    split <;> rename_i hurl
    · obtain ⟨address, hget, htext⟩ := Option.bind_eq_some_iff.1 hurl
      have hvalue := hP.of_get? h hget
      cases address <;> cases htext
      exact List.forall_mem_singleton.2 (haddress _ hvalue)
    · split
      · exact List.forall_mem_singleton.2 h
      · exact List.forall_mem_nil _

/-- What is read at a place of the inventory has the property. -/
theorem StylePlace.inherited_rules {styles : Json} (h : P styles) (place : StylePlace) :
    ∀ rule ∈ place.rules styles, P rule.value := by
  rw [rules]
  rcases hget : styles.get? place.path with _ | value
  · exact List.forall_mem_nil _
  · exact place.form.inherited_rules hP haddress (hP.of_get? h hget)

end

theorem StyleProperty.inherited_rules {styles : Json} (h : P styles) (property : StyleProperty)
    (space : String) (paddingAlign : Bool) :
    ∀ rule ∈ property.rules styles space paddingAlign, P rule.value := by
  rw [rules]
  rcases hget : styles.get? property.path with _ | value
  · exact List.forall_mem_nil _
  · have hvalue := hP.of_get? h hget
    simp only
    split
    · exact List.forall_mem_nil _
    · split
      · intro rule hmem
        obtain ⟨side, -, hside⟩ := List.mem_filterMap.1 hmem
        obtain ⟨member, hmember, rfl⟩ := Option.map_eq_some_iff.1 hside
        exact hP.of_get? hvalue (Option.filter_eq_some_iff.1 hmember).1
      · split
        · exact List.forall_mem_singleton.2 hvalue
        · exact List.forall_mem_nil _

/-! ### Features -/

namespace FeaturePart

/-- A feature that was an object in the styles may hold any object with the property. -/
theorem inherited_ofFeature {feature : String} {members others : Fields}
    (hfeature : E feature (.obj members)) (h : P (.obj others)) (selector : String) :
    P (ofFeature selector feature (.obj others)).styles :=
  hP.singleton (hP.exchange hfeature h)

/-- Named members and what they leave have the property. -/
theorem inherited_takeNamed {feature : String} {all : Fields} (hfeature : E feature (.obj all))
    (selectors : Entries String) {members : Fields} (h : P (.obj members)) :
    (∀ part ∈ (takeNamed feature selectors members).1, P part.styles) ∧
      P (.obj (takeNamed feature selectors members).2) := by
  induction selectors generalizing members with
  | nil => exact ⟨List.forall_mem_nil _, h⟩
  | cons entry rest ih =>
    obtain ⟨key, selector⟩ := entry
    rw [takeNamed]
    split
    · exact ih h
    · split <;> rename_i hget
      · exact ih h
      · obtain ⟨hparts, hleft⟩ := ih (hP.swapRemove h key)
        have hone := hP.singleton (hP.of_member? h hget)
        exact ⟨List.forall_mem_cons.2 ⟨inherited_ofFeature hP hfeature hone selector, hparts⟩,
          hleft⟩

/-- What a feature takes of a category, and what it leaves. -/
theorem inherited_takeMembers {feature : String} {members : Fields}
    (hfeature : E feature (.obj members)) (selector : FeatureSelector) :
    (∀ part ∈ (takeMembers feature members selector).1, P part.styles) ∧
      P (.obj (takeMembers feature members selector).2.1) := by
  have hmembers := hP.value hfeature
  cases selector with
  | whole selector => exact ⟨List.forall_mem_nil _, hmembers⟩
  | split selectors => exact inherited_takeNamed hP hfeature selectors hmembers

/-- What a feature takes of the styles, and what it leaves. -/
theorem inherited_takeFeature {styles : Fields} (h : P (.obj styles)) (feature : String)
    (selector : FeatureSelector) :
    (∀ part ∈ (takeFeature styles feature selector).1, P part.styles) ∧
      P (.obj (takeFeature styles feature selector).2) := by
  rw [takeFeature]
  split <;> rename_i hget
  · rename_i members
    have hfeature : E feature (.obj members) := hP.of_member? h hget
    obtain ⟨hparts, hleft⟩ := inherited_takeMembers hP hfeature selector
    split
    · exact ⟨List.forall_mem_nil _, h⟩
    · split <;> rename_i htake
      · rw [htake] at hparts hleft
        refine ⟨List.forall_mem_append.2 ⟨hparts, List.forall_mem_singleton.2 ?_⟩,
          hP.swapRemove h feature⟩
        exact inherited_ofFeature hP hfeature hleft _
      · rw [htake] at hparts hleft
        exact ⟨hparts, hP.put h (hP.exchange hfeature hleft)⟩
  · exact ⟨List.forall_mem_nil _, h⟩

/-- What features take has the property, and so has what they leave. -/
theorem inherited_takeAll (features : Entries FeatureSelector) {styles : Fields}
    (h : P (.obj styles)) :
    (∀ part ∈ (takeAll features styles).1, P part.styles) ∧
      P (.obj (takeAll features styles).2) := by
  induction features generalizing styles with
  | nil => exact ⟨List.forall_mem_nil _, h⟩
  | cons entry rest ih =>
    obtain ⟨feature, selector⟩ := entry
    obtain ⟨hparts, hleft⟩ := inherited_takeFeature hP h feature selector
    obtain ⟨hmore, hrest⟩ := ih hleft
    exact ⟨List.forall_mem_append.2 ⟨hparts, hmore⟩, hrest⟩

/-- **What features take and what they leave has the property of the styles.** -/
theorem inherited_take (features : Entries FeatureSelector) {styles : Json} (h : P styles) :
    (∀ part ∈ (take features styles).1, P part.styles) ∧ P (take features styles).2 := by
  cases styles with
  | obj fields => exact inherited_takeAll hP features h
  | _ => exact ⟨List.forall_mem_nil _, h⟩

end FeaturePart

end GlobalStyles
