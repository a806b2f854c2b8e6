import GlobalStyles.Proofs.Style.Feature
import GlobalStyles.Proofs.Style.Properties

/-!
# The filter of a subtree

A subtree has one way to declare a filter: the value at `filter.duotone`
(`StyleContext.mem_map_property_written_iff`), since no other property has that name. Features move
members and neither lose nor make up one, so a filter is in a part or in what is left exactly when
it was there before (`FeaturePart.isSome_filter?_take_iff`). Unlike the declarations of a
background, this holds of every registry.
-/

namespace GlobalStyles

open Json

/-! ### The filter -/

namespace StyleContext

/-- The text of the filter that a subtree declares. -/
def filter? (ctx : StyleContext) (styles : Json) : Option String :=
  ((styles.get? ["filter", "duotone"]).filter isTruthy).bind ctx.text?

/-- A filter is a value that counts as true and has a text. -/
theorem isSome_filter?_iff (ctx : StyleContext) (styles : Json) :
    (ctx.filter? styles).isSome ↔ ((styles.child "filter").child "duotone").isTruthy ∧
      (ctx.text? ((styles.child "filter").child "duotone")).isSome := by
  rw [filter?, filter_isTruthy_get?, down_cons, down_cons, down_nil]
  split <;> simp [*]

/-- Read straight from the inventory, the filter is said exactly when there is one. -/
theorem mem_map_property_duotone_iff (ctx : StyleContext) (styles : Json) :
    "filter" ∈ (ctx.texts (StyleProperty.duotone.rules styles ctx.space ctx.paddingAlign)).map
      Written.property ↔ (ctx.filter? styles).isSome := by
  rw [StyleProperty.rules_duotone, isSome_filter?_iff]
  cases ((styles.child "filter").child "duotone").isTruthy
  · simp
  · rcases htext : ctx.text? ((styles.child "filter").child "duotone") with - | text <;>
      simp [texts, htext]

/-- **A subtree says a filter exactly when it has one.** Nothing else is declared under this
name. -/
theorem mem_map_property_written_iff (ctx : StyleContext) (styles : Json) (isRoot : Bool) :
    "filter" ∈ (ctx.written styles isRoot).map Written.property ↔
      (ctx.filter? styles).isSome := by
  have hothers : "filter" ∉ StyleProperty.rootPadding.names ctx.space ++
      StyleRule.table.map Prod.fst := by
    rw [StyleProperty.names_rootPadding]
    exact (List.nodup_cons.1 (nodup_properties ctx.space)).1
  rw [List.mem_append, not_or] at hothers
  have hextracted : "filter" ∉ (ctx.texts ((StyleRule.extract (withBackgroundDefaults styles
      isRoot)).filter fun rule ↦ !ctx.isLeftToLayout isRoot rule)).map Written.property :=
    fun hmem ↦ hothers.2 ((StyleRule.map_property_extract_sublist _).subset
      ((List.filter_sublist.map _).subset ((ctx.map_property_texts_sublist _).subset hmem)))
  have hpadding : "filter" ∉ (ctx.texts (StyleProperty.rootPadding.rules styles ctx.space
      ctx.paddingAlign)).map Written.property :=
    fun hmem ↦ hothers.1 ((StyleProperty.rootPadding.map_property_rules_sublist _ _ _).subset
      ((ctx.map_property_texts_sublist _).subset hmem))
  show "filter" ∈ (ctx.texts (ctx.rules styles isRoot)).map Written.property ↔ _
  rw [rules, texts_append, List.map_append, List.mem_append, or_iff_left hextracted,
    ← mem_map_property_duotone_iff]
  cases isRoot
  · rw [StyleProperty.filter_isDirect_false, List.flatMap_singleton]
  · rw [StyleProperty.filter_isDirect_true, List.flatMap_cons, List.flatMap_singleton,
      texts_append, List.map_append, List.mem_append, or_iff_left hpadding]

/-- Without the member there is no filter. -/
theorem filter?_of_notMem (ctx : StyleContext) {styles : Json}
    (h : "filter" ∉ Entries.keys styles.entries) : ctx.filter? styles = none := by
  have hnull : styles.child "filter" = null := by
    by_contra hne
    exact h (mem_keys_of_child_ne_null hne)
  rw [filter?, get?_cons, hnull, get?_null]
  rfl

end StyleContext

/-! ### Features -/

/-- A value that is not `null` stands on one side exactly when it stood in the whole. -/
theorem Json.InOne.eq_or_eq_iff {whole part rest value : Json} (h : InOne whole part rest)
    (hvalue : value ≠ null) : part = value ∨ rest = value ↔ whole = value := by
  rcases h with ⟨rfl, rfl⟩ | ⟨rfl, rfl⟩
  · exact or_iff_left hvalue.symm
  · exact or_iff_right hvalue.symm

namespace FeaturePart

theorem mem_map_property_written_iff (ctx : StyleContext) (parts : List FeaturePart) :
    "filter" ∈ (written ctx parts).map Written.property ↔
      ∃ part ∈ parts, (ctx.filter? part.styles).isSome := by
  rw [written, List.map_flatMap, List.mem_flatMap]
  simp only [StyleContext.mem_map_property_written_iff]

/-- Every value of a member stands in one of the parts or in what is left, and no other does. -/
def KeepsMembers (styles : Fields) (parts : List FeaturePart) (left : Fields) : Prop :=
  ∀ (category key : String) {value : Json}, value ≠ null →
    ((∃ part ∈ parts, (part.styles.child category).child key = value) ∨
        ((obj left).child category).child key = value ↔
      ((obj styles).child category).child key = value)

theorem cutByCut_keepsMembers : CutByCut (fun _ ↦ True) KeepsMembers where
  refl styles category key value _ := by simp
  trans {styles between left parts more} h hmore category key value hvalue := by
    rw [← h category key hvalue, ← hmore category key hvalue, ← or_assoc]
    simp only [List.mem_append, or_and_right, exists_or]
  category h selector feature value := by
    intro category key wanted hwanted
    rw [← ((divided_category h feature value).member category key).eq_or_eq_iff hwanted]
    simp [ofFeature]
  member styles feature _ members h key value hget selector := by
    intro category inner wanted hwanted
    rw [← (inOne_member styles feature h hget category inner).eq_or_eq_iff hwanted]
    simp [ofFeature]

/-- **Features keep every member.** -/
theorem child_child_take_iff (features : Entries FeatureSelector) {styles : Json}
    (h : styles.WellFormed) (category key : String) {value : Json} (hvalue : value ≠ null) :
    (∃ part ∈ (take features styles).1, (part.styles.child category).child key = value) ∨
        ((take features styles).2.child category).child key = value ↔
      (styles.child category).child key = value := by
  cases hobject : styles.isObject
  · rw [take_of_not_isObject features hobject]
    simp
  · obtain ⟨fields, rfl⟩ := exists_obj hobject
    exact cutByCut_keepsMembers.of_takeAll (fun _ _ _ ↦ trivial) h category key hvalue

/-- **Features neither lose nor make up a filter.** It is in one of the parts or in what is left
exactly when the styles have one. -/
theorem isSome_filter?_take_iff (ctx : StyleContext) (features : Entries FeatureSelector)
    {styles : Json} (h : styles.WellFormed) :
    (∃ part ∈ (take features styles).1, (ctx.filter? part.styles).isSome) ∨
        (ctx.filter? (take features styles).2).isSome ↔
      (ctx.filter? styles).isSome := by
  have htruthy {value : Json} (hvalue : value.isTruthy) : value ≠ null := by
    rintro rfl
    cases hvalue
  simp only [StyleContext.isSome_filter?_iff]
  constructor
  · rintro (⟨part, hmem, hvalue, htext⟩ | ⟨hvalue, htext⟩)
    · rw [(child_child_take_iff features h _ _ (htruthy hvalue)).1 (.inl ⟨part, hmem, rfl⟩)]
      exact ⟨hvalue, htext⟩
    · rw [(child_child_take_iff features h _ _ (htruthy hvalue)).1 (.inr rfl)]
      exact ⟨hvalue, htext⟩
  · rintro ⟨hvalue, htext⟩
    rcases (child_child_take_iff features h _ _ (htruthy hvalue)).2 rfl with
      ⟨part, hmem, heq⟩ | heq
    · exact .inl ⟨part, hmem, heq ▸ hvalue, heq ▸ htext⟩
    · exact .inr ⟨heq ▸ hvalue, heq ▸ htext⟩

end FeaturePart

end GlobalStyles
