import GlobalStyles.Proofs.Style.Written
import GlobalStyles.Style.Feature
import Mathlib.Data.List.Perm.Basic

/-!
# Dividing styles among selectors

`FeaturePart.take` takes a subtree apart in many small steps. Each step is of one kind, described by
`Json.Divided`: two parts stand for a whole, and every category is in one of the two, or it is an
object in both and every member of it is in one of the two. Declarations split cleanly along such a
cut (`StyleContext.perm_written_of_divided`), since every reading is settled by one category or by
one member of a category.

A background is not cut through. Its defaults look at one member and write another, so a part that
has the image without the size would be given a size that the whole does not have. A registry that
splits `background` is outside of what is shown here.
-/

namespace GlobalStyles

namespace Json

/-! ### Cuts -/

/-- A value stands in one of two parts, and nothing stands in its place in the other. -/
def InOne (whole part rest : Json) : Prop :=
  part = whole ∧ rest = null ∨ part = null ∧ rest = whole

/-- What stands in one of two values does so member by member. -/
theorem InOne.child {whole part rest : Json} (h : InOne whole part rest) (key : String) :
    InOne (whole.child key) (part.child key) (rest.child key) := by
  rcases h with ⟨rfl, rfl⟩ | ⟨rfl, rfl⟩
  · exact .inl ⟨rfl, rfl⟩
  · exact .inr ⟨rfl, rfl⟩

/-- What says nothing about nothing says of the two parts what it says of the whole. -/
theorem InOne.append_eq {α : Type} {whole part rest : Json} (h : InOne whole part rest)
    (read : Json → List α) (hnull : read null = []) : read part ++ read rest = read whole := by
  rcases h with ⟨rfl, rfl⟩ | ⟨rfl, rfl⟩
  · rw [hnull, List.append_nil]
  · rw [hnull, List.nil_append]

/-- Two parts of styles stand for a whole: every category is in one of them, or it is an object in
both and they share its members. The background is not shared. -/
def Divided (whole part rest : Json) : Prop :=
  ∀ category, InOne (whole.child category) (part.child category) (rest.child category) ∨
    category ≠ "background" ∧ (whole.child category).isObject ∧ (part.child category).isObject ∧
      (rest.child category).isObject ∧
      ∀ key, InOne ((whole.child category).child key) ((part.child category).child key)
        ((rest.child category).child key)

/-- In a division every member of a member stands on one side. -/
theorem Divided.member {whole part rest : Json} (h : Divided whole part rest)
    (category key : String) :
    InOne ((whole.child category).child key) ((part.child category).child key)
      ((rest.child category).child key) := by
  rcases h category with hone | ⟨-, -, -, -, hmember⟩
  · exact hone.child key
  · exact hmember key

/-- A background is never divided. -/
theorem Divided.background {whole part rest : Json} (h : Divided whole part rest) :
    InOne (whole.child "background") (part.child "background") (rest.child "background") := by
  rcases h "background" with hone | ⟨hne, -⟩
  · exact hone
  · exact absurd rfl hne

/-- Taking out a whole category is a cut. -/
theorem divided_category {styles : Fields} (h : (Entries.keys styles).Nodup) (category : String)
    (value : Json) :
    Divided (obj (Entries.put styles category value)) (obj [(category, value)])
      (obj (Entries.swapRemove styles category)) := by
  intro other
  left
  simp only [child_put, child_singleton, child_swapRemove h]
  by_cases hother : other = category
  · simp only [hother, if_true]
    exact .inl ⟨rfl, rfl⟩
  · simp only [hother, if_false]
    exact .inr ⟨rfl, rfl⟩

/-- One member is taken out of a category. Each member of each category is in one of the parts. -/
theorem inOne_member (styles : Fields) (category : String) {members : Fields}
    (h : (Entries.keys members).Nodup) {key : String} {value : Json}
    (hget : Entries.get? members key = some value) (other inner : String) :
    InOne (((obj (Entries.put styles category (obj members))).child other).child inner)
      (((obj [(category, obj [(key, value)])]).child other).child inner)
      (((obj (Entries.put styles category (obj (Entries.swapRemove members key)))).child
        other).child inner) := by
  rw [child_put, child_singleton, child_put]
  by_cases hother : other = category
  · simp only [hother, if_true]
    rw [child_singleton, child_swapRemove h]
    by_cases hinner : inner = key
    · simp only [hinner, if_true]
      exact .inl ⟨(child_of_get? hget).symm, rfl⟩
    · simp only [hinner, if_false]
      exact .inr ⟨rfl, rfl⟩
  · simp only [hother, if_false]
    exact .inr ⟨rfl, rfl⟩

/-- Taking one member out of a category that is no background is a cut. -/
theorem divided_member (styles : Fields) {category : String} (hne : category ≠ "background")
    {members : Fields} (h : (Entries.keys members).Nodup) {key : String} {value : Json}
    (hget : Entries.get? members key = some value) :
    Divided (obj (Entries.put styles category (obj members)))
      (obj [(category, obj [(key, value)])])
      (obj (Entries.put styles category (obj (Entries.swapRemove members key)))) := by
  intro other
  have hmember := inOne_member styles category h hget other
  simp only [child_put, child_singleton] at hmember ⊢
  by_cases hother : other = category
  · right
    simp only [hother, if_true] at hmember ⊢
    exact ⟨hne, rfl, rfl, rfl, hmember⟩
  · left
    simp only [hother, if_false]
    exact .inr ⟨rfl, rfl⟩

end Json

open Json

/-! ### Readings along a cut -/

namespace StyleContext

variable (ctx : StyleContext) {whole part rest : Json}

/-- A filter is said by the side that has it. -/
theorem append_eq_duotone (h : Divided whole part rest) :
    ctx.texts (StyleProperty.duotone.rules part ctx.space ctx.paddingAlign) ++
      ctx.texts (StyleProperty.duotone.rules rest ctx.space ctx.paddingAlign) =
      ctx.texts (StyleProperty.duotone.rules whole ctx.space ctx.paddingAlign) := by
  simp only [StyleProperty.rules_duotone]
  exact (h.member "filter" "duotone").append_eq
    (fun value ↦ ctx.texts (if value.isTruthy then [⟨"filter", value⟩] else [])) rfl

theorem append_eq_member (h : Divided whole part rest) {place : StylePlace}
    (hmem : place ∈ StylePlace.members) :
    ctx.texts (place.rules part) ++ ctx.texts (place.rules rest) =
      ctx.texts (place.rules whole) := by
  obtain ⟨category, key, path, hpath, -⟩ := StylePlace.exists_path_of_mem_members hmem
  rw [StylePlace.rules_of_path₂ hpath, StylePlace.rules_of_path₂ hpath,
    StylePlace.rules_of_path₂ hpath]
  exact (h.member category key).append_eq
    (fun value ↦ ctx.texts (StylePlace.rules ⟨path, place.form⟩ value))
    (congrArg ctx.texts (StylePlace.rules_null ⟨path, place.form⟩))

theorem append_eq_shadow (h : Divided whole part rest) :
    ctx.texts (StylePlace.shadow.rules part) ++ ctx.texts (StylePlace.shadow.rules rest) =
      ctx.texts (StylePlace.shadow.rules whole) := by
  rcases h "shadow" with hone | ⟨-, hwhole, hpart, hrest, hmember⟩
  · rw [StylePlace.rules_shadow, StylePlace.rules_shadow, StylePlace.rules_shadow]
    exact hone.append_eq
      (fun value ↦ ctx.texts (StylePlace.rules ⟨[], .single "box-shadow"⟩ value)) rfl
  · rw [ctx.texts_shadow hwhole, ctx.texts_shadow hpart, ctx.texts_shadow hrest]
    exact (hmember "ref").append_eq (fun value ↦
      ((value.text?.bind ctx.placeText?).map (Written.mk "box-shadow")).toList) rfl

theorem append_eq_background (h : Divided whole part rest) {place : StylePlace}
    (hmem : place ∈ StylePlace.background) :
    ctx.texts (place.rules (withBackgroundDefaults part false)) ++
      ctx.texts (place.rules (withBackgroundDefaults rest false)) =
      ctx.texts (place.rules (withBackgroundDefaults whole false)) := by
  obtain ⟨key, hpath⟩ := StylePlace.exists_key_of_mem_background hmem
  simp only [StylePlace.rules_of_path₂ hpath, child_withBackgroundDefaults, if_true]
  exact h.background.append_eq
    (fun value ↦ ctx.texts
      (StylePlace.rules ⟨[], place.form⟩ ((backgroundWithDefaults value).child key)))
    (congrArg ctx.texts (StylePlace.rules_null ⟨[], place.form⟩))

/-- Every reading says of the two parts what it says of the whole. -/
theorem append_eq_of_mem_readings (h : Divided whole part rest) {read : Json → List Written}
    (hread : read ∈ ctx.readings) : read part ++ read rest = read whole := by
  rw [readings, List.mem_append, List.mem_cons, List.mem_cons, List.mem_map, List.mem_map] at hread
  rcases hread with (rfl | ⟨place, hmem, rfl⟩) | rfl | ⟨place, hmem, rfl⟩
  · exact ctx.append_eq_duotone h
  · exact ctx.append_eq_member h hmem
  · exact ctx.append_eq_shadow h
  · exact ctx.append_eq_background h hmem

/-- **Declarations split along a cut.** -/
theorem perm_written_of_divided (h : Divided whole part rest) :
    (ctx.written part false ++ ctx.written rest false).Perm (ctx.written whole false) := by
  rw [written_eq, written_eq, written_eq]
  -- reading by reading the two parts stand side by side, and there they give the whole exactly
  refine (List.flatMap_append_perm ctx.readings (· part) (· rest)).trans (.of_eq ?_)
  exact List.flatMap_congr fun read hread ↦ ctx.append_eq_of_mem_readings h hread

end StyleContext

end GlobalStyles
