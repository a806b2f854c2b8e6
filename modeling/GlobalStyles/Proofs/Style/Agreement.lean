import GlobalStyles.Proofs.Json.Agreement
import GlobalStyles.Proofs.Style.Written

/-!
# Styles that agree say the same

Everything that is read from a style subtree is read along paths, so subtrees that agree give rules
that agree one by one, and these have the same texts. The context may differ along with the styles,
as long as it gives the same settings and the same text at every place that a value can point at
(`StyleContext.Matches`).
-/

namespace GlobalStyles

/-! ### Rules -/

/-- Two rules for one property, with values that agree. -/
structure StyleRule.Agree (a b : StyleRule) : Prop where
  property : a.property = b.property
  value : a.value.Agree b.value

open StyleRule (Agree)

/-- A rule read at a place of subtrees that agree has values that agree, or is in neither. -/
theorem StyleRule.agree_at? {a b : Json} (h : a.Agree b) (path : List String) (property : String) :
    List.Forall₂ Agree (at? a path property) (at? b path property) := by
  rw [at?, at?]
  rcases h.get?_cases path with ⟨hnone, hnone'⟩ | ⟨v, w, hsome, hsome', hvalue⟩
  · rw [hnone, hnone']
    exact .nil
  · rw [hsome, hsome']
    exact .cons ⟨rfl, hvalue⟩ .nil

/-- Values that agree give the same rules, with values that agree. -/
theorem StyleForm.agree_rules {v w : Json} (h : v.Agree w) (form : StyleForm) :
    List.Forall₂ Agree (form.rules v) (form.rules w) := by
  cases form with
  | single property => exact .cons ⟨rfl, h⟩ .nil
  | sided property sides =>
    simp only [rules, h.isObject_eq]
    split
    · exact forall₂_flatMap (fun side ↦ StyleRule.agree_at? h [side.1] side.2) sides
    · exact .cons ⟨rfl, h⟩ .nil
  | image =>
    have hurl : (v.get? ["url"]).bind Json.text? = (w.get? ["url"]).bind Json.text? :=
      h.bind_get?_eq ["url"] fun _ _ hvalue ↦ hvalue.text?_eq
    simp only [rules, hurl, h.text?_eq]
    split
    · exact .cons ⟨rfl, .refl _⟩ .nil
    · split
      · exact .cons ⟨rfl, h⟩ .nil
      · exact .nil

/-- Subtrees that agree give the same rules at every place. -/
theorem StylePlace.agree_rules {a b : Json} (h : a.Agree b) (place : StylePlace) :
    List.Forall₂ Agree (place.rules a) (place.rules b) := by
  rw [rules, rules]
  rcases h.get?_cases place.path with ⟨hnone, hnone'⟩ | ⟨v, w, hsome, hsome', hvalue⟩
  · rw [hnone, hnone']
    exact .nil
  · rw [hsome, hsome']
    exact place.form.agree_rules hvalue

theorem StyleProperty.agree_rules {a b : Json} (h : a.Agree b) (property : StyleProperty)
    (space : String) (paddingAlign : Bool) :
    List.Forall₂ Agree (property.rules a space paddingAlign)
      (property.rules b space paddingAlign) := by
  rw [rules, rules]
  rcases h.get?_cases property.path with ⟨hnone, hnone'⟩ | ⟨v, w, hsome, hsome', hvalue⟩
  · rw [hnone, hnone']
    exact .nil
  · simp only [hsome, hsome', hvalue.text?_eq, hvalue.isObject_eq, hvalue.isTruthy_eq,
      List.filterMap_eq_flatMap_toList]
    split
    · exact .nil
    · split
      · refine forall₂_flatMap (fun side ↦ ?_) property.sides
        rcases hvalue.get?_cases [side.2] with ⟨hside, hside'⟩ | ⟨x, y, hside, hside', hinner⟩
        · simp only [hside, hside']
          exact .nil
        · simp only [hside, hside', Option.filter_some, hinner.isTruthy_eq]
          split
          · exact .cons ⟨rfl, hinner⟩ .nil
          · exact .nil
      · split
        · exact .cons ⟨rfl, hvalue⟩ .nil
        · exact .nil

/-- Subtrees that agree have images alike, so the same defaults are filled in. -/
theorem agree_withBackgroundDefaults {a b : Json} (h : a.Agree b) (isRoot : Bool) :
    (withBackgroundDefaults a isRoot).Agree (withBackgroundDefaults b isRoot) := by
  have hsize : (a.get? ["background", "backgroundSize"]).bind Json.text? =
      (b.get? ["background", "backgroundSize"]).bind Json.text? :=
    h.bind_get?_eq _ fun _ _ hvalue ↦ hvalue.text?_eq
  simp only [withBackgroundDefaults, ← Option.not_isSome, h.isSome_get?_eq, hsize]
  split
  · exact h
  · split
    · exact h.set _ (.refl _)
    · split
      · exact h.set _ (.refl _)
      · exact h

/-- The rules of subtrees that agree do so one by one. -/
theorem StyleContext.agree_rules {a b : Json} (h : a.Agree b) {ctx other : StyleContext}
    (hspace : ctx.space = other.space) (halign : ctx.paddingAlign = other.paddingAlign)
    (isRoot : Bool) : List.Forall₂ Agree (ctx.rules a isRoot) (other.rules b isRoot) := by
  rw [rules, rules, hspace, halign, StyleRule.extract_eq, StyleRule.extract_eq]
  refine List.rel_append ?_ (List.rel_filter ?_ ?_)
  · exact forall₂_flatMap (fun property ↦ property.agree_rules h _ _) _
  · intro rule rule' hrule
    simp only [isLeftToLayout, halign, hrule.property, hrule.value.text?_eq]
  · exact forall₂_flatMap
      (fun place ↦ place.agree_rules (agree_withBackgroundDefaults h isRoot)) _

/-! ### Texts -/

namespace StyleContext

/-- Two contexts that tell the same about a tree: the same settings, and the same text at every
place a value can point at. -/
structure Matches (ctx other : StyleContext) : Prop where
  space : ctx.space = other.space
  scope : ctx.scope = other.scope
  paddingAlign : ctx.paddingAlign = other.paddingAlign
  settings : ctx.settings? = other.settings?
  placeText (place : String) : ctx.placeText? place = other.placeText? place

@[refl] theorem Matches.refl (ctx : StyleContext) : ctx.Matches ctx :=
  ⟨rfl, rfl, rfl, rfl, fun _ ↦ rfl⟩

variable {ctx other : StyleContext}

/-- The text of a value depends on the tree through what is written at places only. -/
theorem text?_congr (hplace : ∀ place, ctx.placeText? place = other.placeText? place) {v w : Json}
    (h : v.Agree w) : ctx.text? v = other.text? w := by
  rcases h.isObject_cases with ⟨hv, hw⟩ | ⟨fields, fields', rfl, rfl⟩
  · rw [text?_of_not_isObject ctx hv, text?_of_not_isObject other hw, h.css?_eq]
  · rw [text?_obj, text?_obj, (h.child "ref").text?_eq]
    exact congrArg _ (funext hplace)

/-- **Styles that agree say the same**, in contexts that have the same text at every place. -/
theorem written_congr (hspace : ctx.space = other.space)
    (halign : ctx.paddingAlign = other.paddingAlign)
    (hplace : ∀ place, ctx.placeText? place = other.placeText? place) {a b : Json} (h : a.Agree b)
    (isRoot : Bool) : ctx.written a isRoot = other.written b isRoot := by
  rw [written, written, List.filterMap_eq_flatMap_toList, List.filterMap_eq_flatMap_toList]
  refine flatMap_eq_of_forall₂ (fun rule rule' hrule ↦ ?_) (agree_rules h hspace halign isRoot)
  rw [text?_congr hplace hrule.value, hrule.property]

/-- **Within contexts that match, subtrees that agree say the same.** -/
theorem Matches.written_eq (hctx : ctx.Matches other) {a b : Json} (h : a.Agree b)
    (isRoot : Bool) : ctx.written a isRoot = other.written b isRoot :=
  written_congr hctx.space hctx.paddingAlign hctx.placeText h isRoot

/-- Contexts that match compile an entry to the same declaration. -/
theorem Matches.declare_eq (hctx : ctx.Matches other) : ctx.declare = other.declare := by
  funext entry
  rw [declare, declare, fluid, fluid, hctx.space, hctx.settings]

theorem Matches.reports_eq (hctx : ctx.Matches other) : ctx.reports = other.reports := by
  funext text
  rw [reports, reports, hctx.space, hctx.scope, hctx.settings]

/-- Subtrees that agree have the same declarations. -/
theorem Matches.declarations_eq (hctx : ctx.Matches other) {a b : Json} (h : a.Agree b)
    (isRoot : Bool) : ctx.declarations a isRoot = other.declarations b isRoot := by
  rw [declarations, declarations, hctx.written_eq h, hctx.declare_eq]

theorem Matches.diagnostics_eq (hctx : ctx.Matches other) {a b : Json} (h : a.Agree b)
    (isRoot : Bool) : ctx.diagnostics a isRoot = other.diagnostics b isRoot := by
  rw [diagnostics, diagnostics, hctx.written_eq h, hctx.reports_eq]

end StyleContext

end GlobalStyles
