import GlobalStyles.Proofs.Style.Hollow
import GlobalStyles.Proofs.Style.Value

/-!
# Defaults of a background

Away from the root, a background with an image has a size and, if it is contained in its block, a
position. The position is only filled in where there is none. For the size only a text counts as
one: a number or a reference gives way to the default, even if it stands for a text. So the size of
an author is declared exactly if there is no image, the size is a text, or it stands for the default
(`StyleContext.background_defaults_fill_gaps_iff`).
-/

namespace GlobalStyles

open Json

/-- Only the default itself is compiled to it. -/
theorem Reference.compile_eq_cover_iff (text space : String) :
    compile text space = "cover" ↔ text = "cover" := by
  rw [compile]
  rcases hsegments : segments? text with _ | segments
  · exact Iff.rfl
  · constructor
    · intro heq
      have hhead := congrArg (·.toList.head?) heq
      simp at hhead
    · rintro rfl
      cases hsegments

/-! ### What is filled in -/

/-- The size that styles give as a text. -/
def sizeText? (styles : Json) : Option String :=
  (styles.get? ["background", "backgroundSize"]).bind Json.text?

theorem get?_size_withBackgroundDefaults (styles : Json) :
    (withBackgroundDefaults styles false).get? ["background", "backgroundSize"] =
      if styles.hasImage ∧ sizeText? styles = none then some (.str "cover")
      else styles.get? ["background", "backgroundSize"] := by
  rw [withBackgroundDefaults, hasImage, ← sizeText?]
  rcases styles.get? ["background", "backgroundImage"] with _ | image
  · rfl
  · rcases sizeText? styles with _ | size
    · exact get?_set_self (by simp) styles _
    · -- a position is filled in at most, which is elsewhere
      simp only [Bool.false_or, Option.isNone_some, Bool.false_eq_true, if_false, reduceCtorEq,
        and_false]
      split
      · exact get?_set_of_diverge (by decide) (by decide) styles _
      · rfl

theorem get?_position_withBackgroundDefaults (styles : Json) :
    (withBackgroundDefaults styles false).get? ["background", "backgroundPosition"] =
      if styles.hasImage ∧ sizeText? styles = some "contain" ∧
          styles.get? ["background", "backgroundPosition"] = none then some (.str "50% 50%")
      else styles.get? ["background", "backgroundPosition"] := by
  rw [withBackgroundDefaults, hasImage, ← sizeText?]
  rcases styles.get? ["background", "backgroundImage"] with _ | image
  · rfl
  · rcases sizeText? styles with _ | size
    · exact get?_set_of_diverge (by decide) (by decide) styles _
    · simp only [Bool.false_or, Option.isNone_some, Bool.false_eq_true, if_false,
        Option.isSome_some, true_and, Option.some_inj, Bool.and_eq_true, decide_eq_true_eq,
        Option.isNone_iff_eq_none]
      split
      · exact get?_set_self (by simp) styles _
      · rfl

/-! ### What is declared -/

namespace StyleContext

variable (ctx : StyleContext) (styles : Json)

/-- The size is that of the styles, or the default. -/
theorem filter_size_declarations :
    (ctx.declarations styles false).filter (·.property = "background-size") =
      if styles.hasImage ∧ sizeText? styles = none then [⟨"background-size", "cover"⟩]
      else (((styles.get? ["background", "backgroundSize"]).bind ctx.text?).map fun text ↦
        ⟨"background-size", Reference.compile text ctx.space⟩).toList := by
  have htable : ("background-size", ["background", "backgroundSize"]) ∈ StyleRule.table := by
    decide
  have hcover := (Reference.compile_eq_cover_iff "cover" ctx.space).2 rfl
  rw [filter_property_declarations_below htable (by decide), get?_size_withBackgroundDefaults]
  simp only [ctx.declare_of_ne (show "background-size" ≠ "font-size" by decide)]
  split
  · rw [Option.bind_some, ctx.text?_of_not_isObject rfl, css?, Option.map_some, hcover]
    rfl
  · rfl

/-- A position of the styles is declared as it is. -/
theorem filter_position_declarations {position : Json}
    (h : styles.get? ["background", "backgroundPosition"] = some position) :
    (ctx.declarations styles false).filter (·.property = "background-position") =
      ((ctx.text? position).map fun text ↦
        ⟨"background-position", Reference.compile text ctx.space⟩).toList := by
  have htable :
      ("background-position", ["background", "backgroundPosition"]) ∈ StyleRule.table := by
    decide
  have hkeep : (withBackgroundDefaults styles false).get? ["background", "backgroundPosition"] =
      some position := by
    rw [get?_position_withBackgroundDefaults, h, if_neg fun hgap ↦ nomatch hgap.2.2]
  rw [filter_property_declarations_below htable (by decide), hkeep]
  simp only [ctx.declare_of_ne (show "background-position" ≠ "font-size" by decide),
    Option.bind_some]

/-- **Defaults of a background fill gaps, but a size that is no text is a gap.** A size that stands
for a text is declared with it exactly if there is no image, it is a text itself, or it is the
default anyway. A position is never replaced. -/
theorem background_defaults_fill_gaps_iff :
    (∀ size text, styles.get? ["background", "backgroundSize"] = some size →
      ctx.text? size = some text →
        ((ctx.declarations styles false).filter (·.property = "background-size") =
            [⟨"background-size", Reference.compile text ctx.space⟩] ↔
          styles.hasImage = false ∨ size.text?.isSome ∨ text = "cover")) ∧
      ∀ position, styles.get? ["background", "backgroundPosition"] = some position →
        (ctx.declarations styles false).filter (·.property = "background-position") =
          ((ctx.text? position).map fun text ↦
            ⟨"background-position", Reference.compile text ctx.space⟩).toList := by
  refine ⟨fun size text hsize htext ↦ ?_, fun position ↦ ctx.filter_position_declarations styles⟩
  have hgap : sizeText? styles = size.text? := by rw [sizeText?, hsize, Option.bind_some]
  rw [ctx.filter_size_declarations, hgap, hsize, Option.bind_some, htext, Option.map_some,
    Option.toList_some]
  split <;> rename_i hdefault
  · -- the default takes its place
    rw [hdefault.1, hdefault.2, List.singleton_inj, Declaration.mk.injEq, and_iff_right rfl,
      eq_comm, Reference.compile_eq_cover_iff]
    simp
  · refine iff_of_true rfl ?_
    rw [not_and_or, Bool.not_eq_true] at hdefault
    exact hdefault.imp_right fun hsome ↦ .inl (Option.isSome_iff_ne_none.2 hsome)

/-- A background whose image has a size of its own and a position by reference. -/
def posterStyles : Json :=
  .obj [("background", .obj [("backgroundImage", .str "none"), ("backgroundSize", .str "auto 4em"),
    ("backgroundPosition", .obj [("ref", .str "styles.at")])])]

/-- A tree with a position to point at. -/
def posterTree : Json :=
  .obj [("styles", .obj [("at", .str "0 0")])]

/-- The background of a poster is declared as it is. -/
theorem background_defaults_fill_gaps_poster :
    let ctx := StyleContext.ofTree posterTree "app"
    posterStyles.hasImage = true ∧
      posterStyles.get? ["background", "backgroundSize"] = some (.str "auto 4em") ∧
      posterStyles.get? ["background", "backgroundPosition"] =
        some (.obj [("ref", .str "styles.at")]) ∧
      ctx.text? (.str "auto 4em") = some "auto 4em" ∧
      (ctx.declarations posterStyles false).filter (·.property = "background-size") =
        [⟨"background-size", "auto 4em"⟩] ∧
      (ctx.declarations posterStyles false).filter (·.property = "background-position") =
        [⟨"background-position", "0 0"⟩] := by
  intro ctx
  obtain ⟨hsize, hposition⟩ := background_defaults_fill_gaps_iff ctx posterStyles
  have htext : ctx.text? (.str "auto 4em") = some "auto 4em" := by rfl
  have hplace : ctx.text? (.obj [("ref", .str "styles.at")]) = some "0 0" := by decide +kernel
  refine ⟨by rfl, by rfl, by rfl, htext, (hsize _ _ (by rfl) htext).2 (.inr (.inl rfl)), ?_⟩
  rw [hposition _ (by rfl), hplace]
  rfl

/-- A size that is referred to gives way to the default. -/
theorem size_by_reference_is_replaced :
    let size : Json := .obj [("ref", .str "styles.background.backgroundSize")]
    let styles : Json :=
      .obj [("background", .obj [("backgroundImage", .str "url(a.png)"), ("backgroundSize", size)])]
    let tree : Json :=
      .obj [("styles", .obj [("background", .obj [("backgroundSize", .str "auto 4em")])])]
    (StyleContext.ofTree tree "wp").text? size = some "auto 4em" ∧
      (StyleContext.ofTree tree "wp").declarations styles false =
        [⟨"background-image", "url(a.png)"⟩, ⟨"background-size", "cover"⟩] :=
  ⟨by decide +kernel, by decide +kernel⟩

end StyleContext

end GlobalStyles
