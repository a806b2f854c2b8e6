import GlobalStyles.Proofs.Selector.Parts
import GlobalStyles.Proofs.Text.Blank

/-!
# Classes of style variations

The class of a variation is meant to stand behind the first compound of each part of a selector
list. A compound ends at a blank, at the colon of a pseudo-selector or at a combinator, and a
combinator need not have blanks around it (`endsCompound`). Only blanks and colons end what
`Selector.insertAfterCompound` takes for the compound: where a combinator comes right behind the
first compound, the class goes behind everything up to the next blank or colon, and so to a later
compound (`insertAfterCompound_text`).

That is the only case in which the class is misplaced. A misplaced class makes no part longer or
shorter (`perm_withLateClass`), so a list is as meant only if each of its parts is
(`intercalate_map_eq_iff`); and since no class begins with a combinator, a part is as meant only if
there is none right behind its first compound (`withVariation_eq_iff`).
-/

namespace GlobalStyles.Selector

open Text (isBlank IsBlankText)

/-! ### Compounds -/

/-- Whether a character says how two compounds are related. -/
def isCombinator (c : Char) : Bool :=
  c == '>' || c == '+' || c == '~'

/-- Whether a compound ends at a character. -/
def endsCompound (c : Char) : Bool :=
  isBlank c || c == ':' || isCombinator c

/-- A part of a selector list: a compound, with blanks before it and whatever stands behind it. -/
structure CompoundPart where
  lead : List Char
  compound : List Char
  rest : List Char
  lead_blank : IsBlankText lead
  compound_ne_nil : compound ≠ []
  compound_goes_on : compound.any endsCompound = false
  compound_ends : rest.head?.all endsCompound = true
  comma_notMem : ',' ∉ compound ++ rest

/-- What goes on for the selector goes on for the insertion, but combinators go on there too. -/
theorem endsCompound_eq (c : Char) : endsCompound c = (!inCompound c || isCombinator c) := by
  simp [endsCompound, inCompound, bne]

theorem inCompound_of_isCombinator {c : Char} (h : isCombinator c = true) :
    inCompound c = true := by
  simp only [isCombinator, Bool.or_eq_true, beq_iff_eq] at h
  rcases h with (rfl | rfl) | rfl <;> decide

/-- Of what ends a compound, a combinator alone is taken for a character of it. -/
theorem inCompound_eq_isCombinator {c : Char} (h : endsCompound c = true) :
    inCompound c = isCombinator c := by
  rw [endsCompound_eq] at h
  rcases hcombinator : isCombinator c with _ | _
  · simpa [hcombinator] using h
  · exact inCompound_of_isCombinator hcombinator

/-! ### Parts -/

namespace CompoundPart

variable (part : CompoundPart)

/-- The part as it is written. -/
def text : List Char :=
  part.lead ++ part.compound ++ part.rest

/-- The part with a class behind its compound. -/
def withClass (styleClass : List Char) : List Char :=
  part.lead ++ part.compound ++ styleClass ++ part.rest

/-- The part with a class behind everything from its compound up to the next blank or colon. -/
def withLateClass (styleClass : List Char) : List Char :=
  part.lead ++ (part.compound ++ part.rest.takeWhile inCompound) ++ styleClass ++
    part.rest.dropWhile inCompound

/-- **Where the class is put.** -/
theorem insertAfterCompound_text (styleClass : List Char) :
    insertAfterCompound styleClass part.text = part.withLateClass styleClass := by
  have hlead : ∀ c ∈ part.lead, (!inCompound c) = true := fun c hc ↦ by
    simp [inCompound, part.lead_blank c hc]
  have hcompound : ∀ c ∈ part.compound, inCompound c = true := fun c hc ↦ by
    have hgoes := List.any_eq_false.1 part.compound_goes_on c hc
    rw [endsCompound_eq, Bool.or_eq_true, not_or] at hgoes
    simpa using hgoes.1
  -- what comes before the compound ends at its first character
  obtain ⟨first, more, hfirst⟩ := List.exists_cons_of_ne_nil part.compound_ne_nil
  have hin : inCompound first = true := hcompound first (hfirst ▸ List.mem_cons_self)
  have htake : part.text.takeWhile (fun c ↦ !inCompound c) = part.lead := by
    rw [text, List.append_assoc, List.takeWhile_append_of_pos hlead, hfirst]
    simp [hin]
  have hdrop : part.text.dropWhile (fun c ↦ !inCompound c) = part.compound ++ part.rest := by
    rw [text, List.append_assoc, List.dropWhile_append_of_pos hlead, hfirst]
    simp [hin]
  have hne : (part.compound ++ part.rest).isEmpty = false := by
    simp [hfirst]
  rw [insertAfterCompound, htake, hdrop, hne, List.takeWhile_append_of_pos hcompound,
    List.dropWhile_append_of_pos hcompound]
  rfl

/-- The class moves to another place, and nothing else changes. -/
theorem perm_withLateClass (styleClass : List Char) :
    (part.withLateClass styleClass).Perm (part.withClass styleClass) := by
  have hswap := List.perm_append_comm_assoc (part.rest.takeWhile inCompound) styleClass
    (part.rest.dropWhile inCompound)
  rw [List.takeWhile_append_dropWhile] at hswap
  simpa only [withLateClass, withClass, List.append_assoc] using
    (hswap.append_left part.compound).append_left part.lead

theorem comma_notMem_withLateClass {styleClass : List Char} (h : ',' ∉ styleClass) :
    ',' ∉ part.withLateClass styleClass := by
  have hlead : ',' ∉ part.lead := fun hmem ↦ absurd (part.lead_blank _ hmem) (by decide)
  have hpart := part.comma_notMem
  rw [List.mem_append] at hpart
  rw [(part.perm_withLateClass styleClass).mem_iff]
  simpa [withClass, hlead, h] using hpart

/-- **The class is where it belongs exactly if no combinator comes right behind the compound.** -/
theorem withLateClass_eq_iff {dot : Char} (hdot : isCombinator dot = false)
    (styleClass : List Char) :
    part.withLateClass (dot :: styleClass) = part.withClass (dot :: styleClass) ↔
      part.rest.head?.any isCombinator = false := by
  have hends := part.compound_ends
  simp only [withLateClass, withClass, List.append_assoc, List.append_cancel_left_eq]
  rcases hrest : part.rest with _ | ⟨c, rest⟩
  · simp
  · rw [hrest] at hends
    have hc : inCompound c = isCombinator c := inCompound_eq_isCombinator hends
    rcases hcombinator : isCombinator c with _ | _
    · rw [hcombinator] at hc
      simp [hc, hcombinator]
    · rw [hcombinator] at hc
      have hne : c ≠ dot := by
        rintro rfl
        rw [hcombinator] at hdot
        cases hdot
      simp [hc, hcombinator, hne]

end CompoundPart

/-! ### Lists -/

/-- The class of a variation. -/
def variationClass (variation : String) : List Char :=
  ".is-style-".toList ++ variation.toList

/-- The list with the class of a variation, the way `CompoundPart.withLateClass` puts it. -/
theorem withVariation_eq {selector : String} {list : List CompoundPart}
    (h : parts selector.toList = list.map CompoundPart.text) (variation : String) :
    withVariation variation selector =
      String.ofList
        ([','].intercalate (list.map (·.withLateClass (variationClass variation)))) := by
  rw [withVariation, h, List.map_map]
  congr 2
  exact List.map_congr_left fun part _ ↦ part.insertAfterCompound_text _

/-- While the name of the variation has no comma, the parts keep their number and order. -/
theorem parts_withVariation {selector : String} {list : List CompoundPart}
    (h : parts selector.toList = list.map CompoundPart.text) {variation : String}
    (hcomma : ',' ∉ variation.toList) :
    parts (withVariation variation selector).toList =
      list.map (·.withLateClass (variationClass variation)) := by
  rw [withVariation_eq h, String.toList_ofList, parts_join]
  · have hne := parts_ne_nil selector.toList
    simpa [h] using hne
  · have hprefix : ',' ∉ ".is-style-".toList := by decide +kernel
    have hclass : ',' ∉ variationClass variation := fun h ↦
      (List.mem_append.1 h).elim hprefix hcomma
    exact List.forall_mem_map.2 fun part _ ↦ part.comma_notMem_withLateClass hclass

/-- **The class of a variation stands behind the first compound of every part exactly if no
combinator comes right behind one.** In any case it stands in every part, behind everything from the
first compound up to the next blank or colon, and the parts keep their number and order. -/
theorem withVariation_eq_iff {selector : String} {list : List CompoundPart}
    (h : parts selector.toList = list.map CompoundPart.text) (variation : String) :
    withVariation variation selector =
        String.ofList
          ([','].intercalate (list.map (·.withLateClass (variationClass variation)))) ∧
      (',' ∉ variation.toList → parts (withVariation variation selector).toList =
        list.map (·.withLateClass (variationClass variation))) ∧
      (withVariation variation selector =
          String.ofList ([','].intercalate (list.map (·.withClass (variationClass variation)))) ↔
        ∀ part ∈ list, part.rest.head?.any isCombinator = false) := by
  refine ⟨withVariation_eq h variation, parts_withVariation h, ?_⟩
  rw [withVariation_eq h, String.ofList_inj,
    intercalate_map_eq_iff fun part _ ↦ (part.perm_withLateClass _).length_eq]
  exact forall₂_congr fun part _ ↦ part.withLateClass_eq_iff (by decide) _

/-- A part with a child behind blanks, and a part with a pseudo-selector. -/
def quoteParts : List CompoundPart :=
  [⟨[], ".quote".toList, " > p".toList, by decide, by decide, by decide, by decide, by decide⟩,
    ⟨[' '], ".pull".toList, ":hover".toList, by decide, by decide, by decide, by decide, by decide⟩]

/-- With a blank or a colon behind the first compounds, the class is where it belongs. -/
theorem withVariation_quote :
    parts ".quote > p, .pull:hover".toList = quoteParts.map CompoundPart.text ∧
      withVariation "plain" ".quote > p, .pull:hover" =
        String.ofList ([','].intercalate (quoteParts.map (·.withClass (variationClass "plain")))) ∧
      parts (withVariation "plain" ".quote > p, .pull:hover").toList =
        quoteParts.map (·.withLateClass (variationClass "plain")) ∧
      withVariation "plain" ".quote > p, .pull:hover" =
        ".quote.is-style-plain > p, .pull.is-style-plain:hover" := by
  have hparts : parts ".quote > p, .pull:hover".toList = quoteParts.map CompoundPart.text := by
    decide +kernel
  have hplain : ∀ part ∈ quoteParts, part.rest.head?.any isCombinator = false := by
    decide +kernel
  obtain ⟨-, hlist, hiff⟩ := withVariation_eq_iff hparts "plain"
  have hclass := hiff.2 hplain
  refine ⟨hparts, hclass, hlist (by decide +kernel), ?_⟩
  rw [hclass]
  decide +kernel

/-- A compound with another one as its child, and no blanks between them. -/
def childPart : CompoundPart :=
  ⟨[], ".quote".toList, ">p".toList, by decide, by decide, by decide, by decide, by decide⟩

/-- **Behind a combinator without blanks the class goes to the wrong compound.** -/
theorem withVariation_ne_of_child :
    parts ".quote>p".toList = [childPart].map CompoundPart.text ∧
      withVariation "plain" ".quote>p" = ".quote>p.is-style-plain" ∧
      withVariation "plain" ".quote>p" ≠
        String.ofList
          ([','].intercalate ([childPart].map (·.withClass (variationClass "plain")))) := by
  decide +kernel

end GlobalStyles.Selector
