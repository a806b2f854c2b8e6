import GlobalStyles.Proofs.Json.Norm
import GlobalStyles.Proofs.Style.Inherited
import GlobalStyles.Proofs.Style.Place

/-!
# Styles that meet a norm

What is extracted from styles is made of parts of them, and so are the subtrees that features take:
where the styles meet a norm, every extracted value and every part does. The few texts and keys that
extraction adds of its own, the defaults of a background image and the form of its address, are
asked of the norm by `Norm.AdmitsDefaults`.
-/

namespace GlobalStyles

open Json

/-! ### Defaults -/

/-- What styles are given besides their own is as the norm asks. -/
structure Json.Norm.AdmitsDefaults (norm : Norm) : Prop where
  cover : norm.text "cover"
  centred : norm.text "50% 50%"
  address (url : String) : norm.text url → norm.text ("url( '" ++ url ++ "' )")
  background (text : Option String) : norm.entry "background" text
  backgroundSize (text : Option String) : norm.entry "backgroundSize" text
  backgroundPosition (text : Option String) : norm.entry "backgroundPosition" text

variable {norm : Norm}

/-- Filling in defaults that a norm admits keeps it. -/
theorem meets_withBackgroundDefaults (hnorm : norm.AdmitsDefaults) {styles : Json}
    (h : styles.Meets norm) (isRoot : Bool) :
    (withBackgroundDefaults styles isRoot).Meets norm := by
  have hsize : ∀ key ∈ ["background", "backgroundSize"], ∀ text, norm.entry key text := by
    simpa using ⟨hnorm.background, hnorm.backgroundSize⟩
  have hposition : ∀ key ∈ ["background", "backgroundPosition"], ∀ text, norm.entry key text := by
    simpa using ⟨hnorm.background, hnorm.backgroundPosition⟩
  rw [withBackgroundDefaults]
  split
  · exact h
  · split
    · exact h.set hsize hnorm.cover
    · split
      · exact h.set hposition hnorm.centred
      · exact h

/-! ### Extraction -/

/-- **Every value that is read from styles meets what they do.** -/
theorem StyleContext.allMeet_rules (hnorm : norm.AdmitsDefaults) {styles : Json}
    (h : styles.Meets norm) (ctx : StyleContext) (isRoot : Bool) :
    ∀ rule ∈ ctx.rules styles isRoot, rule.value.Meets norm := by
  intro rule hmem
  rw [rules, List.mem_append, StyleRule.extract_eq] at hmem
  rcases hmem with hmem | hmem
  · obtain ⟨property, -, hmem⟩ := List.mem_flatMap.1 hmem
    exact property.inherited_rules norm.inherited h _ _ rule hmem
  · have hdefaults := meets_withBackgroundDefaults hnorm h isRoot
    obtain ⟨place, -, hmem⟩ := List.mem_flatMap.1 (List.mem_filter.1 hmem).1
    exact place.inherited_rules norm.inherited hnorm.address hdefaults rule hmem

/-! ### Features -/

namespace FeaturePart

/-- The styles of some parts meet a norm. -/
def AllMeet (norm : Norm) (parts : List FeaturePart) : Prop :=
  ∀ part ∈ parts, part.styles.Meets norm

end FeaturePart

end GlobalStyles
