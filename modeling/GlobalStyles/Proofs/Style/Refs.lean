import GlobalStyles.Proofs.Style.Norm
import GlobalStyles.Proofs.Style.Written

/-!
# Styles that point at some places only

A value among styles may be an object whose `ref` names a place elsewhere in the tree, and that is
the only way in which styles are read outside their own subtree. So two contexts that give the same
text at certain places say the same of all styles that point at no other place
(`StyleContext.ReadAlike.written_eq`), whatever else differs between their trees.
-/

namespace GlobalStyles

/-- Every `ref` that is a text names one of some places. -/
def Json.Norm.refs (places : String → Prop) : Json.Norm where
  text _ := True
  entry key text := key = "ref" → ∀ place, text = some place → places place

open Json (Norm)

variable {places : String → Prop}

theorem Json.Norm.refs_entry_of_ne {key : String} (h : key ≠ "ref") (text : Option String) :
    (Norm.refs places).entry key text :=
  fun heq ↦ absurd heq h

/-- The defaults of a background point nowhere. -/
theorem Json.Norm.admitsDefaults_refs : (Norm.refs places).AdmitsDefaults where
  cover := trivial
  centred := trivial
  address _ _ := trivial
  background := refs_entry_of_ne (by decide)
  backgroundSize := refs_entry_of_ne (by decide)
  backgroundPosition := refs_entry_of_ne (by decide)

namespace StyleContext

/-- Two contexts that read styles alike, as long as these point at some places only. -/
structure ReadAlike (places : String → Prop) (ctx other : StyleContext) : Prop where
  space : ctx.space = other.space
  paddingAlign : ctx.paddingAlign = other.paddingAlign
  placeText (place : String) : places place → ctx.placeText? place = other.placeText? place

namespace ReadAlike

variable {ctx other : StyleContext} (hctx : ReadAlike places ctx other)
include hctx

/-- A value that points at such places only has the same text in both contexts. -/
theorem text?_eq {value : Json} (h : value.Meets (.refs places)) :
    ctx.text? value = other.text? value := by
  cases value with
  | obj fields =>
    rw [text?_obj, text?_obj]
    rcases hplace : ((Json.obj fields).child "ref").text? with _ | place
    · rfl
    · -- the member is there, since its text is
      have hmember : (Json.obj fields).member? "ref" = some (.str place) := by
        rw [Json.child] at hplace
        rcases hget : (Json.obj fields).member? "ref" with _ | value
        · rw [hget] at hplace
          cases hplace
        · rw [hget] at hplace
          cases value with
          | str text => exact congrArg (some ∘ Json.str) (Option.some.inj hplace)
          | _ => cases hplace
      exact hctx.placeText place ((h.of_member? hmember).1 rfl place rfl)
  | _ => rfl

/-- What is read from a subtree does not depend on the tree around it. -/
theorem rules_eq (styles : Json) (isRoot : Bool) :
    ctx.rules styles isRoot = other.rules styles isRoot := by
  have hleft : ctx.isLeftToLayout isRoot = other.isLeftToLayout isRoot := by
    funext rule
    rw [isLeftToLayout, isLeftToLayout, hctx.paddingAlign]
  rw [rules, rules, hctx.space, hctx.paddingAlign, hleft]

/-- **Contexts that read alike say the same of styles that point at these places only.** -/
theorem written_eq {styles : Json} (h : styles.Meets (.refs places)) (isRoot : Bool) :
    ctx.written styles isRoot = other.written styles isRoot := by
  rw [written, written, hctx.rules_eq]
  refine List.filterMap_congr fun rule hmem ↦ ?_
  rw [hctx.text?_eq (other.allMeet_rules Norm.admitsDefaults_refs h isRoot rule hmem)]

end ReadAlike

end StyleContext

end GlobalStyles
