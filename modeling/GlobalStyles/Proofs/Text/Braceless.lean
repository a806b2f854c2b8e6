import GlobalStyles.Proofs.Text.Blank
import GlobalStyles.Proofs.Text.Kebab
import GlobalStyles.Selector

/-!
# Texts without braces

Braces tell the rules of a stylesheet apart, so a selector, a property or a value with a brace in it
would end its rule or begin another. Here is what keeps texts free of them. Putting texts together,
kebab case and the operations on selector lists bring in a few fixed characters of their own and
otherwise only what stood in a text before. Kebab case even drops what is no letter or digit, so its
result is free of braces whatever the text was.
-/

namespace GlobalStyles

/-- Whether a character opens or closes the body of a rule. -/
def Text.isBrace (c : Char) : Bool :=
  c == '\x7b' || c == '\x7d'

/-- No character of a text is a brace. -/
def Braceless (text : String) : Prop :=
  ∀ c ∈ text.toList, Text.isBrace c = false

instance (text : String) : Decidable (Braceless text) :=
  List.decidableBAll _ _

namespace Text

theorem isBrace_of_isAlphanum {c : Char} (h : c.isAlphanum = true) : isBrace c = false := by
  rcases hbrace : isBrace c with _ | _
  · rfl
  · rw [isBrace, Bool.or_eq_true, beq_iff_eq, beq_iff_eq] at hbrace
    rcases hbrace with rfl | rfl <;> exact absurd h (by decide)

theorem isBrace_of_isDigit {c : Char} (h : c.isDigit = true) : isBrace c = false :=
  isBrace_of_isAlphanum (by rw [Char.isAlphanum, h, Bool.or_true])

/-- What parts are made of stands in their list. -/
theorem subset_intercalate {α : Type} (separator : List α) {parts : List (List α)} {part : List α}
    (h : part ∈ parts) : part ⊆ separator.intercalate parts := by
  induction parts with
  | nil => cases h
  | cons first rest ih =>
    rcases rest with - | ⟨next, rest⟩
    · rw [List.mem_singleton.1 h, List.intercalate_singleton]
      exact List.Subset.refl _
    · rw [List.intercalate_cons_cons]
      rcases List.mem_cons.1 h with rfl | h
      · exact List.Subset.trans (List.subset_append_left _ _) (List.subset_append_left _ _)
      · exact List.Subset.trans (ih h) (List.subset_append_right _ _)

end Text

namespace Braceless

open Text (isBrace)

/-! ### Putting together -/

theorem append {a b : String} (ha : Braceless a) (hb : Braceless b) : Braceless (a ++ b) := by
  intro c hc
  rw [String.toList_append] at hc
  exact (List.mem_append.1 hc).elim (ha c) (hb c)

/-- A text of characters that are no braces. -/
theorem ofList {s : List Char} (h : ∀ c ∈ s, isBrace c = false) : Braceless (String.ofList s) := by
  intro c hc
  rw [String.toList_ofList] at hc
  exact h c hc

/-- Parts in a list, of characters. -/
theorem ofList_intercalate {separator : List Char} {parts : List (List Char)}
    (hseparator : ∀ c ∈ separator, isBrace c = false)
    (hparts : ∀ part ∈ parts, ∀ c ∈ part, isBrace c = false) :
    Braceless (String.ofList (separator.intercalate parts)) := by
  refine ofList fun c hc ↦ ?_
  rcases Text.mem_intercalate hc with hc | ⟨part, hmem, hc⟩
  · exact hseparator c hc
  · exact hparts part hmem c hc

/-- Joining texts adds no brace but those of the separator. -/
theorem intercalate {separator : String} {parts : List String} (hseparator : Braceless separator)
    (hparts : ∀ part ∈ parts, Braceless part) : Braceless (separator.intercalate parts) := by
  have hlist : Braceless
      (String.ofList (separator.toList.intercalate (parts.map String.toList))) := by
    refine ofList_intercalate hseparator fun part hmem ↦ ?_
    obtain ⟨text, htext, rfl⟩ := List.mem_map.1 hmem
    exact hparts text htext
  rwa [← String.toList_intercalate, String.ofList_toList] at hlist

/-- **Kebab case has no braces**, whatever it was made of. -/
theorem kebabCase (text : String) : Braceless (Text.kebabCase text) := by
  intro c hc
  by_cases hascii : c.toNat < 0x80
  · rcases Text.isAlphanum_of_mem_kebabCase hc hascii with rfl | halphanum
    · decide
    · exact Text.isBrace_of_isAlphanum halphanum
  · -- both braces are of ASCII
    rcases hbrace : isBrace c with _ | _
    · rfl
    · rw [isBrace, Bool.or_eq_true, beq_iff_eq, beq_iff_eq] at hbrace
      rcases hbrace with rfl | rfl <;> exact absurd (by decide) hascii

/-! ### Selector lists -/

variable {selector : String} (h : Braceless selector)
include h

/-- The parts of a selector without braces have none. -/
theorem of_mem_parts {part : List Char} (hpart : part ∈ Selector.parts selector.toList) :
    ∀ c ∈ part, isBrace c = false := by
  intro c hc
  have hsub := Text.subset_intercalate [','] hpart
  rw [Selector.parts, List.intercalate_splitOn] at hsub
  exact h c (hsub hc)

/-- Without braces in either, a list below another has none. -/
theorem nest {inner : String} (hinner : Braceless inner) :
    Braceless (Selector.nest selector inner) := by
  have hseparator : ∀ c ∈ [',', ' '], isBrace c = false :=
    List.forall_mem_cons.2 ⟨rfl, List.forall_mem_singleton.2 rfl⟩
  refine ofList_intercalate hseparator fun part hmem ↦ ?_
  obtain ⟨o, ho, hmem⟩ := List.mem_flatMap.1 hmem
  obtain ⟨i, hi, rfl⟩ := List.mem_map.1 hmem
  intro c hc
  rcases List.mem_append.1 hc with hc | hc
  · exact h.of_mem_parts ho c (Text.trim_subset o hc)
  · rcases List.mem_cons.1 hc with rfl | hc
    · decide
    · exact hinner.of_mem_parts hi c (Text.trim_subset i hc)

/-- Without braces in either, a selector with a suffix has none. -/
theorem appendToParts {suffix : String} (hsuffix : Braceless suffix) :
    Braceless (Selector.append selector suffix) := by
  refine ofList_intercalate (List.forall_mem_singleton.2 rfl) fun part hmem ↦ ?_
  obtain ⟨own, hown, rfl⟩ := List.mem_map.1 hmem
  intro c hc
  exact (List.mem_append.1 hc).elim (h.of_mem_parts hown c) (hsuffix c)

/-- Without braces in either, a selector with the class of a variation has none. -/
theorem withVariation {variation : String} (hvariation : Braceless variation) :
    Braceless (Selector.withVariation variation selector) := by
  refine ofList_intercalate (List.forall_mem_singleton.2 rfl) fun part hmem ↦ ?_
  obtain ⟨own, hown, rfl⟩ := List.mem_map.1 hmem
  have hpart := h.of_mem_parts hown
  have hclass : ∀ c ∈ ".is-style-".toList ++ variation.toList, isBrace c = false := fun c hc ↦
    (List.mem_append.1 hc).elim ((by decide : Braceless ".is-style-") c) (hvariation c)
  simp only [Selector.insertAfterCompound]
  split
  · exact hpart
  · -- the class stands between two runs of characters of the part
    simp only [List.forall_mem_append]
    refine ⟨⟨⟨fun c hc ↦ hpart c ?_, fun c hc ↦ hpart c ?_⟩, ?_⟩, fun c hc ↦ hpart c ?_⟩
    · exact List.takeWhile_subset _ hc
    · exact List.dropWhile_subset _ (List.takeWhile_subset _ hc)
    · exact List.forall_mem_append.1 hclass
    · exact List.dropWhile_subset _ (List.dropWhile_subset _ hc)

end Braceless

end GlobalStyles
