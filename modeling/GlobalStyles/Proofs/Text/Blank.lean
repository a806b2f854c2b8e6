import GlobalStyles.Text.Blank
import Mathlib.Data.List.Basic
import Mathlib.Data.List.TakeWhile

/-!
# Blanks at the ends of a text

Trimming takes off the blanks at the ends of a text and nothing else. So blanks that are put before
or behind a text go away again, a text is trimmed at its end alone wherever it has something that is
no blank, and a text with no blank at either end stays as it is.
-/

namespace GlobalStyles.Text

/-- A text of blanks, which may be empty. -/
def IsBlankText (s : List Char) : Prop :=
  ∀ c ∈ s, isBlank c = true

instance (s : List Char) : Decidable (IsBlankText s) :=
  List.decidableBAll _ _

theorem IsBlankText.append {a b : List Char} (ha : IsBlankText a) (hb : IsBlankText b) :
    IsBlankText (a ++ b) :=
  List.forall_mem_append.2 ⟨ha, hb⟩

theorem trimStart_append_of_isBlankText {a : List Char} (h : IsBlankText a) (b : List Char) :
    trimStart (a ++ b) = trimStart b :=
  List.dropWhile_append_of_pos h

/-- Blanks at the end are taken off. -/
theorem trimEnd_append_of_isBlankText {b : List Char} (h : IsBlankText b) (a : List Char) :
    trimEnd (a ++ b) = trimEnd a := by
  rw [trimEnd, List.reverse_append, List.dropWhile_append_of_pos, trimEnd]
  exact fun c hc ↦ h c (List.mem_reverse.1 hc)

theorem trimStart_eq_nil_iff (s : List Char) : trimStart s = [] ↔ IsBlankText s :=
  List.dropWhile_eq_nil_iff

/-- Only blanks stand before the first character that is none. -/
theorem exists_eq_append_trimStart (s : List Char) :
    ∃ blanks, IsBlankText blanks ∧ s = blanks ++ trimStart s :=
  ⟨s.takeWhile isBlank, fun _ hc ↦ List.mem_takeWhile_imp hc, List.takeWhile_append_dropWhile.symm⟩

theorem trimEnd_eq_nil_iff (s : List Char) : trimEnd s = [] ↔ IsBlankText s := by
  rw [trimEnd, List.reverse_eq_nil_iff, List.dropWhile_eq_nil_iff]
  exact ⟨fun h c hc ↦ h c (List.mem_reverse.2 hc), fun h c hc ↦ h c (List.mem_reverse.1 hc)⟩

theorem trimEnd_subset (s : List Char) : trimEnd s ⊆ s := by
  intro c hc
  rw [trimEnd, List.mem_reverse] at hc
  exact List.mem_reverse.1 (List.dropWhile_subset _ hc)

theorem trim_subset (s : List Char) : trim s ⊆ s :=
  List.Subset.trans (trimEnd_subset _) (List.dropWhile_subset _)

/-- What stands before a text that is not blank stays. -/
theorem trimEnd_append_of_not_isBlankText {b : List Char} (h : ¬IsBlankText b) (a : List Char) :
    trimEnd (a ++ b) = a ++ trimEnd b := by
  have hne : b.reverse.dropWhile isBlank ≠ [] := by
    rw [← trimEnd_eq_nil_iff, trimEnd, List.reverse_eq_nil_iff] at h
    exact h
  rw [trimEnd, List.reverse_append, List.dropWhile_append, if_neg (by simpa using hne),
    List.reverse_append, List.reverse_reverse, trimEnd]

/-- Before a character that stays, only the rest is trimmed. -/
theorem trimEnd_cons {c : Char} (h : isBlank c = false) (s : List Char) :
    trimEnd (c :: s) = c :: trimEnd s := by
  by_cases hs : IsBlankText s
  · have hc : trimEnd [c] = [c] := by simp [trimEnd, h]
    rw [(trimEnd_eq_nil_iff s).2 hs, ← hc]
    exact trimEnd_append_of_isBlankText hs [c]
  · exact trimEnd_append_of_not_isBlankText hs [c]

/-- A text is trimmed to nothing exactly when it is blank. -/
theorem trim_eq_nil_iff (s : List Char) : trim s = [] ↔ IsBlankText s := by
  obtain ⟨blanks, hblanks, hs⟩ := exists_eq_append_trimStart s
  rw [trim, trimEnd_eq_nil_iff]
  exact ⟨fun h ↦ hs ▸ hblanks.append h, fun h c hc ↦ h c (List.dropWhile_subset _ hc)⟩

/-- What stands behind a text that is not blank stays. -/
theorem trimStart_append_of_not_isBlankText {a : List Char} (h : ¬IsBlankText a) (b : List Char) :
    trimStart (a ++ b) = trimStart a ++ b := by
  have hne : ¬(a.dropWhile isBlank).isEmpty := by
    rw [List.isEmpty_iff]
    exact mt (trimStart_eq_nil_iff a).1 h
  rw [trimStart, List.dropWhile_append, if_neg hne, trimStart]

/-- **Blanks around a text go away.** -/
theorem trim_append_of_isBlankText {a b : List Char} (ha : IsBlankText a) (hb : IsBlankText b)
    (s : List Char) : trim (a ++ (s ++ b)) = trim s := by
  by_cases hs : IsBlankText s
  · rw [(trim_eq_nil_iff _).2 (ha.append (hs.append hb)), (trim_eq_nil_iff s).2 hs]
  · rw [trim, trimStart_append_of_isBlankText ha, trimStart_append_of_not_isBlankText hs]
    exact trimEnd_append_of_isBlankText hb _

/-! ### Texts without a blank at an end -/

/-- A text that does not end in a blank. -/
def NoBlankEnd (s : List Char) : Prop :=
  s.getLast?.any isBlank = false

instance (s : List Char) : Decidable (NoBlankEnd s) :=
  inferInstanceAs (Decidable (s.getLast?.any isBlank = false))

/-- Only the last character counts. -/
theorem NoBlankEnd.append_left {b : List Char} (h : NoBlankEnd b) (hne : b ≠ []) (a : List Char) :
    NoBlankEnd (a ++ b) := by
  rwa [NoBlankEnd, List.getLast?_append_of_ne_nil a hne]

/-- Texts that do not end in a blank do not do so together. -/
theorem NoBlankEnd.append {a b : List Char} (ha : NoBlankEnd a) (hb : NoBlankEnd b) :
    NoBlankEnd (a ++ b) := by
  rcases b with _ | ⟨c, b⟩
  · rwa [List.append_nil]
  · exact hb.append_left (List.cons_ne_nil c b) a

/-- What is left does not begin with a blank. -/
theorem any_head?_trimStart (s : List Char) : (trimStart s).head?.any isBlank = false := by
  have hfirst := List.head?_dropWhile_not isBlank s
  rw [trimStart]
  rcases hhead : (s.dropWhile isBlank).head? with _ | c
  · rfl
  · rwa [hhead] at hfirst

/-- A text that does not begin with a blank is left as it is. -/
theorem trimStart_eq_self {s : List Char} (h : s.head?.any isBlank = false) : trimStart s = s := by
  rcases s with _ | ⟨c, s⟩
  · rfl
  · rw [trimStart, List.dropWhile_cons_of_neg]
    simpa using h

/-- A text that does not end in one is left as it is. -/
theorem trimEnd_eq_self {s : List Char} (h : NoBlankEnd s) : trimEnd s = s := by
  have hreverse : trimStart s.reverse = s.reverse :=
    trimStart_eq_self (by rwa [List.head?_reverse])
  rw [trimEnd, ← trimStart, hreverse, List.reverse_reverse]

/-- **A text with no blank at either end stays.** -/
theorem trim_eq_self {s : List Char} (hfirst : s.head?.any isBlank = false)
    (hlast : NoBlankEnd s) : trim s = s := by
  rw [trim, trimStart_eq_self hfirst, trimEnd_eq_self hlast]

/-- What is trimmed does not begin with a blank … -/
theorem any_head?_trim (s : List Char) : (trim s).head?.any isBlank = false := by
  have hstart := any_head?_trimStart s
  rcases hs : trimStart s with _ | ⟨c, rest⟩
  · rw [trim, hs]
    rfl
  · rw [hs] at hstart
    have hc : isBlank c = false := hstart
    rw [trim, hs, trimEnd_cons hc]
    exact hc

/-- … and does not end in one. -/
theorem noBlankEnd_trim (s : List Char) : NoBlankEnd (trim s) := by
  rw [NoBlankEnd, trim, trimEnd, List.getLast?_reverse]
  exact any_head?_trimStart _

/-- The end of a text is that of what stands behind its first blanks. -/
theorem NoBlankEnd.trimStart {s : List Char} (h : NoBlankEnd s) : NoBlankEnd (trimStart s) := by
  obtain ⟨blanks, -, hs⟩ := exists_eq_append_trimStart s
  by_cases hne : Text.trimStart s = []
  · rw [hne]
    rfl
  · rwa [NoBlankEnd, ← List.getLast?_append_of_ne_nil blanks hne, ← hs]

/-- A text put behind one that does not end in a blank is not trimmed away from it. -/
theorem trim_append_of_noBlankEnd {a b : List Char} (hblank : ¬IsBlankText a) (ha : NoBlankEnd a)
    (hb : NoBlankEnd b) : trim (a ++ b) = trim a ++ b := by
  rw [trim, trim, trimStart_append_of_not_isBlankText hblank,
    trimEnd_eq_self (ha.trimStart.append hb), trimEnd_eq_self ha.trimStart]

end GlobalStyles.Text
