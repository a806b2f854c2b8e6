import GlobalStyles.Text.Kebab
import Mathlib.Data.List.Basic

/-!
# The form of kebab case

A text in kebab case is words with one hyphen between any two. A word is not empty, and of ASCII it
holds letters and digits only, since lower-casing turns a letter or digit into characters of which
the same is true (`isAlphanum_of_mem_lowercase`). What is needed of kebab case follows from these
two facts: it has no punctuation but hyphens (`isAlphanum_of_mem_kebabCase`), and no hyphen stands
at its end or before another one (`hyphensInside_kebabCase`).
-/

namespace GlobalStyles.Text

/-! ### Lower-casing -/

/-- Of ASCII only letters and digits are part of a word. -/
theorem isAlphanum_of_kind {c : Char} (hkind : (LetterKind.of? c).isSome)
    (hascii : c.toNat < 0x80) : c.isAlphanum := by
  rw [LetterKind.of?, isUppercase, isAlphabetic, if_pos hascii, if_pos hascii] at hkind
  cases hdigit : c.isDigit
  · cases halpha : c.isAlpha
    · have hcases : (c.isUpper || c.isLower) = false := halpha
      obtain ⟨hupper, -⟩ := Bool.or_eq_false_iff.1 hcases
      simp [hdigit, hupper, halpha] at hkind
    · simp [Char.isAlphanum, halpha]
  · simp [Char.isAlphanum, hdigit]

/-- Lower-casing keeps to the letters and digits of ASCII. -/
theorem isAlphanum_toLower {c : Char} (h : c.isAlphanum) (hascii : c.toNat < 0x80) :
    c.toLower.isAlphanum := by
  have hall : ∀ n < 0x80, (Char.ofNat n).isAlphanum → (Char.ofNat n).toLower.isAlphanum := by
    decide
  have hc := hall c.toNat hascii
  rw [Char.ofNat_toNat] at hc
  exact hc h

/-- No shift leads into ASCII but that of the Kelvin sign, and none out of the characters. -/
theorem bounds_of_mem_lowercaseShifts :
    ∀ entry ∈ lowercaseShifts,
      (0x80 ≤ entry.1.first + entry.2 ∨
        entry.1.first = 0x212A ∧ entry.1.last = 0x212A ∧ entry.2 = -8383) ∧
      (entry.1.last + entry.2 < 0xD800 ∨
        0xE000 ≤ entry.1.first + entry.2 ∧ entry.1.last + entry.2 < 0x110000) := by
  decide +kernel

/-- A lower-case form is not empty, and of ASCII it holds a letter or digit. -/
theorem lowercaseChar_spec {c : Char} (hkind : (LetterKind.of? c).isSome) :
    lowercaseChar c ≠ [] ∧ ∀ d ∈ lowercaseChar c, d.toNat < 0x80 → d.isAlphanum := by
  rw [lowercaseChar]
  split
  · rename_i hascii
    simpa using fun _ ↦ isAlphanum_toLower (isAlphanum_of_kind hkind hascii) hascii
  · rename_i hbeyond
    split
    · exact ⟨List.cons_ne_nil _ _,
        List.forall_mem_cons.2 ⟨by decide, List.forall_mem_singleton.2 (by decide)⟩⟩
    · split <;> rename_i hfind
      · rename_i entry shift
        have hrun := List.find?_some hfind
        obtain ⟨hlow, hvalid⟩ := bounds_of_mem_lowercaseShifts _ (List.mem_of_find?_eq_some hfind)
        simp only [CharRun.contains, Bool.and_eq_true, decide_eq_true_eq] at hrun hlow hvalid
        obtain ⟨⟨hfirst, hlast⟩, -⟩ := hrun
        refine ⟨List.cons_ne_nil _ _, fun d hd hascii ↦ ?_⟩
        obtain rfl := List.mem_singleton.1 hd
        rcases hlow with hlow | ⟨hstart, hstop, hshift⟩
        · -- the shift stays beyond ASCII
          have hchar : (c.toNat + shift).toNat.isValidChar := by
            rw [Nat.isValidChar]
            omega
          have hcode : (Char.ofNat (c.toNat + shift).toNat).toNat = (c.toNat + shift).toNat := by
            rw [Char.ofNat, dif_pos hchar]
            rfl
          omega
        · -- the Kelvin sign becomes the letter
          have hc : c.toNat = 0x212A := by omega
          rw [hc, hshift]
          decide
      · exact ⟨List.cons_ne_nil _ _, fun d hd hascii ↦ by
          rw [List.mem_singleton.1 hd] at hascii
          exact absurd hascii hbeyond⟩

/-- A letter has a small form, whose ASCII characters are letters or digits. -/
theorem lowercaseAt_spec {c : Char} (hkind : (LetterKind.of? c).isSome) (before after : List Char) :
    lowercaseAt before c after ≠ [] ∧
      ∀ d ∈ lowercaseAt before c after, d.toNat < 0x80 → d.isAlphanum := by
  rw [lowercaseAt]
  split
  · split <;> exact ⟨List.cons_ne_nil _ _, List.forall_mem_singleton.2 (by decide)⟩
  · exact lowercaseChar_spec hkind

/-- Small letters of ASCII are letters or digits, wherever the word goes on. -/
theorem isAlphanum_of_mem_lowercaseFrom {word : List Char}
    (hkind : ∀ c ∈ word, (LetterKind.of? c).isSome) (before : List Char) :
    ∀ d ∈ lowercaseFrom before word, d.toNat < 0x80 → d.isAlphanum := by
  induction word generalizing before with
  | nil => exact fun d hd ↦ absurd hd List.not_mem_nil
  | cons c rest ih =>
    obtain ⟨hc, hrest⟩ := List.forall_mem_cons.1 hkind
    intro d hd
    rw [lowercaseFrom, List.mem_append] at hd
    rcases hd with hd | hd
    · exact (lowercaseAt_spec hc before rest).2 d hd
    · exact ih hrest _ d hd

/-- The lower-case form of letters and digits has no other character of ASCII. -/
theorem isAlphanum_of_mem_lowercase {word : List Char}
    (hkind : ∀ c ∈ word, (LetterKind.of? c).isSome) {d : Char} (hd : d ∈ lowercase word)
    (hascii : d.toNat < 0x80) : d.isAlphanum :=
  isAlphanum_of_mem_lowercaseFrom hkind [] d hd hascii

theorem lowercase_ne_nil {word : List Char} (hkind : ∀ c ∈ word, (LetterKind.of? c).isSome)
    (hne : word ≠ []) : lowercase word ≠ [] := by
  cases word with
  | nil => exact absurd rfl hne
  | cons c rest =>
    rw [lowercase, lowercaseFrom]
    exact List.append_ne_nil_of_left_ne_nil
      (lowercaseAt_spec (hkind c List.mem_cons_self) [] rest).1 _

/-! ### Words -/

theorem kind_of_mem_pieces {s piece : List Char} (h : piece ∈ pieces s) :
    ∀ c ∈ piece, (LetterKind.of? c).isSome := by
  induction s generalizing piece with
  | nil =>
    rw [List.mem_singleton.1 h]
    exact fun c hc ↦ absurd hc List.not_mem_nil
  | cons c rest ih =>
    rw [pieces] at h
    split at h <;> rename_i hkind
    · rcases List.mem_cons.1 h with rfl | h
      · exact fun c hc ↦ absurd hc List.not_mem_nil
      · exact ih h
    · have hc : (LetterKind.of? c).isSome := by
        rw [hkind]
        rfl
      split at h
      · rcases List.mem_cons.1 h with rfl | h
        · simpa using hc
        · exact ih h
      · rcases hpieces : pieces rest with _ | ⟨first, others⟩
        · rw [hpieces] at h
          exact absurd h List.not_mem_nil
        · rw [hpieces] at h ih
          rcases List.mem_cons.1 h with rfl | h
          · exact List.forall_mem_cons.2 ⟨hc, ih List.mem_cons_self⟩
          · exact ih (List.mem_cons_of_mem _ h)

/-- The words of a text in lower case. -/
def kebabWords (text : String) : List (List Char) :=
  (words text.toList).map lowercase

/-- **Kebab case is its words with hyphens between them.** -/
theorem toList_kebabCase (text : String) :
    (kebabCase text).toList = ['-'].intercalate (kebabWords text) := by
  rw [kebabCase, String.toList_intercalate, kebabWords, List.map_map]
  congr 1
  refine List.map_congr_left fun word _ ↦ ?_
  exact String.toList_ofList

/-- A word is not empty, and of ASCII it holds letters and digits only. -/
theorem kebabWords_spec {text : String} {word : List Char} (h : word ∈ kebabWords text) :
    word ≠ [] ∧ ∀ c ∈ word, c.toNat < 0x80 → c.isAlphanum := by
  obtain ⟨source, hsource, rfl⟩ := List.mem_map.1 h
  obtain ⟨hpiece, hne⟩ := List.mem_filter.1 hsource
  have hkind := kind_of_mem_pieces hpiece
  refine ⟨lowercase_ne_nil hkind ?_, fun c hc ↦ isAlphanum_of_mem_lowercase hkind hc⟩
  rintro rfl
  cases hne

theorem hyphen_notMem_of_mem_kebabWords {text : String} {word : List Char}
    (h : word ∈ kebabWords text) : '-' ∉ word :=
  fun hmem ↦ absurd ((kebabWords_spec h).2 '-' hmem (by decide)) (by decide)

/-! ### Characters and hyphens -/

/-- What stands in a joined list is of the separator or of a part. -/
theorem mem_intercalate {α : Type} {separator : List α} {parts : List (List α)} {a : α}
    (h : a ∈ separator.intercalate parts) : a ∈ separator ∨ ∃ part ∈ parts, a ∈ part := by
  induction parts with
  | nil => exact absurd h List.not_mem_nil
  | cons part rest ih =>
    rcases rest with - | ⟨next, rest⟩
    · rw [List.intercalate_singleton] at h
      exact .inr ⟨part, List.mem_cons_self, h⟩
    · rw [List.intercalate_cons_cons, List.mem_append, List.mem_append] at h
      rcases h with (h | h) | h
      · exact .inr ⟨part, List.mem_cons_self, h⟩
      · exact .inl h
      · refine (ih h).imp_right fun ⟨other, hmem, ha⟩ ↦ ⟨other, List.mem_cons_of_mem _ hmem, ha⟩

/-- **Kebab case has letters, digits and hyphens.** Nothing else of ASCII is in it. -/
theorem isAlphanum_of_mem_kebabCase {text : String} {c : Char} (h : c ∈ (kebabCase text).toList)
    (hascii : c.toNat < 0x80) : c = '-' ∨ c.isAlphanum := by
  rw [toList_kebabCase] at h
  rcases mem_intercalate h with h | ⟨word, hword, h⟩
  · exact .inl (List.mem_singleton.1 h)
  · exact .inr ((kebabWords_spec hword).2 c h hascii)

/-- After every hyphen stands a character that is none. -/
def HyphensInside : List Char → Prop
  | [] => True
  | c :: rest => (c = '-' → ∃ d ∈ rest.head?, d ≠ '-') ∧ HyphensInside rest

theorem HyphensInside.append {word rest : List Char} (hword : '-' ∉ word)
    (hrest : HyphensInside rest) : HyphensInside (word ++ rest) := by
  induction word with
  | nil => exact hrest
  | cons c word ih =>
    obtain ⟨hc, hword⟩ := List.ne_and_not_mem_of_not_mem_cons hword
    exact ⟨fun heq ↦ absurd heq.symm hc, ih hword⟩

/-- Hyphens between words that are not empty stand inside. -/
theorem hyphensInside_intercalate {parts : List (List Char)}
    (h : ∀ part ∈ parts, part ≠ [] ∧ '-' ∉ part) : HyphensInside (['-'].intercalate parts) := by
  induction parts with
  | nil => exact trivial
  | cons part rest ih =>
    obtain ⟨⟨-, hpart⟩, hrest⟩ := List.forall_mem_cons.1 h
    rcases rest with - | ⟨next, rest⟩
    · rw [List.intercalate_singleton, ← List.append_nil part]
      exact .append hpart trivial
    · rw [List.intercalate_cons_cons, List.append_assoc]
      refine .append hpart ⟨fun _ ↦ ?_, ih hrest⟩
      -- the next part begins with a character of its own
      obtain ⟨hne, hnext⟩ := hrest next List.mem_cons_self
      rcases next with - | ⟨d, next⟩
      · exact absurd rfl hne
      · refine ⟨d, ?_, fun heq ↦ hnext (heq ▸ List.mem_cons_self)⟩
        cases rest <;> simp [List.intercalate]

/-- **No hyphen of kebab case stands at its end or before another one.** -/
theorem hyphensInside_kebabCase (text : String) : HyphensInside (kebabCase text).toList := by
  rw [toList_kebabCase]
  exact hyphensInside_intercalate fun word hword ↦
    ⟨(kebabWords_spec hword).1, hyphen_notMem_of_mem_kebabWords hword⟩

end GlobalStyles.Text
