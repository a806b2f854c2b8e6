import GlobalStyles.Proofs.Text.Kebab

/-!
# Kebab case is a normal form

Of a text of ASCII, kebab case is a list of plain words with single hyphens between them: each word
is lower-case letters only or digits only (`IsKebab`). Such a list is its own kebab case
(`IsKebab.kebabCase_eq`), so putting a text of ASCII into kebab case twice is the same as doing it
once (`kebabCase_kebabCase`). No letter or digit is lost or moved, since the words are the text
without its separators (`filter_isAlphanum_kebabCase`).

That words are of one kind rests on where they are cut: between a letter and a digit always, so a
piece never has both (`uniform_of_mem_pieces`). That they are found again rests on where they are
not: never between two lower-case letters or between two digits (`pieces_append`).

Beyond ASCII this is false. A capital letter can become a letter and a mark that ends the word, and
there are capitals with no lower-case form, before which a word ends once the letters in front of
them are lower-case.
-/

namespace GlobalStyles.Text

/-- A text of ASCII only. -/
def IsAscii (text : String) : Prop :=
  ∀ c ∈ text.toList, c.toNat < 0x80

instance (text : String) : Decidable (IsAscii text) :=
  List.decidableBAll (fun c : Char ↦ c.toNat < 0x80) text.toList

/-- A word that is lower-case letters of ASCII only, or digits only. -/
def IsPlainWord (word : List Char) : Prop :=
  word ≠ [] ∧ ((∀ c ∈ word, c.isLower) ∨ ∀ c ∈ word, c.isDigit)

/-! ### Kinds -/

/-- What holds of the characters of ASCII by their numbers. -/
theorem forall_ascii {P : Char → Prop} (h : ∀ n < 0x80, P (Char.ofNat n)) {c : Char}
    (hascii : c.toNat < 0x80) : P c := by
  have hc := h c.toNat hascii
  rwa [Char.ofNat_toNat] at hc

theorem toNat_lt_of_isLower {c : Char} (h : c.isLower) : c.toNat < 0x80 := by
  have hlast : c.val ≤ 'z'.val := of_decide_eq_true (Bool.and_eq_true_iff.1 h).2
  exact Nat.lt_of_le_of_lt (UInt32.le_iff_toNat_le.1 hlast) (by decide)

theorem toNat_lt_of_isDigit {c : Char} (h : c.isDigit) : c.toNat < 0x80 := by
  simp only [Char.isDigit, Bool.and_eq_true, decide_eq_true_eq, UInt32.le_iff_toNat_le,
    Char.toNat_val] at h
  exact Nat.lt_of_le_of_lt h.2 (by decide)

/-- A lower-case letter of ASCII counts as one, and stays as it is in lower case. -/
theorem of?_of_isLower {c : Char} (h : c.isLower) :
    LetterKind.of? c = some .lower ∧ c.toLower = c :=
  forall_ascii (P := fun c ↦ c.isLower → LetterKind.of? c = some .lower ∧ c.toLower = c)
    (by decide +kernel) (toNat_lt_of_isLower h) h

/-- A digit counts as one, and stays as it is in lower case. -/
theorem of?_of_isDigit {c : Char} (h : c.isDigit) :
    LetterKind.of? c = some .digit ∧ c.toLower = c :=
  forall_ascii (P := fun c ↦ c.isDigit → LetterKind.of? c = some .digit ∧ c.toLower = c)
    (by decide +kernel) (toNat_lt_of_isDigit h) h

theorem isDigit_toLower {c : Char} (hascii : c.toNat < 0x80)
    (hkind : LetterKind.of? c = some .digit) : c.toLower.isDigit :=
  forall_ascii (P := fun c ↦ LetterKind.of? c = some .digit → c.toLower.isDigit)
    (by decide +kernel) hascii hkind

/-- Every other character of a word of ASCII is a letter, and has a lower-case form. -/
theorem isLower_toLower {c : Char} (hascii : c.toNat < 0x80) (hkind : (LetterKind.of? c).isSome)
    (hletter : LetterKind.of? c ≠ some .digit) : c.toLower.isLower :=
  forall_ascii (P := fun c ↦ (LetterKind.of? c).isSome → LetterKind.of? c ≠ some .digit →
    c.toLower.isLower) (by decide +kernel) hascii hkind hletter

/-- No word goes on from a letter to a digit, or from a digit to a letter. -/
theorem LetterKind.digit_iff_of_endsBetween {kind next : LetterKind} {after : Option LetterKind}
    (h : kind.endsBetween next after = false) : kind = .digit ↔ next = .digit := by
  cases kind <;> cases next <;> simp_all [endsBetween]

/-! ### Pieces have letters only or digits only -/

/-- There is always a piece, if only an empty one. -/
theorem pieces_ne_nil (s : List Char) : pieces s ≠ [] := by
  induction s with
  | nil => exact List.cons_ne_nil _ _
  | cons c rest ih =>
    rw [pieces]
    split
    · exact List.cons_ne_nil _ _
    · split
      · exact List.cons_ne_nil _ _
      · simpa [List.modifyHead_eq_nil_iff] using ih

theorem pieces_cons_of_none {c : Char} (h : LetterKind.of? c = none) (rest : List Char) :
    pieces (c :: rest) = [] :: pieces rest := by
  rw [pieces, h]

/-- The first piece begins with the first character, unless that is a separator. -/
theorem exists_pieces_cons_of_some {c : Char} {kind : LetterKind} (h : LetterKind.of? c = some kind)
    (rest : List Char) : ∃ more others, pieces (c :: rest) = (c :: more) :: others := by
  rw [pieces, h]
  obtain ⟨first, others, hpieces⟩ := List.exists_cons_of_ne_nil (pieces_ne_nil rest)
  rw [hpieces]
  dsimp only
  split
  · exact ⟨[], _, rfl⟩
  · exact ⟨first, others, rfl⟩

/-- Letters only or digits only. -/
def Uniform (piece : List Char) : Prop :=
  (∀ c ∈ piece, LetterKind.of? c = some .digit) ∨ ∀ c ∈ piece, LetterKind.of? c ≠ some .digit

theorem uniform_nil : Uniform [] :=
  .inl (List.forall_mem_nil _)

theorem uniform_singleton (c : Char) : Uniform [c] :=
  (em (LetterKind.of? c = some .digit)).imp List.forall_mem_singleton.2 List.forall_mem_singleton.2

/-- A character of the same kind keeps a piece of one kind. -/
theorem Uniform.cons {c d : Char} {piece : List Char} (h : Uniform (d :: piece))
    (hsame : LetterKind.of? c = some .digit ↔ LetterKind.of? d = some .digit) :
    Uniform (c :: d :: piece) := by
  rcases h with h | h
  · exact .inl (List.forall_mem_cons.2 ⟨hsame.2 (h d List.mem_cons_self), h⟩)
  · exact .inr (List.forall_mem_cons.2 ⟨fun hc ↦ h d List.mem_cons_self (hsame.1 hc), h⟩)

/-- **No piece has both letters and digits.** -/
theorem uniform_of_mem_pieces (s : List Char) : ∀ piece ∈ pieces s, Uniform piece := by
  induction s with
  | nil => exact List.forall_mem_singleton.2 uniform_nil
  | cons c rest ih =>
    rw [pieces]
    split <;> rename_i hkind
    · exact List.forall_mem_cons.2 ⟨uniform_nil, ih⟩
    split <;> rename_i hends
    · exact List.forall_mem_cons.2 ⟨uniform_singleton c, ih⟩
    rcases rest with - | ⟨d, rest⟩
    · exact List.forall_mem_singleton.2 (uniform_singleton c)
    rcases hnext : LetterKind.of? d with - | next
    · rw [pieces_cons_of_none hnext] at ih ⊢
      exact List.forall_mem_cons.2 ⟨uniform_singleton c, (List.forall_mem_cons.1 ih).2⟩
    · -- the word goes on, so the two are both digits or both not
      obtain ⟨more, others, hpieces⟩ := exists_pieces_cons_of_some hnext rest
      rw [hpieces, List.forall_mem_cons] at ih
      rw [hpieces, List.modifyHead_cons, List.forall_mem_cons]
      refine ⟨ih.1.cons ?_, ih.2⟩
      rw [endsBefore, hnext] at hends
      rw [hkind, hnext, Option.some_inj, Option.some_inj]
      exact LetterKind.digit_iff_of_endsBetween (Bool.eq_false_iff.2 hends)

/-! ### The words of a text of ASCII -/

/-- The pieces are the text without its separators, in order. -/
theorem flatten_pieces (s : List Char) :
    (pieces s).flatten = s.filter fun c ↦ (LetterKind.of? c).isSome := by
  induction s with
  | nil => rfl
  | cons c rest ih =>
    rcases hkind : LetterKind.of? c with - | kind
    · rw [pieces_cons_of_none hkind, List.flatten_cons, List.nil_append, ih, List.filter_cons,
        hkind]
      rfl
    · obtain ⟨first, others, hpieces⟩ := List.exists_cons_of_ne_nil (pieces_ne_nil rest)
      rw [List.filter_cons, hkind, Option.isSome_some, if_pos rfl, ← ih, pieces, hkind, hpieces]
      dsimp only
      split <;> rfl

theorem subset_of_mem_pieces {s piece : List Char} (h : piece ∈ pieces s) : piece ⊆ s := by
  intro c hc
  have hflat : c ∈ (pieces s).flatten := List.mem_flatten.2 ⟨piece, h, hc⟩
  rw [flatten_pieces] at hflat
  exact List.mem_of_mem_filter hflat

/-- Lower-casing goes character by character in ASCII. -/
theorem lowercaseFrom_eq_map (before : List Char) {word : List Char}
    (hascii : ∀ c ∈ word, c.toNat < 0x80) : lowercaseFrom before word = word.map Char.toLower := by
  induction word generalizing before with
  | nil => rfl
  | cons c rest ih =>
    obtain ⟨hc, hrest⟩ := List.forall_mem_cons.1 hascii
    have hsigma : c.toNat ≠ 0x3A3 := by omega
    rw [lowercaseFrom, lowercaseAt, if_neg hsigma, lowercaseChar, if_pos hc, ih _ hrest,
      List.map_cons, List.singleton_append]

/-- In ASCII, small letters are found one by one. -/
theorem lowercase_eq_map {word : List Char} (hascii : ∀ c ∈ word, c.toNat < 0x80) :
    lowercase word = word.map Char.toLower :=
  lowercaseFrom_eq_map [] hascii

/-- **The words of a text of ASCII are plain.** -/
theorem isPlainWord_of_mem_kebabWords {text : String} (hascii : IsAscii text) {word : List Char}
    (h : word ∈ kebabWords text) : IsPlainWord word := by
  obtain ⟨source, hsource, rfl⟩ := List.mem_map.1 h
  refine ⟨(kebabWords_spec h).1, ?_⟩
  have hpiece := List.mem_of_mem_filter hsource
  have hkind := kind_of_mem_pieces hpiece
  have hsource (c : Char) (hc : c ∈ source) := hascii c (subset_of_mem_pieces hpiece hc)
  rw [lowercase_eq_map hsource, List.forall_mem_map, List.forall_mem_map]
  refine (uniform_of_mem_pieces _ source hpiece).symm.imp (fun hletter c hc ↦ ?_)
    fun hdigit c hc ↦ ?_
  · exact isLower_toLower (hsource c hc) (hkind c hc) (hletter c hc)
  · exact isDigit_toLower (hsource c hc) (hdigit c hc)

/-! ### Plain words between hyphens -/

namespace IsPlainWord

variable {word : List Char} (h : IsPlainWord word)
include h

/-- All characters of a plain word count as the same, and none of them before a capital. -/
theorem exists_kind : ∃ kind, (kind = .lower ∨ kind = .digit) ∧
    ∀ c ∈ word, LetterKind.of? c = some kind := by
  rcases h.2 with h | h
  · exact ⟨.lower, .inl rfl, fun c hc ↦ (of?_of_isLower (h c hc)).1⟩
  · exact ⟨.digit, .inr rfl, fun c hc ↦ (of?_of_isDigit (h c hc)).1⟩

theorem isAlphanum_of_mem {c : Char} (hc : c ∈ word) : c.isAlphanum := by
  rcases h.2 with h | h
  · have halpha : (c.isUpper || c.isLower) = true := by rw [h c hc, Bool.or_true]
    simp [Char.isAlphanum, show c.isAlpha = true from halpha]
  · simp [Char.isAlphanum, h c hc]

theorem lowercase_eq : lowercase word = word := by
  have hsame (c : Char) (hc : c ∈ word) : c.toNat < 0x80 ∧ c.toLower = c := by
    rcases h.2 with h | h
    · exact ⟨toNat_lt_of_isLower (h c hc), (of?_of_isLower (h c hc)).2⟩
    · exact ⟨toNat_lt_of_isDigit (h c hc), (of?_of_isDigit (h c hc)).2⟩
  rw [lowercase_eq_map fun c hc ↦ (hsame c hc).1]
  exact List.map_congr_left (fun c hc ↦ (hsame c hc).2) |>.trans (List.map_id _)

end IsPlainWord

/-- Characters that count as the same stay together up to what begins a piece of its own. -/
theorem pieces_append {kind : LetterKind} (hkind : kind = .lower ∨ kind = .digit)
    {tail : List Char} {others : List (List Char)} (htail : endsBefore kind tail = false)
    (hpieces : pieces tail = [] :: others) {word : List Char}
    (hword : ∀ c ∈ word, LetterKind.of? c = some kind) :
    pieces (word ++ tail) = word :: others := by
  induction word with
  | nil => exact hpieces
  | cons c rest ih =>
    obtain ⟨hc, hrest⟩ := List.forall_mem_cons.1 hword
    have hgoes : endsBefore kind (rest ++ tail) = false := by
      rcases rest with - | ⟨d, rest⟩
      · exact htail
      · rw [List.cons_append, endsBefore, hrest d List.mem_cons_self]
        rcases hkind with rfl | rfl <;> rfl
    rw [List.cons_append, pieces, hc]
    simp only [hgoes, Bool.false_eq_true, if_false]
    rw [ih hrest, List.modifyHead_cons]

/-- The first piece, if it is not empty, is the first word. -/
theorem words_eq_cons {s tail word : List Char} (hne : word ≠ [])
    (hpieces : pieces s = word :: pieces tail) : words s = word :: words tail := by
  rw [words, words, hpieces, List.filter_cons, if_pos]
  simpa using hne

/-- **Plain words between hyphens are found again.** -/
theorem words_intercalate {parts : List (List Char)} (h : ∀ part ∈ parts, IsPlainWord part) :
    words (['-'].intercalate parts) = parts := by
  have hhyphen : LetterKind.of? '-' = none := by decide +kernel
  induction parts with
  | nil => rfl
  | cons part rest ih =>
    obtain ⟨hpart, hrest⟩ := List.forall_mem_cons.1 h
    obtain ⟨kind, hkind, hsame⟩ := hpart.exists_kind
    rcases rest with - | ⟨next, rest⟩
    · have hpieces : pieces (part ++ []) = part :: [] := pieces_append hkind rfl rfl hsame
      rw [List.append_nil] at hpieces
      rw [List.intercalate_singleton, words, hpieces, List.filter_cons, if_pos, List.filter_nil]
      simpa using hpart.1
    · have hends (tail : List Char) : endsBefore kind ('-' :: tail) = false := by
        rw [endsBefore, hhyphen]
      rw [List.intercalate_cons_cons, List.append_assoc, List.singleton_append,
        words_eq_cons hpart.1 (pieces_append hkind (hends _) (pieces_cons_of_none hhyphen _) hsame),
        ih hrest]

/-- **Plain words between hyphens are their own kebab case.** -/
theorem kebabCase_intercalate {parts : List (List Char)} (h : ∀ part ∈ parts, IsPlainWord part) :
    kebabCase (String.ofList (['-'].intercalate parts)) =
      String.ofList (['-'].intercalate parts) := by
  have hsame : parts.map lowercase = parts :=
    (List.map_congr_left fun part hpart ↦ (h part hpart).lowercase_eq).trans (List.map_id _)
  refine String.toList_injective ?_
  rw [toList_kebabCase, kebabWords, String.toList_ofList, words_intercalate h, hsame]

/-! ### The normal form -/

/-- Plain words with one hyphen between any two. There may be no word at all. -/
def IsKebab (text : String) : Prop :=
  ∃ parts : List (List Char), (∀ part ∈ parts, IsPlainWord part) ∧
    text.toList = ['-'].intercalate parts

/-- **Kebab case of ASCII has the form.** -/
theorem isKebab_kebabCase {text : String} (h : IsAscii text) : IsKebab (kebabCase text) :=
  ⟨kebabWords text, fun _ hword ↦ isPlainWord_of_mem_kebabWords h hword, toList_kebabCase text⟩

/-- **What has the form is its own kebab case.** -/
theorem IsKebab.kebabCase_eq {text : String} (h : IsKebab text) : kebabCase text = text := by
  obtain ⟨parts, hparts, htext⟩ := h
  rw [← String.ofList_toList (s := text), htext]
  exact kebabCase_intercalate hparts

/-- **Kebab case of ASCII is its own kebab case.** -/
theorem kebabCase_kebabCase {text : String} (h : IsAscii text) :
    kebabCase (kebabCase text) = kebabCase text :=
  (isKebab_kebabCase h).kebabCase_eq

/-! ### Letters and digits -/

/-- A choice among the characters that leaves out the separator is one among those of the parts. -/
theorem filter_intercalate {α : Type} {p : α → Bool} {separator : List α}
    (hseparator : separator.filter p = []) (parts : List (List α)) :
    (separator.intercalate parts).filter p = parts.flatten.filter p := by
  induction parts with
  | nil => rfl
  | cons part rest ih =>
    rcases rest with - | ⟨next, rest⟩
    · simp
    · rw [List.intercalate_cons_cons, List.filter_append, List.filter_append, hseparator,
        List.append_nil, ih, List.flatten_cons (l := part), List.filter_append]

/-- In ASCII, the characters of words are the letters and digits. -/
theorem isSome_of?_eq {c : Char} (hascii : c.toNat < 0x80) :
    (LetterKind.of? c).isSome = c.isAlphanum :=
  forall_ascii (P := fun c ↦ (LetterKind.of? c).isSome = c.isAlphanum) (by decide +kernel) hascii

/-- The words are the letters and digits of a text of ASCII, in order. -/
theorem flatten_words {text : String} (h : IsAscii text) :
    (words text.toList).flatten = text.toList.filter Char.isAlphanum := by
  have hwords : (words text.toList).flatten = (pieces text.toList).flatten :=
    List.flatten_filter_not_isEmpty
  rw [hwords, flatten_pieces]
  exact List.filter_congr fun c hc ↦ isSome_of?_eq (h c hc)

/-- **Kebab case keeps the letters and digits of ASCII**, in lower case. -/
theorem filter_isAlphanum_kebabCase {text : String} (h : IsAscii text) :
    (kebabCase text).toList.filter Char.isAlphanum =
      (text.toList.filter Char.isAlphanum).map Char.toLower := by
  have hlower : kebabWords text = (words text.toList).map (List.map Char.toLower) := by
    refine List.map_congr_left fun word hword ↦ lowercase_eq_map fun c hc ↦ ?_
    exact h c (subset_of_mem_pieces (List.mem_of_mem_filter hword) hc)
  have hall : ∀ c ∈ (kebabWords text).flatten, c.isAlphanum := by
    intro c hc
    obtain ⟨word, hword, hc⟩ := List.mem_flatten.1 hc
    exact (isPlainWord_of_mem_kebabWords h hword).isAlphanum_of_mem hc
  rw [toList_kebabCase, filter_intercalate (by decide), List.filter_eq_self.2 hall, hlower,
    ← List.map_flatten, flatten_words h]

/-- **Kebab case is a normal form for texts of ASCII.** It makes plain words with single hyphens
between them out of a text, neither loses nor adds nor moves a letter or digit, and leaves every
text of the form as it is, its own results among them. -/
theorem kebabCase_normalizes {text : String} (h : IsAscii text) :
    IsKebab (kebabCase text) ∧
      (kebabCase text).toList.filter Char.isAlphanum =
        (text.toList.filter Char.isAlphanum).map Char.toLower ∧
      (∀ other : String, IsKebab other → kebabCase other = other) ∧
      kebabCase (kebabCase text) = kebabCase text :=
  ⟨isKebab_kebabCase h, filter_isAlphanum_kebabCase h, fun _ hother ↦ hother.kebabCase_eq,
    kebabCase_kebabCase h⟩

/-- An acronym, a separator and a digit; and the words that come out. -/
theorem kebabCase_normalizes_acronym :
    IsAscii "XMLHttp request/2" ∧ kebabCase "XMLHttp request/2" = "xml-http-request-2" ∧
      IsKebab "xml-http-request-2" ∧
      kebabCase "xml-http-request-2" = "xml-http-request-2" ∧
      (kebabCase "XMLHttp request/2").toList.filter Char.isAlphanum =
        ("XMLHttp request/2".toList.filter Char.isAlphanum).map Char.toLower := by
  have hascii : IsAscii "XMLHttp request/2" := by decide
  have hkebab : kebabCase "XMLHttp request/2" = "xml-http-request-2" := by decide +kernel
  obtain ⟨hform, hletters, hfixed, -⟩ := kebabCase_normalizes hascii
  rw [hkebab] at hform
  exact ⟨hascii, hkebab, hform, hfixed _ hform, hletters⟩

end GlobalStyles.Text
