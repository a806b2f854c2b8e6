import GlobalStyles.Text.Digit

/-!
# The grammar of JSON text

`Document.parse?` reads a text into a `Document`, which keeps everything the grammar lets through:
a key that stands twice, the digits of a number, an escape that is half of a pair. What such a text
means is decided by whoever reads the document: `Json.ofDocument?` reads it as a value, and a typed
reader takes the members it knows and never looks into the rest.

Each step of the reader answers what it read together with what is left, and what is left comes with
the proof that it is shorter. The recursion ends by that length.
-/

namespace GlobalStyles

/-- A piece of a string: a character, or a code unit written as four hexadecimal digits. -/
inductive Piece where
  | char (c : Char)
  | unit (code : Nat)

/-- The digits of a number as they stand. -/
structure Literal where
  negative : Bool
  whole : List Char
  /-- The digits after the point, if there is one. -/
  fraction : Option (List Char)
  /-- Whether the exponent is negative, and its digits. -/
  exponent : Option (Bool × List Char)

/-- A text that follows the grammar. -/
inductive Document where
  | null
  | bool (value : Bool)
  | num (literal : Literal)
  | str (pieces : List Piece)
  | arr (items : List Document)
  | obj (fields : List (List Piece × Document))

namespace Document

/-- What is left of `s` once at least one character is read. -/
abbrev Rest (s : List Char) := { rest : List Char // rest.length < s.length }

/-- A shorter text has shorter rests. -/
def Rest.within {s t : List Char} (rest : Rest s) (h : s.length ≤ t.length) : Rest t :=
  ⟨rest.1, Nat.lt_of_lt_of_le rest.2 h⟩

/-! ### Blanks and literals -/

/-- The four blanks that may stand between tokens. -/
def isBlank (c : Char) : Bool :=
  c == ' ' || c == '\n' || c == '\t' || c == '\r'

/-- The text from the first character that is no blank. -/
def skipBlanks (s : List Char) : List Char :=
  s.dropWhile isBlank

theorem length_dropWhile_le {α : Type} (p : α → Bool) (s : List α) :
    (s.dropWhile p).length ≤ s.length :=
  (s.dropWhile_sublist p).length_le

/-- Behind the blanks there is no more than before. -/
theorem length_skipBlanks_le (s : List Char) : (skipBlanks s).length ≤ s.length :=
  length_dropWhile_le isBlank s

/-- Behind a word there is no more than before it. -/
theorem length_isPrefixOf?_le {word s rest : List Char} (h : word.isPrefixOf? s = some rest) :
    rest.length ≤ s.length := by
  induction word generalizing s with
  | nil =>
    obtain rfl : s = rest := Option.some.inj h
    exact Nat.le_refl _
  | cons w word ih =>
    cases s with
    | nil => cases h
    | cons c s =>
      change (if w == c then word.isPrefixOf? s else none) = some rest at h
      split at h
      · exact Nat.le_succ_of_le (ih h)
      · cases h

/-! ### Numbers -/

/-- The digits a text begins with. -/
def digits (s : List Char) : List Char :=
  s.takeWhile Char.isDigit

/-- The text after the digits it begins with. -/
def afterDigits (s : List Char) : List Char :=
  s.dropWhile Char.isDigit

/-- The digits after a point, and the text after them; a point wants at least one digit. -/
def fraction? : List Char → Option (Option (List Char) × List Char)
  | '.' :: s => if (digits s).isEmpty then none else some (some (digits s), afterDigits s)
  | s => some (none, s)

/-- The exponent, and the text after it; its mark wants at least one digit. -/
def exponent? : List Char → Option (Option (Bool × List Char) × List Char)
  | [] => some (none, [])
  | c :: s =>
    if c = 'e' || c = 'E' then
      let (negative, t) := Text.sign s
      if (digits t).isEmpty then none else some (some (negative, digits t), afterDigits t)
    else some (none, c :: s)

/-- A number without its sign; only the zero itself begins with a zero. -/
def magnitude? (negative : Bool) (s : List Char) : Option (Literal × List Char) := do
  let whole := digits s
  match whole with
  | [] => none
  | '0' :: _ :: _ => none
  | _ =>
    let (fraction, s) ← fraction? (afterDigits s)
    let (exponent, s) ← exponent? s
    some (⟨negative, whole, fraction, exponent⟩, s)

/-- The number a text begins with, and the text after it. -/
def number? : List Char → Option (Literal × List Char)
  | '-' :: s => magnitude? true s
  | s => magnitude? false s

/-- A fraction may be empty, but it is not put back. -/
theorem length_fraction?_le {s rest : List Char} {f : Option (List Char)}
    (h : fraction? s = some (f, rest)) : rest.length ≤ s.length := by
  unfold fraction? at h
  split at h
  · rename_i t
    split at h
    · simp at h
    · simp only [Option.some.injEq, Prod.mk.injEq] at h
      rw [← h.2]
      exact Nat.le_succ_of_le (length_dropWhile_le _ t)
  · simp_all

theorem length_exponent?_le {s rest : List Char} {e : Option (Bool × List Char)}
    (h : exponent? s = some (e, rest)) : rest.length ≤ s.length := by
  cases s with
  | nil => simp_all [exponent?]
  | cons c s =>
    simp only [exponent?] at h
    split at h
    · split at h
      · simp at h
      · simp only [Option.some.injEq, Prod.mk.injEq] at h
        rw [← h.2]
        exact Nat.le_succ_of_le
          (Nat.le_trans (length_dropWhile_le _ _) (Text.length_sign_le s))
    · simp_all

/-- Digits that are there are consumed. -/
theorem length_afterDigits_lt {s : List Char} (h : digits s ≠ []) :
    (afterDigits s).length < s.length := by
  cases s with
  | nil => simp [digits] at h
  | cons c s =>
    by_cases hc : c.isDigit
    · simp only [afterDigits, List.dropWhile_cons, hc, if_true]
      exact Nat.lt_succ_of_le (length_dropWhile_le _ s)
    · simp [digits, hc] at h

/-- A number has at least one digit. -/
theorem length_magnitude?_lt {negative : Bool} {s rest : List Char} {l : Literal}
    (h : magnitude? negative s = some (l, rest)) : rest.length < s.length := by
  simp only [magnitude?] at h
  split at h
  · simp at h
  · simp at h
  · rename_i hne _
    simp only [bind, Option.bind_eq_some_iff, Prod.exists] at h
    obtain ⟨f, t, hf, e, u, he, hl⟩ := h
    simp only [Option.some.injEq, Prod.mk.injEq] at hl
    rw [← hl.2]
    exact Nat.lt_of_le_of_lt (length_exponent?_le he)
      (Nat.lt_of_le_of_lt (length_fraction?_le hf) (length_afterDigits_lt hne))

/-- **Reading a number consumes something**, with or without a sign. -/
theorem length_number?_lt {s rest : List Char} {l : Literal}
    (h : number? s = some (l, rest)) : rest.length < s.length := by
  unfold number? at h
  split at h
  · exact Nat.lt_succ_of_lt (length_magnitude?_lt h)
  · exact length_magnitude?_lt h

/-! ### Strings -/

/-- The code unit of four hexadecimal digits. -/
def unit? (a b c d : Char) : Option Nat := do
  let digits ← [a, b, c, d].mapM Text.hexValue?
  return digits.foldl (fun n digit ↦ n * 16 + digit) 0

/-- What a letter after a backslash stands for. -/
def shortEscape? : Char → Option Char
  | '"' => some '"'
  | '\\' => some '\\'
  | '/' => some '/'
  | 'b' => some (Char.ofNat 0x08)
  | 'f' => some (Char.ofNat 0x0C)
  | 'n' => some '\n'
  | 'r' => some '\r'
  | 't' => some '\t'
  | _ => none

/-- The pieces up to the closing quote, and the text after it. A control character has no place in
a string. -/
def pieces? : (s : List Char) → Option (List Piece × Rest s)
  | [] => none
  | '"' :: s => some ([], ⟨s, by simp⟩)
  | '\\' :: 'u' :: a :: b :: c :: d :: s => do
    let code ← unit? a b c d
    let (pieces, rest) ← pieces? s
    some (.unit code :: pieces, rest.within (by simp; omega))
  | '\\' :: c :: s => do
    let char ← shortEscape? c
    let (pieces, rest) ← pieces? s
    some (.char char :: pieces, rest.within (by simp; omega))
  | c :: s =>
    if c = '\\' || c.toNat < 0x20 then none
    else do
      let (pieces, rest) ← pieces? s
      some (.char c :: pieces, rest.within (by simp))

/-! ### Values -/

/-- The first character that is no blank, and the text after it. -/
def next? (s : List Char) : Option (Char × Rest s) :=
  match h : skipBlanks s with
  | [] => none
  | c :: rest => some (c, ⟨rest, by
      have := length_skipBlanks_le s
      rw [h] at this
      exact this⟩)

/-- The number a text begins with, and the text after it. -/
def literal? (s : List Char) : Option (Literal × Rest s) :=
  match h : number? s with
  | none => none
  | some (literal, rest) => some (literal, ⟨rest, length_number?_lt h⟩)

/-- A value that is one word, by its first letter and the text after that letter. -/
def wordValue? (c : Char) (s : List Char) :
    Option (Document × { rest : List Char // rest.length ≤ s.length }) :=
  let answer (word : List Char) (value : Document) :=
    match h : word.isPrefixOf? s with
    | none => none
    | some rest => some (value, ⟨rest, length_isPrefixOf?_le h⟩)
  if c = 'n' then answer ['u', 'l', 'l'] .null
  else if c = 't' then answer ['r', 'u', 'e'] (.bool true)
  else if c = 'f' then answer ['a', 'l', 's', 'e'] (.bool false)
  else none

mutual

/-- The value a text begins with, after blanks, and the text after it. -/
def value? (s : List Char) : Option (Document × Rest s) := do
  let (c, ⟨t, ht⟩) ← next? s
  if c = '"' then
    let (pieces, rest) ← pieces? t
    some (.str pieces, rest.within (by omega))
  else if c = '[' then
    match next? t with
    | some (']', rest) => some (.arr [], rest.within (by omega))
    | _ =>
      let (items, rest) ← items? t
      some (.arr items, rest.within (by omega))
  else if c = '\x7b' then
    match next? t with
    | some ('\x7d', rest) => some (.obj [], rest.within (by omega))
    | _ =>
      let (fields, rest) ← fields? t
      some (.obj fields, rest.within (by omega))
  else
    match wordValue? c t with
    | some (value, ⟨rest, h⟩) => some (value, ⟨rest, by omega⟩)
    | none =>
      let (literal, rest) ← literal? (c :: t)
      some (.num literal, rest.within ht)
termination_by 2 * s.length

/-- The items up to the closing bracket, of which there is at least one. -/
def items? (s : List Char) : Option (List Document × Rest s) := do
  let (item, ⟨t, ht⟩) ← value? s
  match next? t with
  | some (']', rest) => some ([item], rest.within (by omega))
  | some (',', ⟨u, hu⟩) =>
    let (items, rest) ← items? u
    some (item :: items, rest.within (by omega))
  | _ => none
termination_by 2 * s.length + 1

/-- The entries up to the closing brace, of which there is at least one. -/
def fields? (s : List Char) : Option (List (List Piece × Document) × Rest s) := do
  let (quote, ⟨t, ht⟩) ← next? s
  if quote ≠ '"' then none
  else
    let (key, ⟨u, hu⟩) ← pieces? t
    let (colon, ⟨v, hv⟩) ← next? u
    if colon ≠ ':' then none
    else
      let (value, ⟨w, hw⟩) ← value? v
      match next? w with
      | some ('\x7d', rest) => some ([(key, value)], rest.within (by omega))
      | some (',', ⟨x, hx⟩) =>
        let (fields, rest) ← fields? x
        some ((key, value) :: fields, rest.within (by omega))
      | _ => none
termination_by 2 * s.length + 1

end

/-- The document a text is; nothing but blanks may follow it. -/
def parse? (text : String) : Option Document := do
  let (document, ⟨rest, _⟩) ← value? text.toList
  if (skipBlanks rest).isEmpty then some document else none

end Document

end GlobalStyles
