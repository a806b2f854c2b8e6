import GlobalStyles.Decimal.Nearest
import GlobalStyles.Json.Basic
import GlobalStyles.Json.Document

/-!
# Reading JSON text as a value

`Json.ofDocument?` gives a document its meaning and refuses what has none: a number beyond the
greatest fraction, half of a pair of code units, and nesting of 128 levels or more. Of a key that
stands twice the last value is kept, in the place of the first.

A number without point and exponent is an integer if 64 bits hold it. Every other number goes
through a 64-bit significand and one scaling by a power of ten. Digits that no longer fit the
significand only count towards the exponent, so the last bit of a long number may differ from the
nearest fraction.
-/

namespace GlobalStyles

/-! ### Numbers -/

namespace Literal

/-- The significand after as many of the digits as fit 64 bits, and the digits left over. -/
def accumulate (significand : Nat) : List Char → Nat × List Char
  | [] => (significand, [])
  | c :: rest =>
    let next := Nat.ofDigitChars 10 [c] significand
    if next < Nat.pow 2 64 then accumulate next rest else (significand, c :: rest)

/-- The fraction nearest to a power of ten. -/
def powerOfTen (n : Nat) : Float :=
  nearestDouble (Nat.pow 10 n) 1

/-- A fraction over a power of ten, in steps of at most 308. -/
def scaleDown (f : Float) (n : Nat) : Float :=
  if n ≤ 308 then f / powerOfTen n
  else if f == 0 then f
  else scaleDown (f / powerOfTen 308) (n - 308)
termination_by n

/-- A fraction times a power of ten, unless that is too great. -/
def scaleUp? (f : Float) (n : Nat) : Option Float :=
  if n ≤ 308 then
    let scaled := f * powerOfTen n
    if scaled.isInf then none else some scaled
  else if f == 0 then some f
  else none

/-- A significand times a power of ten. -/
def scaled? (significand : Nat) (exponent : Int) : Option Float :=
  let f := (UInt64.ofNat significand).toFloat
  if 0 ≤ exponent then scaleUp? f exponent.toNat else some (scaleDown f exponent.natAbs)

/-- The magnitude of a number as a fraction. An exponent of more than 31 bits makes zero of every
number that it does not make too great. -/
def magnitude? (literal : Literal) : Option Float :=
  let (whole, surplus) := accumulate 0 literal.whole
  let fraction := literal.fraction.getD []
  let (significand, unread) := accumulate whole fraction
  let shift : Int := (surplus.length : Int) - (fraction.length - unread.length : Nat)
  match literal.exponent with
  | none => scaled? significand shift
  | some (negative, digits) =>
    let size := Nat.ofDigitChars 10 digits 0
    if Nat.pow 2 31 ≤ size then
      if significand = 0 || negative then some 0 else none
    else scaled? significand (if negative then shift - size else shift + size)

/-- The integer a number is, if it has neither point nor exponent and 64 bits hold it. Zero with a
sign is no integer. -/
def integer? (literal : Literal) : Option Int :=
  match literal.fraction, literal.exponent with
  | none, none =>
    let n := Nat.ofDigitChars 10 literal.whole 0
    if literal.negative then
      if 0 < n ∧ n ≤ Nat.pow 2 63 then some (-(n : Int)) else none
    else if n < Nat.pow 2 64 then some n else none
  | _, _ => none

/-- The number a literal stands for. -/
def number? (literal : Literal) : Option Number :=
  match literal.integer? with
  | some n => some (.int n)
  | none => literal.magnitude?.map fun f ↦ .float (if literal.negative then -f else f)

end Literal

/-! ### Strings -/

namespace Piece

/-- The characters of a string's pieces. The two units of a character beyond the first plane stand
next to each other; a half alone stands for nothing. -/
def chars? : List Piece → Option (List Char)
  | [] => some []
  | .char c :: rest => (chars? rest).map (c :: ·)
  | .unit high :: .unit low :: rest =>
    if 0xD800 ≤ high ∧ high < 0xDC00 then
      if 0xDC00 ≤ low ∧ low < 0xE000 then
        (chars? rest).map
          (Char.ofNat (0x10000 + (high - 0xD800) * 0x400 + (low - 0xDC00)) :: ·)
      else none
    else if 0xDC00 ≤ high ∧ high < 0xE000 then none
    else (chars? (.unit low :: rest)).map (Char.ofNat high :: ·)
  | .unit code :: rest =>
    if 0xD800 ≤ code ∧ code < 0xE000 then none
    else (chars? rest).map (Char.ofNat code :: ·)

/-- The text of a string's pieces. -/
def text? (pieces : List Piece) : Option String :=
  (chars? pieces).map String.ofList

end Piece

/-! ### Values -/

namespace Json

mutual

/-- The value a document stands for, with `room` levels of nesting left. -/
def ofDocumentWithin? (room : Nat) : Document → Option Json
  | .null => some .null
  | .bool b => some (.bool b)
  | .num literal => literal.number?.map .num
  | .str pieces => (Piece.text? pieces).map .str
  | .arr items => if room = 0 then none else (ofItems? (room - 1) items).map .arr
  | .obj fields =>
    if room = 0 then none
    else (ofEntries? (room - 1) fields).map fun entries ↦ .obj (Entries.ofList entries)

/-- The values of items. -/
def ofItems? (room : Nat) : List Document → Option (List Json)
  | [] => some []
  | item :: rest => do
    let item ← ofDocumentWithin? room item
    return item :: (← ofItems? room rest)

/-- The keys and values of entries, as they stand. -/
def ofEntries? (room : Nat) : List (List Piece × Document) → Option (List (String × Json))
  | [] => some []
  | (key, value) :: rest => do
    let key ← Piece.text? key
    let value ← ofDocumentWithin? room value
    return (key, value) :: (← ofEntries? room rest)

end

/-- The deepest nesting of arrays and objects a value is read with. -/
def maxDepth : Nat := 127

/-- The value a document stands for. -/
def ofDocument? (document : Document) : Option Json :=
  ofDocumentWithin? maxDepth document

/-- The value of a text. -/
def parse? (text : String) : Option Json :=
  (Document.parse? text).bind ofDocument?

/-! ### What is read is well formed -/

mutual

/-- What a document stands for is well formed, however deep it may be. -/
theorem wellFormed_of_ofDocumentWithin? {room : Nat} :
    ∀ {document : Document} {value : Json},
      ofDocumentWithin? room document = some value → value.WellFormed
  | .null, _, h => by cases h; trivial
  | .bool _, _, h => by cases h; trivial
  | .num _, _, h => by
    obtain ⟨_, _, rfl⟩ := Option.map_eq_some_iff.1 h
    trivial
  | .str _, _, h => by
    obtain ⟨_, _, rfl⟩ := Option.map_eq_some_iff.1 h
    trivial
  | .arr _, _, h => by
    simp only [ofDocumentWithin?] at h
    split at h
    · cases h
    · obtain ⟨items, hitems, rfl⟩ := Option.map_eq_some_iff.1 h
      exact wellFormed_of_ofItems? hitems
  | .obj _, _, h => by
    simp only [ofDocumentWithin?] at h
    split at h
    · cases h
    · obtain ⟨entries, hentries, rfl⟩ := Option.map_eq_some_iff.1 h
      exact wellFormed_obj_ofList (wellFormed_of_ofEntries? hentries)

theorem wellFormed_of_ofItems? {room : Nat} :
    ∀ {items : List Document} {values : List Json},
      ofItems? room items = some values → ItemsWellFormed values
  | [], _, h => by cases h; trivial
  | _ :: _, _, h => by
    simp only [ofItems?, bind, Option.bind_eq_some_iff, pure, Option.some.injEq] at h
    obtain ⟨_, hitem, _, hrest, rfl⟩ := h
    exact ⟨wellFormed_of_ofDocumentWithin? hitem, wellFormed_of_ofItems? hrest⟩

/-- The members of an object are well formed, of which the last of each key counts. -/
theorem wellFormed_of_ofEntries? {room : Nat} :
    ∀ {fields : List (List Piece × Document)} {entries : Fields},
      ofEntries? room fields = some entries → FieldsWellFormed entries
  | [], _, h => by cases h; trivial
  | (_, _) :: _, _, h => by
    simp only [ofEntries?, bind, Option.bind_eq_some_iff, pure, Option.some.injEq] at h
    obtain ⟨_, _, _, hvalue, _, hrest, rfl⟩ := h
    exact ⟨wellFormed_of_ofDocumentWithin? hvalue, wellFormed_of_ofEntries? hrest⟩

end

/-- What is read from a text is well formed. -/
theorem wellFormed_of_parse? {text : String} {value : Json} (h : parse? text = some value) :
    value.WellFormed := by
  obtain ⟨_, _, h⟩ := Option.bind_eq_some_iff.1 h
  exact wellFormed_of_ofDocumentWithin? h

end Json

end GlobalStyles
