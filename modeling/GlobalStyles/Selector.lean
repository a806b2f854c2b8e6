import GlobalStyles.Text.Blank

/-!
# Selector lists

A selector may be a list, with commas between its parts. Every operation here works part by part, so
that a list never collapses into one compound.
-/

namespace GlobalStyles.Selector

/-- The parts of a selector list, blanks included. -/
def parts (selector : List Char) : List (List Char) :=
  selector.splitOn ','

/-- Every part of `inner` below every part of `outer`, without the blanks around the parts. -/
def nestParts (outer inner : List Char) : List (List Char) :=
  (parts outer).flatMap fun o ↦ (parts inner).map fun i ↦ Text.trim o ++ ' ' :: Text.trim i

/-- The selector of `inner` below `outer`. -/
def nest (outer inner : String) : String :=
  String.ofList ([',', ' '].intercalate (nestParts outer.toList inner.toList))

/-- A selector with a text after each of its parts. -/
def append (selector suffix : String) : String :=
  String.ofList ([','].intercalate ((parts selector.toList).map (· ++ suffix.toList)))

/-! ### Classes of style variations -/

/-- Whether a character belongs to a compound. Blanks and the colon of a pseudo-selector end it. -/
def inCompound (c : Char) : Bool :=
  !Text.isBlank c && c != ':'

/-- A part with a text after its first compound; a part without a compound stays as it is. -/
def insertAfterCompound (styleClass part : List Char) : List Char :=
  let lead := part.takeWhile fun c ↦ !inCompound c
  let rest := part.dropWhile fun c ↦ !inCompound c
  if rest.isEmpty then part
  else lead ++ rest.takeWhile inCompound ++ styleClass ++ rest.dropWhile inCompound

/-- A selector for one of the style variations of what it selects: each part gets the class of the
variation. -/
def withVariation (variation selector : String) : String :=
  let styleClass := ".is-style-".toList ++ variation.toList
  String.ofList ([','].intercalate ((parts selector.toList).map (insertAfterCompound styleClass)))

end GlobalStyles.Selector
