import GlobalStyles.Text.Alphabetic
import GlobalStyles.Text.Lowercase
import GlobalStyles.Text.Uppercase

/-!
# Kebab case

The form in which identifiers go into custom property names: lower-case words joined by hyphens.

A text falls into words at every character that is neither a letter nor a digit, and besides
* where a lower-case letter meets an upper-case one (`fontSize` is `font-size`),
* between letters and digits (`white2black` is `white-2-black`),
* before the last capital of a run that begins a new word (`XLarge` is `x-large`).

Letters are those of Unicode, digits those of ASCII. A letter without case counts as lower case.
-/

namespace GlobalStyles.Text

/-- What a character counts as inside a word. -/
inductive LetterKind where
  | lower
  | upper
  | digit
  deriving DecidableEq

namespace LetterKind

/-- The kind of a character; a character that separates words has none. -/
def of? (c : Char) : Option LetterKind :=
  if c.isDigit then some digit
  else if isUppercase c then some upper
  else if isAlphabetic c then some lower
  else none

/-- Whether a word ends between two neighbours, given the kind of what follows them. -/
def endsBetween : LetterKind → LetterKind → Option LetterKind → Bool
  | lower, upper, _ => true
  | upper, upper, next => next == some lower
  | digit, digit, _ => false
  | digit, _, _ => true
  | _, digit, _ => true
  | _, lower, _ => false

end LetterKind

/-- Whether a word ends after a character of this kind, given the text after it. -/
def endsBefore (kind : LetterKind) : List Char → Bool
  | [] => false
  | c :: rest =>
    match LetterKind.of? c with
    | none => false
    | some next => kind.endsBetween next (rest.head?.bind LetterKind.of?)

/-- A text cut at its separators and where words end; some of the pieces may be empty. -/
def pieces : List Char → List (List Char)
  | [] => [[]]
  | c :: rest =>
    match LetterKind.of? c with
    | none => [] :: pieces rest
    | some kind =>
      if endsBefore kind rest then [c] :: pieces rest else (pieces rest).modifyHead (c :: ·)

/-- The words of a text. -/
def words (s : List Char) : List (List Char) :=
  (pieces s).filter fun word ↦ !word.isEmpty

/-- A text in kebab case. -/
def kebabCase (text : String) : String :=
  "-".intercalate ((words text.toList).map fun word ↦ String.ofList (lowercase word))

end GlobalStyles.Text
