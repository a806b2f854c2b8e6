import GlobalStyles.Json.Path
import GlobalStyles.Json.Scalar
import GlobalStyles.Reference.Basic

/-!
# Block gaps

The gap between the blocks of a container: whether there is one at all, and its value in CSS.
-/

namespace GlobalStyles

/-- What is known about gaps in a compilation. -/
structure GapSupport where
  /-- Whether the theme supports block gaps. -/
  blockGap : Bool
  /-- Whether a block may fall back to the gap of the registry. -/
  fallbackGap : Bool

namespace GapSupport

/-- Blocks fall back exactly when block gaps are off. -/
def ofBlockGap (blockGap : Bool) : GapSupport :=
  ⟨blockGap, !blockGap⟩

/-- The gap of a root that has none of its own. -/
def rootFallback : String := "0.5em"

/-- The gap of one direction. -/
def side? (value : Json) (space key : String) : Option String :=
  ((value.get? [key]).bind Json.css?).map (Reference.compile · space)

/-- The value of a gap. An object gives a row and a column, of which one is enough, and which are
written once when they agree. -/
def css? (value : Json) (space : String) : Option String :=
  match value with
  | .obj _ =>
    match side? value space "top", side? value space "left" with
    | some row, some column => some (if row = column then row else row ++ " " ++ column)
    | some row, none => some row
    | none, column => column
  | other => (other.css?.filter (· ≠ "")).map (Reference.compile · space)

end GapSupport

end GlobalStyles
