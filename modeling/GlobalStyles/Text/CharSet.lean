/-!
# Sets of characters

A property of characters is a list of evenly spaced runs of code points. Looking a character up goes
through the runs, so a caller that mostly sees ASCII asks about that first. All tables of this kind
follow version 17.0 of Unicode.
-/

namespace GlobalStyles

/-- The code points `first`, `first + step`, … up to `last`. -/
structure CharRun where
  first : Nat
  last : Nat
  step : Nat

namespace CharRun

/-- Whether a code point is in the run. -/
def contains (run : CharRun) (code : Nat) : Bool :=
  run.first ≤ code && code ≤ run.last && (code - run.first) % run.step == 0

end CharRun

/-- A set of characters as runs of code points. -/
abbrev CharSet := List CharRun

namespace CharSet

/-- Whether a character is in one of the runs. -/
def contains (set : CharSet) (c : Char) : Bool :=
  set.any fun run ↦ run.contains c.toNat

end CharSet

end GlobalStyles
