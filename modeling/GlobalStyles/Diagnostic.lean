import Std.Data.HashSet

/-!
# Diagnostics

Missing data never stops a compilation. What had to be skipped or guessed is reported instead, in
the order of first report and each problem once.

The collection keeps the problems twice, as a list for their order and as a set to find out quickly
whether one is new.
-/

namespace GlobalStyles

/-- A problem that does not stop a compilation. -/
inductive Diagnostic where
  /-- A token names a preset that no settings define; `scope` is the block it was found in. -/
  | unresolvedReference (token : String) (scope : Option String)
  /-- A scope has styles or settings, but the registry does not know it. -/
  | registryMismatch (scope : String)
  deriving DecidableEq, Hashable

/-- The wording of a problem. -/
def Diagnostic.message : Diagnostic → String
  | unresolvedReference token _ => "reference '" ++ token ++ "' does not resolve to a known preset"
  | registryMismatch scope => "scope '" ++ scope ++ "' has styles but no selector registry entry"

/-- An ordered collection of different problems. -/
structure Diagnostics where
  entries : List Diagnostic
  seen : Std.HashSet Diagnostic

namespace Diagnostics

/-- A collection without problems. -/
def empty : Diagnostics := ⟨[], ∅⟩

/-- Add a problem, unless it is there. -/
def report (diagnostics : Diagnostics) (diagnostic : Diagnostic) : Diagnostics :=
  if diagnostics.seen.contains diagnostic then diagnostics
  else ⟨diagnostics.entries ++ [diagnostic], diagnostics.seen.insert diagnostic⟩

/-- Add problems in order. -/
def reportAll (diagnostics : Diagnostics) (reports : List Diagnostic) : Diagnostics :=
  reports.foldl report diagnostics

/-- The number of different problems. -/
def size (diagnostics : Diagnostics) : Nat :=
  diagnostics.entries.length

/-- Whether there is no problem. -/
def isEmpty (diagnostics : Diagnostics) : Bool :=
  diagnostics.entries.isEmpty

/-- The problems in order, each once. -/
def toList (diagnostics : Diagnostics) : List Diagnostic :=
  diagnostics.entries

/-- The problems of some reports. -/
def ofReports (reports : List Diagnostic) : Diagnostics :=
  reportAll empty reports

end Diagnostics

end GlobalStyles
