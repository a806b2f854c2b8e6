import GlobalStyles.Json.Decode
import GlobalStyles.Selector

/-!
# The selector registry

The host knows which scopes there are and what CSS each of them stands for. It says so in a JSON
object of scopes.

The order of features and of variations decides the order of rules, so two entries that differ in it
are different. Elements are looked up by name alone and are kept in the order of their names; inside
a split feature, and among the scopes, the order does not count either.
-/

namespace GlobalStyles

/-- The selector of a style feature of a scope. -/
inductive FeatureSelector where
  /-- One selector for the whole feature. -/
  | whole (selector : String)
  /-- Selectors for parts of the feature; that of `root` stands for the parts not named. -/
  | split (selectors : Entries String)
  deriving DecidableEq

/-- What the host says about a scope. -/
structure BlockSelectors where
  /-- The selector of the scope, which may be a list. -/
  selector : String
  /-- Selectors for elements inside the scope, in the order of their names. -/
  elementSelectors : Entries String
  /-- The selector that duotone filters go to. -/
  duotoneSelector : Option String
  /-- Whether the scope gets layout rules. -/
  hasLayoutSupport : Bool
  /-- The gap while block gaps are off. -/
  fallbackGap : Option String
  featureSelectors : Entries FeatureSelector
  variationSelectors : Entries String

/-- The scopes that the host knows. -/
abbrev Registry := Entries BlockSelectors

/-! ### Sameness -/

namespace Entries

/-- Whether two lists hold the same values under the same keys, whatever their order. -/
def sameUnordered {α : Type} (same : α → α → Bool) (a b : Entries α) : Bool :=
  a.length == b.length && a.all fun (key, value) ↦ (get? b key).any (same value)

/-- Whether two lists hold the same values under the same keys in the same order. -/
def sameOrdered {α : Type} (same : α → α → Bool) : Entries α → Entries α → Bool
  | [], [] => true
  | (k, v) :: a, (l, w) :: b => k == l && same v w && sameOrdered same a b
  | _, _ => false

end Entries

/-- Whether two feature selectors mean the same. -/
def FeatureSelector.same : FeatureSelector → FeatureSelector → Bool
  | whole a, whole b => a == b
  | split a, split b => Entries.sameUnordered (· == ·) a b
  | _, _ => false

namespace BlockSelectors

/-- Nothing is said. -/
def empty : BlockSelectors := ⟨"", [], none, false, none, [], []⟩

/-- An entry that only gives a selector. -/
def ofSelector (selector : String) : BlockSelectors :=
  { empty with selector := selector }

/-- Add a selector for each of some style variations, derived from that of the scope. -/
def withVariations (entry : BlockSelectors) (names : List String) : BlockSelectors :=
  { entry with
    variationSelectors := names.foldl
      (fun made name ↦ Entries.put made name (Selector.withVariation name entry.selector))
      entry.variationSelectors }

/-- Whether two entries mean the same. -/
def same (a b : BlockSelectors) : Bool :=
  a.selector == b.selector && a.elementSelectors == b.elementSelectors &&
    a.duotoneSelector == b.duotoneSelector && a.hasLayoutSupport == b.hasLayoutSupport &&
    a.fallbackGap == b.fallbackGap &&
    Entries.sameOrdered FeatureSelector.same a.featureSelectors b.featureSelectors &&
    Entries.sameOrdered (· == ·) a.variationSelectors b.variationSelectors

end BlockSelectors

/-- Whether two registries mean the same. -/
def Registry.same (a b : Registry) : Bool :=
  Entries.sameUnordered BlockSelectors.same a b

end GlobalStyles
