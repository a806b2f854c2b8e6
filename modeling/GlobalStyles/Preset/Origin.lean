/-!
# Where a preset comes from

The items of a preset category stand in three catalogs, one per origin. Everything that is emitted
goes through the origins in the order of `Origin.all`, so the last one wins in the cascade; a
look-up that stops at the first match goes through them the other way.
-/

namespace GlobalStyles

/-- The provenance of a preset catalog. -/
inductive Origin where
  /-- Comes with the host application. -/
  | default
  /-- Comes with the theme. -/
  | theme
  /-- Made by the user. -/
  | custom
  deriving DecidableEq

namespace Origin

/-- The origins in the order in which they are emitted. -/
def all : List Origin := [.default, .theme, .custom]

/-- The origins from the strongest to the weakest. -/
def byPriority : List Origin := all.reverse

/-- The key of an origin's catalog. -/
def key : Origin → String
  | .default => "default"
  | .theme => "theme"
  | .custom => "custom"

/-- The origin with this key. -/
def ofKey? (key : String) : Option Origin :=
  all.find? (·.key == key)

/-- The list of origins is complete. -/
theorem mem_all (origin : Origin) : origin ∈ all := by
  cases origin <;> decide

/-- An origin is found by its key. -/
theorem ofKey?_key (origin : Origin) : ofKey? origin.key = some origin := by
  cases origin <;> decide

end Origin

end GlobalStyles
