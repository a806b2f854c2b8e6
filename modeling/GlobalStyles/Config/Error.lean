/-!
# What can go wrong with a configuration

A value of the wrong shape is never an error: it is read as an empty branch. Only a text that is no
JSON, a layer that nests too deeply and a variation that is not there are refused.
-/

namespace GlobalStyles

/-- Why a configuration is refused. -/
inductive ConfigError where
  | notJson
  /-- The keys down to the branch that is too deep. -/
  | nestingTooDeep (path : List String)
  | unknownVariation (name : String)
  deriving DecidableEq

namespace ConfigError

/-- The most keys that may lead to a value of a layer. -/
def maxDepth : Nat := 64

/-- The wording of an error. -/
def message : ConfigError → String
  | notJson => "configuration is not valid JSON"
  | nestingTooDeep path =>
    "configuration is circular or nested too deeply at '" ++ ".".intercalate path ++ "' (limit "
      ++ toString maxDepth ++ ")"
  | unknownVariation name => "style variation '" ++ name ++ "' is not defined"

end ConfigError

end GlobalStyles
