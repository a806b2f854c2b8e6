import GlobalStyles.Config.Error
import GlobalStyles.Json.Reader

/-!
# Loading a configuration

Any JSON text is a configuration; what it holds is only looked at when it is compiled.
-/

namespace GlobalStyles.Config

/-- The tree of a text. -/
def load (text : String) : Except ConfigError Json :=
  match Json.parse? text with
  | some tree => .ok tree
  | none => .error .notJson

end GlobalStyles.Config
