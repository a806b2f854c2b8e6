import GlobalStyles.Json.Printer

/-!
# Scalars

What a single value means to an author of styles: whether it switches something on, and the text it
has in CSS.
-/

namespace GlobalStyles.Json

/-- `null`, `false`, zero and the empty string switch nothing on; every other value does. -/
def isTruthy : Json → Bool
  | null => false
  | bool b => b
  | num (.int n) => n != 0
  | num (.float x) => x != 0
  | str s => s != ""
  | arr _ => true
  | obj _ => true

/-- The text of a scalar in CSS. Objects, arrays and `null` have none. -/
def css? : Json → Option String
  | str s => some s
  | num n => some n.text
  | bool b => some (if b then "true" else "false")
  | _ => none

end GlobalStyles.Json
