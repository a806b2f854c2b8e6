import GlobalStyles.Selector

/-!
# Nested author CSS

The `css` text of a scope is written relative to the scope: bare declarations apply to the scope
itself, and `&` stands for its selector. There is one level of nesting; whatever else the text holds
passes through as it is.
-/

namespace GlobalStyles.Nesting

/-- What stands between two `&`: with an opening brace it is a nested rule, whose selector is what
stands before the brace; without one it is a run of declarations, which makes a rule if it is not
blank. -/
def expandPart (selector : String) (part : List Char) : List Char :=
  let suffix := part.takeWhile (· != '\x7b')
  let body := part.dropWhile (· != '\x7b')
  if body.isEmpty then
    let declarations := Text.trim part
    if declarations.isEmpty then [] else selector.toList ++ '\x7b' :: declarations ++ ['\x7d']
  else (Selector.append selector (String.ofList suffix)).toList ++ Text.trimEnd body

/-- The rules of a nested text for a selector. -/
def expand (css selector : String) : String :=
  String.ofList ((css.toList.splitOn '&').flatMap (expandPart selector))

end GlobalStyles.Nesting
