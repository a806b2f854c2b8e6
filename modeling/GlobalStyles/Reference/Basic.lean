import GlobalStyles.Text.Kebab

/-!
# References

A style value may name a preset or a custom value instead of repeating it. It does so as a token,
`ref:` or `var:` and segments between bars, or in the form that a token compiles to, the `var()` of
a custom property.

Compiling a token puts each segment into kebab case. The custom properties that a token points at
are named by the same function, `Reference.propertyName`.
-/

namespace GlobalStyles

/-- What a reference names. -/
inductive Reference where
  /-- An item of a preset category, by its slug. -/
  | preset (category slug : String)
  /-- A custom value, by the keys that lead to it. -/
  | custom (path : List String)
  deriving DecidableEq

namespace Reference

/-- The segments of a token; a text that is no token has none. -/
def segments? (value : String) : Option (List String) :=
  let body? :=
    ("ref:".toList.isPrefixOf? value.toList).or ("var:".toList.isPrefixOf? value.toList)
  body?.map fun body ↦ (body.splitOn '|').map String.ofList

/-- The name of the custom property for some segments. -/
def propertyName (space : String) (segments : List String) : String :=
  segments.foldl (fun name segment ↦ name ++ "--" ++ Text.kebabCase segment) ("--" ++ space)

/-- A token as a `var()`; every other text stays as it is. -/
def compile (value space : String) : String :=
  match segments? value with
  | some segments => "var(" ++ propertyName space segments ++ ")"
  | none => value

/-- The parts of a text between double hyphens, which are found from the left. -/
def splitDoubleHyphen : List Char → List (List Char)
  | [] => [[]]
  | '-' :: '-' :: rest => [] :: splitDoubleHyphen rest
  | c :: rest => (splitDoubleHyphen rest).modifyHead (c :: ·)

/-- The segments of the `var()` of a custom property. -/
def variableSegments? (value space : String) : Option (List String) := do
  let rest ← ("var(--" ++ space ++ "--").toList.isPrefixOf? value.toList
  let inner ← [')'].isSuffixOf? rest
  return (splitDoubleHyphen inner).map String.ofList

/-- What segments name. -/
def ofSegments? : List String → Option Reference
  | [domain, category, slug] =>
    if domain = "preset" then some (preset category slug)
    else if domain = "custom" then some (custom [category, slug])
    else none
  | domain :: first :: rest => if domain = "custom" then some (custom (first :: rest)) else none
  | _ => none

/-- The reference that a text is, as a token or as a `var()`. -/
def parse? (value space : String) : Option Reference :=
  match segments? value with
  | some segments => ofSegments? segments
  | none => (variableSegments? value space).bind ofSegments?

end Reference

end GlobalStyles
