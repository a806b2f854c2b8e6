/-!
# Rules

What a stylesheet is made of: selectors with declarations. A rule always has declarations; where
there are none, `Rule.make` gives no rule.

Rules differ in how they are spaced and in whether the last declaration is terminated. That is part
of a rule, so that a list of rules determines its text.
-/

namespace GlobalStyles

/-- A property with its value. -/
structure Declaration where
  property : String
  value : String
  deriving DecidableEq

/-- The text of a declaration. -/
def Declaration.text (d : Declaration) : String :=
  d.property ++ ": " ++ d.value

/-- The text of a declaration without a blank. -/
def Declaration.tightText (d : Declaration) : String :=
  d.property ++ ":" ++ d.value

/-- The spacing of a rule. -/
inductive RuleShape where
  /-- `a{p: v;q: w;}` -/
  | terminated
  /-- `a{p: v;q: w}` -/
  | unterminated
  /-- `a { p: v; q: w; }` -/
  | spaced
  /-- `a { p:v;q:w; }` -/
  | tight
  deriving DecidableEq

/-- A selector with its declarations. -/
structure Rule where
  selector : String
  declarations : List Declaration
  shape : RuleShape
  deriving DecidableEq

namespace Rule

/-- The rule of some declarations; none of no declarations. -/
def make (shape : RuleShape) (selector : String) (declarations : List Declaration) : List Rule :=
  if declarations.isEmpty then [] else [⟨selector, declarations, shape⟩]

/-- What stands between the braces. -/
def body (rule : Rule) : String :=
  match rule.shape with
  | .terminated => ";".intercalate (rule.declarations.map Declaration.text) ++ ";"
  | .unterminated => ";".intercalate (rule.declarations.map Declaration.text)
  | .spaced => " " ++ "; ".intercalate (rule.declarations.map Declaration.text) ++ "; "
  | .tight => " " ++ ";".intercalate (rule.declarations.map Declaration.tightText) ++ "; "

/-- What stands between the selector and the opening brace. -/
def gap (rule : Rule) : String :=
  match rule.shape with
  | .terminated => ""
  | .unterminated => ""
  | .spaced => " "
  | .tight => " "

/-- The text of a rule. -/
def text (rule : Rule) : String :=
  rule.selector ++ rule.gap ++ "\x7b" ++ rule.body ++ "\x7d"

/-- The text of some rules. -/
def textOfAll (rules : List Rule) : String :=
  String.join (rules.map text)

/-- No rule is made of nothing, and one rule of anything else. -/
theorem mem_make_iff {shape : RuleShape} {selector : String} {declarations : List Declaration}
    {rule : Rule} :
    rule ∈ make shape selector declarations ↔
      declarations ≠ [] ∧ rule = ⟨selector, declarations, shape⟩ := by
  rcases declarations with _ | ⟨first, rest⟩ <;> simp [make]

end Rule

end GlobalStyles
