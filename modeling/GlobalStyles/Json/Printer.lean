import GlobalStyles.Decimal.Layout
import GlobalStyles.Json.Basic

/-!
# JSON text

Two texts of a value: `Json.render` without any blank, and `Json.pretty` with an entry a line. Both
write the entries of an object in their order and share the text of numbers and strings.

The text of a number is also its text in CSS, so `Number.text` stands on its own.
-/

namespace GlobalStyles

/-- Fractions show a point, and are positional while the exponent of their first digit is between
-5 and 15. -/
def Number.layout : Layout := ⟨some (-5), some 15, true⟩

/-- The text of a number. -/
def Number.text : Number → String
  | .int value => toString value
  | .float value => Number.layout.text value

namespace Json

/-! ### Strings -/

/-- A character inside a string: the quote, the backslash and the controls below the blank are
escaped, everything else stands for itself. -/
def escape (c : Char) : List Char :=
  if c = '"' then ['\\', '"']
  else if c = '\\' then ['\\', '\\']
  else if c.toNat = 0x08 then ['\\', 'b']
  else if c.toNat = 0x09 then ['\\', 't']
  else if c.toNat = 0x0A then ['\\', 'n']
  else if c.toNat = 0x0C then ['\\', 'f']
  else if c.toNat = 0x0D then ['\\', 'r']
  else if c.toNat < 0x20 then
    ['\\', 'u', '0', '0', Nat.digitChar (c.toNat / 16), Nat.digitChar (c.toNat % 16)]
  else [c]

/-- A string in quotes. -/
def quote (s : String) : String :=
  String.ofList ('"' :: s.toList.flatMap escape ++ ['"'])

/-! ### Values on one line -/

mutual

/-- The text of a value without blanks. -/
def render : Json → String
  | null => "null"
  | bool b => if b then "true" else "false"
  | num n => n.text
  | str s => quote s
  | arr items => "[" ++ ",".intercalate (renderItems items) ++ "]"
  | obj fields => "\x7b" ++ ",".intercalate (renderFields fields) ++ "\x7d"

/-- The texts of items. -/
def renderItems : List Json → List String
  | [] => []
  | item :: rest => render item :: renderItems rest

/-- The texts of entries, each key with its value after a colon. -/
def renderFields : List (String × Json) → List String
  | [] => []
  | (key, value) :: rest => (quote key ++ ":" ++ render value) :: renderFields rest

end

/-! ### Values over several lines -/

/-- A list in brackets with an entry a line, two blanks deeper than its brackets; an empty one stays
on its line. -/
def spread (opening closing : String) (indent : Nat) (entries : List String) : String :=
  if entries.isEmpty then opening ++ closing
  else
    let margin (n : Nat) : String := "\n" ++ String.ofList (List.replicate n ' ')
    opening ++ margin (indent + 2) ++ ("," ++ margin (indent + 2)).intercalate entries
      ++ margin indent ++ closing

mutual

/-- The text of a value that stands `indent` blanks from the margin. -/
def prettyAt (indent : Nat) : Json → String
  | null => "null"
  | bool b => if b then "true" else "false"
  | num n => n.text
  | str s => quote s
  | arr items => spread "[" "]" indent (prettyItems (indent + 2) items)
  | obj fields => spread "\x7b" "\x7d" indent (prettyFields (indent + 2) fields)

/-- The texts of items at a margin. -/
def prettyItems (indent : Nat) : List Json → List String
  | [] => []
  | item :: rest => prettyAt indent item :: prettyItems indent rest

/-- The texts of entries at a margin. -/
def prettyFields (indent : Nat) : List (String × Json) → List String
  | [] => []
  | (key, value) :: rest => (quote key ++ ": " ++ prettyAt indent value) :: prettyFields indent rest

end

/-- The text of a value with an entry a line. -/
def pretty (value : Json) : String :=
  prettyAt 0 value

end Json

end GlobalStyles
