import GlobalStyles.Json.Reader

/-!
# Typed reading

A registry or a layout definition has a fixed form and is refused when it departs from it. The same
rules read it from a tree and from the document of a text, through the `View` that each gives of its
outermost level. In a document a record's member that stands twice is an error, and what a record
does not know is passed over unread; a tree has no member twice.

A record may also be written as an array of its members in order, of which the last ones may be
missing.
-/

namespace GlobalStyles

/-- The outermost level of a value. A string or key that stands for no text is `none`. -/
inductive View (α : Type) where
  | null
  | bool (value : Bool)
  | num
  | str (text : Option String)
  | arr (items : List α)
  | obj (fields : List (Option String × α))

/-- Values that can be looked at level by level. -/
class Viewed (α : Type) where
  /-- The outermost level. -/
  view : α → View α

instance : Viewed Json where
  view
    | .null => .null
    | .bool b => .bool b
    | .num _ => .num
    | .str s => .str (some s)
    | .arr items => .arr items
    | .obj fields => .obj (fields.map fun (key, value) ↦ (some key, value))

instance : Viewed Document where
  view
    | .null => .null
    | .bool b => .bool b
    | .num _ => .num
    | .str pieces => .str (Piece.text? pieces)
    | .arr items => .arr items
    | .obj fields => .obj (fields.map fun (key, value) ↦ (Piece.text? key, value))

namespace Decode

variable {α β : Type} [Viewed α]

/-- A string. -/
def text? (value : α) : Option String :=
  match Viewed.view value with
  | .str text => text
  | _ => none

/-- A boolean. -/
def bool? (value : α) : Option Bool :=
  match Viewed.view value with
  | .bool b => some b
  | _ => none

/-- `null`, or what `read` reads. -/
def nullable? (read : α → Option β) (value : α) : Option (Option β) :=
  match Viewed.view value with
  | .null => some none
  | _ => (read value).map some

/-- The items of an array. -/
def list? (read : α → Option β) (value : α) : Option (List β) :=
  match Viewed.view value with
  | .arr items => items.mapM read
  | _ => none

/-- A key that is a text, with its value read. -/
def keyed? {α : Type} (read : α → Option β) (entry : Option String × α) : Option (String × β) :=
  do return (← entry.1, ← read entry.2)

/-- The entries of an object. Every one has to be readable; of a key that stands twice the last
value is kept, in the place of the first. -/
def entries? (read : α → Option β) (value : α) : Option (Entries β) :=
  match Viewed.view value with
  | .obj fields =>
    (fields.mapM (keyed? read)).map Entries.ofList
  | _ => none

/-- The only value under a key, if there is one; the key may not stand twice. -/
def member? (fields : List (String × α)) (key : String) : Option (Option α) :=
  match fields.filter fun entry ↦ entry.1 == key with
  | [] => some none
  | [entry] => some (some entry.2)
  | _ => none

/-- The members of a record under these keys; a member may be missing. -/
def record? (keys : List String) (value : α) : Option (List (Option α)) :=
  match Viewed.view value with
  | .obj fields => do
    let fields ← fields.mapM (keyed? some)
    keys.mapM (member? fields)
  | .arr items =>
    if items.length ≤ keys.length then
      some (items.map some ++ List.replicate (keys.length - items.length) none)
    else none
  | _ => none

/-- A member read with `read`, or the default where it is missing. -/
def memberOr? (read : α → Option β) (default : β) : Option α → Option β
  | none => some default
  | some value => read value

end Decode

end GlobalStyles
