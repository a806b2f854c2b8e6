import GlobalStyles.Json.Basic

/-!
# Paths into a tree

A path is a list of keys, and it leads through objects only. `Json.find?` answers what stands at
its end, `null` included; `Json.get?` reads a `null` there as nothing, which is how every consumer
of a configuration reads it. `Json.set` makes the objects it needs on the way.
-/

namespace GlobalStyles.Json

/-- What stands at the end of a path. -/
def find? : Json → List String → Option Json
  | tree, [] => some tree
  | tree, key :: path => (tree.member? key).bind (find? · path)

/-- What stands at the end of a path, `null` counting as nothing. -/
def get? (tree : Json) (path : List String) : Option Json :=
  (tree.find? path).filter fun value ↦ !value.isNull

/-- Put a value at the end of a path. Whatever on the way is no object becomes one, and the empty
path stands for the whole tree. -/
def set : Json → List String → Json → Json
  | _, [], value => value
  | tree, key :: path, value =>
    obj (Entries.put tree.entries key (set ((tree.member? key).getD null) path value))

@[simp] theorem find?_nil (tree : Json) : tree.find? [] = some tree := rfl

@[simp] theorem find?_cons (tree : Json) (key : String) (path : List String) :
    tree.find? (key :: path) = (tree.member? key).bind (find? · path) := rfl

@[simp] theorem set_nil (tree value : Json) : tree.set [] value = value := rfl

@[simp] theorem member?_obj (fields : Fields) (key : String) :
    (obj fields).member? key = Entries.get? fields key := rfl

theorem find?_append (tree : Json) (p q : List String) :
    tree.find? (p ++ q) = (tree.find? p).bind (find? · q) := by
  induction p generalizing tree with
  | nil => rfl
  | cons key p ih =>
    simp only [List.cons_append, find?_cons, Option.bind_assoc]
    congr 1
    funext child
    exact ih child

/-- What was put at the end of a path stands there. -/
theorem find?_set_self (tree : Json) (path : List String) (value : Json) :
    (tree.set path value).find? path = some value := by
  induction path generalizing tree with
  | nil => rfl
  | cons key path ih => simp [set, ih]

/-- Writing a well-formed value into a well-formed tree gives one. -/
theorem wellFormed_set {tree value : Json} (h : tree.WellFormed) (hvalue : value.WellFormed)
    (path : List String) : (tree.set path value).WellFormed := by
  induction path generalizing tree with
  | nil => exact hvalue
  | cons key path ih =>
    refine ⟨Entries.nodup_keys_put (nodup_keys_entries h) _ _,
      (fieldsWellFormed_entries h).put (ih ?_) _⟩
    cases hm : tree.member? key with
    | none => trivial
    | some child => exact (fieldsWellFormed_entries h).of_get? hm

end GlobalStyles.Json
