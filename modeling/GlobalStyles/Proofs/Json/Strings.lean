import GlobalStyles.Proofs.Json.Child
import GlobalStyles.Reference.Resolve

/-!
# The strings of a tree

The strings that stand in a tree as values, once for each place. Whatever a look-up finds in a tree
has its strings from there, so no chain of look-ups meets more strings than the tree has
(`Json.stringCount_eq`).
-/

namespace GlobalStyles.Json

/-- Only a string has a text. -/
theorem eq_str_of_text? {value : Json} {text : String} (h : value.text? = some text) :
    value = .str text := by
  cases value with
  | str own => exact congrArg str (Option.some.inj h)
  | _ => cases h

mutual

/-- The strings that stand in a value, keys not counted. -/
def strings : Json → List String
  | str text => [text]
  | arr items => stringsOfItems items
  | obj fields => stringsOfFields fields
  | _ => []

/-- The strings that stand in items. -/
def stringsOfItems : List Json → List String
  | [] => []
  | item :: rest => strings item ++ stringsOfItems rest

/-- The strings that stand in the values of entries. -/
def stringsOfFields : List (String × Json) → List String
  | [] => []
  | (_, value) :: rest => strings value ++ stringsOfFields rest

end

mutual

/-- The count of strings is the length of their list. -/
theorem stringCount_eq : (tree : Json) → tree.stringCount = tree.strings.length
  | .str _ => rfl
  | .arr items => stringCountItems_eq items
  | .obj fields => stringCountFields_eq fields
  | .null => rfl
  | .bool _ => rfl
  | .num _ => rfl

theorem stringCountItems_eq :
    (items : List Json) → stringCountItems items = (stringsOfItems items).length
  | [] => rfl
  | item :: rest => by
    rw [stringCountItems, stringsOfItems, List.length_append, stringCount_eq item,
      stringCountItems_eq rest]

theorem stringCountFields_eq :
    (fields : List (String × Json)) →
      stringCountFields fields = (stringsOfFields fields).length
  | [] => rfl
  | (_, value) :: rest => by
    rw [stringCountFields, stringsOfFields, List.length_append, stringCount_eq value,
      stringCountFields_eq rest]

end

/-- The strings of an item are among those of the array. -/
theorem strings_subset_of_mem_items? {tree item : Json} {items : List Json}
    (hitems : tree.items? = some items) (hmem : item ∈ items) : item.strings ⊆ tree.strings := by
  cases tree with
  | arr all =>
    obtain rfl : all = items := Option.some.inj hitems
    show item.strings ⊆ stringsOfItems all
    clear hitems
    induction all with
    | nil => cases hmem
    | cons first rest ih =>
      rw [stringsOfItems]
      rcases List.mem_cons.1 hmem with rfl | hrest
      · exact List.subset_append_left _ _
      · exact List.subset_append_of_subset_right _ (ih hrest)
  | _ => cases hitems

/-- The strings of a member are among those of the object. -/
theorem strings_subset_of_member? {tree value : Json} {key : String}
    (h : tree.member? key = some value) : value.strings ⊆ tree.strings := by
  cases tree with
  | obj fields =>
    have hmem := Entries.mem_of_get? h
    show value.strings ⊆ stringsOfFields fields
    clear h
    induction fields with
    | nil => cases hmem
    | cons entry rest ih =>
      rw [stringsOfFields]
      rcases List.mem_cons.1 hmem with rfl | hrest
      · exact List.subset_append_left _ _
      · exact List.subset_append_of_subset_right _ (ih hrest)
  | _ => cases h

/-- The strings of a member that may be missing are among those of the tree. -/
theorem strings_child_subset (tree : Json) (key : String) :
    (tree.child key).strings ⊆ tree.strings := by
  rw [child]
  rcases hmember : tree.member? key with _ | value
  · exact List.nil_subset _
  · exact strings_subset_of_member? hmember

/-- What a look-up finds has its strings from the tree. -/
theorem strings_subset_of_get? {tree value : Json} {path : List String}
    (h : tree.get? path = some value) : value.strings ⊆ tree.strings := by
  induction path generalizing tree with
  | nil =>
    rw [get?_nil] at h
    split at h
    · cases h
    · cases h
      exact List.Subset.refl _
  | cons key path ih =>
    rw [get?_cons] at h
    exact List.Subset.trans (ih h) (strings_child_subset tree key)

end GlobalStyles.Json
