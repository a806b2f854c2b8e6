import GlobalStyles.Proofs.Json.Inherited

/-!
# What holds throughout a value

A norm asks something of every string and of every entry of an object, and `Json.Meets` says that a
value does so at every depth, inside arrays too. What is read from such a value meets the norm, and
so does every object that is put together from its parts; so a consumer that only selects, moves and
takes out members can be followed through all its steps.

An entry is judged by its key and, where its value is a string, by that text. What stands inside an
object under a key is judged on its own, so it can be exchanged for something else that meets the
norm. No key has to be different from the others: a norm is about all entries, and not about those
that a look-up finds.
-/

namespace GlobalStyles.Json

/-- What is asked of strings, and of entries by their key and the text of their value. -/
structure Norm where
  text : String → Prop
  entry : String → Option String → Prop

mutual

/-- Every string and entry inside this value is as the norm asks. -/
def Meets (norm : Norm) : Json → Prop
  | str s => norm.text s
  | arr items => ItemsMeet norm items
  | obj fields => FieldsMeet norm fields
  | _ => True

/-- Every item meets the norm. -/
def ItemsMeet (norm : Norm) : List Json → Prop
  | [] => True
  | item :: rest => Meets norm item ∧ ItemsMeet norm rest

/-- Every entry is as the norm asks, and its value meets it. -/
def FieldsMeet (norm : Norm) : List (String × Json) → Prop
  | [] => True
  | (key, value) :: rest =>
    (norm.entry key value.text? ∧ Meets norm value) ∧ FieldsMeet norm rest

end

variable {norm : Norm}

theorem itemsMeet_iff (items : List Json) :
    ItemsMeet norm items ↔ ∀ item ∈ items, item.Meets norm := by
  induction items with
  | nil => simp [ItemsMeet]
  | cons item rest ih => simp [ItemsMeet, ih]

/-- An object meets a norm when each entry is as the norm asks. -/
theorem meets_obj_iff (fields : Fields) :
    (obj fields).Meets norm ↔
      ∀ entry ∈ fields, norm.entry entry.1 entry.2.text? ∧ entry.2.Meets norm := by
  rw [Meets]
  induction fields with
  | nil => simp [FieldsMeet]
  | cons entry rest ih => simp [FieldsMeet, ih]

/-- What is asked of an entry: that its key and text are as the norm asks, and that its value meets
the norm. -/
def Norm.Accepts (norm : Norm) (key : String) (value : Json) : Prop :=
  norm.entry key value.text? ∧ value.Meets norm

/-- To meet a norm is a property that objects share with their entries. -/
theorem Norm.inherited (norm : Norm) : Inherited (Meets norm) norm.Accepts where
  null := trivial
  obj_iff := meets_obj_iff
  value h := h.2
  exchange h hothers := ⟨h.1, hothers⟩

namespace Meets

/-! ### What is read -/

/-- The entries of what meets a norm are as it asks. -/
theorem of_mem_entries {tree : Json} (h : tree.Meets norm) {entry : String × Json}
    (hmem : entry ∈ tree.entries) : norm.entry entry.1 entry.2.text? ∧ entry.2.Meets norm :=
  norm.inherited.of_mem_entries h hmem

/-- The items of an array meet the norm. -/
theorem of_mem_items {tree item : Json} {items : List Json} (h : tree.Meets norm)
    (hitems : tree.items? = some items) (hmem : item ∈ items) : item.Meets norm := by
  cases tree with
  | arr all =>
    cases hitems
    exact (itemsMeet_iff items).1 h item hmem
  | _ => cases hitems

theorem of_member? {tree value : Json} {key : String} (h : tree.Meets norm)
    (hmember : tree.member? key = some value) : norm.entry key value.text? ∧ value.Meets norm :=
  norm.inherited.of_member? h hmember

/-- A member meets the norm, a missing one as well. -/
theorem child {tree : Json} (h : tree.Meets norm) (key : String) : (tree.child key).Meets norm :=
  norm.inherited.child h key

/-- What a look-up finds meets the norm. -/
theorem of_get? {tree value : Json} {path : List String} (h : tree.Meets norm)
    (hget : tree.get? path = some value) : value.Meets norm :=
  norm.inherited.of_get? h hget

/-- A string that meets a norm is a text as the norm asks. -/
theorem text {tree : Json} (h : tree.Meets norm) {text : String} (htext : tree.text? = some text) :
    norm.text text := by
  cases tree with
  | str s =>
    cases htext
    exact h
  | _ => cases htext

/-! ### What is put together -/

/-- Writing at the end of a path, whose keys may stand over anything. -/
theorem set {tree value : Json} {path : List String} (h : tree.Meets norm)
    (hpath : ∀ key ∈ path, ∀ text, norm.entry key text) (hvalue : value.Meets norm) :
    (tree.set path value).Meets norm :=
  norm.inherited.set h (fun key hkey _ hother ↦ ⟨hpath key hkey _, hother⟩) hvalue

end Meets

end GlobalStyles.Json
