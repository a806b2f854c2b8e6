import GlobalStyles.Proofs.Json.Child

/-!
# Properties that objects share with their entries

Some properties of values are decided by the entries of objects: an object has the property exactly
if each of its entries is as it should be, and it does not matter whether there are more or fewer of
them. `Json.Inherited` names such a property together with what is asked of entries. What is read
from a value with the property has it too, and so has every object that is put together from its
parts. So a consumer that only selects, moves and takes out members can be followed through all its
steps, whatever the property is.

An entry whose value is an object may hold any other object with the property. No key has to be
different from the others: the property is about all entries, and not about those that a look-up
finds.
-/

namespace GlobalStyles.Json

/-- A property of values that an object has exactly if its entries are as they should be. -/
structure Inherited (P : Json → Prop) (E : String → Json → Prop) : Prop where
  null : P .null
  obj_iff (fields : Fields) : P (.obj fields) ↔ ∀ entry ∈ fields, E entry.1 entry.2
  value {key : String} {value : Json} : E key value → P value
  exchange {key : String} {members others : Fields} :
    E key (.obj members) → P (.obj others) → E key (.obj others)

namespace Inherited

variable {P : Json → Prop} {E : String → Json → Prop} (hP : Inherited P E)
include hP

/-! ### What is read -/

/-- The entries of a value have what they share with it. -/
theorem of_mem_entries {tree : Json} (h : P tree) {entry : String × Json}
    (hmem : entry ∈ tree.entries) : E entry.1 entry.2 := by
  cases tree with
  | obj fields => exact (hP.obj_iff fields).1 h entry hmem
  | _ => exact absurd hmem List.not_mem_nil

theorem of_member? {tree value : Json} {key : String} (h : P tree)
    (hmember : tree.member? key = some value) : E key value :=
  hP.of_mem_entries h (Entries.mem_of_get? hmember)

/-- A member has the property, a missing one because `null` has it. -/
theorem child {tree : Json} (h : P tree) (key : String) : P (tree.child key) := by
  rw [Json.child]
  rcases hmember : tree.member? key with _ | value
  · exact hP.null
  · exact hP.value (hP.of_member? h hmember)

/-- Everything further down has the property. -/
theorem down {tree : Json} (h : P tree) (path : List String) : P (tree.down path) := by
  induction path generalizing tree with
  | nil => exact h
  | cons key path ih => exact ih (hP.child h key)

/-- What a look-up finds has the property. -/
theorem of_get? {tree value : Json} {path : List String} (h : P tree)
    (hget : tree.get? path = some value) : P value := by
  rw [get?_eq_down] at hget
  split at hget
  · cases hget
  · cases hget
    exact hP.down h path

/-! ### What is put together -/

/-- An object that is left with some of its entries keeps the property. -/
theorem of_subset {fields left : Fields} (h : P (.obj fields)) (hsub : left ⊆ fields) :
    P (.obj left) :=
  (hP.obj_iff left).2 fun entry hmem ↦ (hP.obj_iff fields).1 h entry (hsub hmem)

theorem filter {fields : Fields} (h : P (.obj fields)) (p : String × Json → Bool) :
    P (.obj (fields.filter p)) :=
  hP.of_subset h List.filter_sublist.subset

theorem swapRemove {fields : Fields} (h : P (.obj fields)) (key : String) :
    P (.obj (Entries.swapRemove fields key)) :=
  hP.of_subset h (Entries.swapRemove_subset fields key)

/-- An object keeps the property when an entry is put in that has what is asked of entries. -/
theorem put {fields : Fields} {key : String} {value : Json} (h : P (.obj fields))
    (hentry : E key value) : P (.obj (Entries.put fields key value)) := by
  refine (hP.obj_iff _).2 fun entry hmem ↦ ?_
  rcases Entries.mem_put hmem with hmem | rfl
  · exact (hP.obj_iff fields).1 h entry hmem
  · exact hentry

/-- An object of one such entry has the property. -/
theorem singleton {key : String} {value : Json} (hentry : E key value) : P (.obj [(key, value)]) :=
  (hP.obj_iff _).2 (List.forall_mem_singleton.2 hentry)

/-- The entries of a value that has the property make an object that has it. -/
theorem obj_entries {tree : Json} (h : P tree) : P (.obj tree.entries) :=
  (hP.obj_iff _).2 fun _ hmem ↦ hP.of_mem_entries h hmem

/-- Writing at the end of a path, whose keys may stand over anything with the property. -/
theorem set {tree value : Json} {path : List String} (h : P tree)
    (hpath : ∀ key ∈ path, ∀ other, P other → E key other) (hvalue : P value) :
    P (tree.set path value) := by
  induction path generalizing tree with
  | nil => exact hvalue
  | cons key path ih =>
    obtain ⟨hkey, hpath⟩ := List.forall_mem_cons.1 hpath
    exact hP.put (hP.obj_entries h) (hkey _ (ih (hP.child h key) hpath))

end Inherited

end GlobalStyles.Json
