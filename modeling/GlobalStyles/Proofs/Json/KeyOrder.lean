import GlobalStyles.Proofs.Entries
import GlobalStyles.Proofs.Json.Agreement
import GlobalStyles.Registry.Reader

/-!
# Values up to the order of keys

Two values are the same up to the order of keys if they become equal once the entries of every
object, at every depth and inside arrays too, are put in the order of their keys. So a function does
not see the order of keys if it cannot tell a value from its ordered form, `Json.inKeyOrder`, and
only one value has to be looked at.

Look-ups find in the ordered form what they find in the value, ordered
(`Json.get?_inKeyOrder`). That needs objects without repeated keys, of which putting them in another
order would uncover the next one.
-/

namespace GlobalStyles

namespace Entries

variable {α : Type}

/-- Sorting loses no entry and adds none. -/
theorem sorted_perm (entries : Entries α) : (sorted entries).Perm entries :=
  List.mergeSort_perm entries _

/-- Sorting does not change what is found, while no key stands twice. -/
theorem get?_sorted {entries : Entries α} (h : (keys entries).Nodup) (key : String) :
    get? (sorted entries) key = get? entries key :=
  (get?_perm (sorted_perm entries).symm h key).symm

theorem pairwise_sorted (entries : Entries α) :
    (sorted entries).Pairwise fun a b ↦ a.1 ≤ b.1 := by
  have htrans : ∀ a b c : String × α, decide (a.1 ≤ b.1) → decide (b.1 ≤ c.1) →
      decide (a.1 ≤ c.1) := fun _ _ _ hab hbc ↦
    decide_eq_true (String.le_trans (of_decide_eq_true hab) (of_decide_eq_true hbc))
  have htotal : ∀ a b : String × α, decide (a.1 ≤ b.1) || decide (b.1 ≤ a.1) := fun a b ↦ by
    simpa using String.le_total a.1 b.1
  exact (List.pairwise_mergeSort htrans htotal entries).imp of_decide_eq_true

/-- Without repeated keys, the ordered entries are the same exactly if the entries are, in whatever
order. -/
theorem sorted_eq_iff {a b : Entries α} (h : (keys a).Nodup) :
    sorted a = sorted b ↔ a.Perm b := by
  constructor
  · intro heq
    exact (sorted_perm a).symm.trans (heq ▸ sorted_perm b)
  · intro hperm
    refine List.Perm.eq_of_pairwise ?_ (pairwise_sorted a) (pairwise_sorted b)
      ((sorted_perm a).trans (hperm.trans (sorted_perm b).symm))
    rintro ⟨key, v⟩ ⟨other, w⟩ hv hw hle hge
    obtain rfl : key = other := String.le_antisymm hle hge
    have hfirst := get?_of_mem h ((sorted_perm a).subset hv)
    have hsecond := get?_of_mem h (hperm.symm.subset ((sorted_perm b).subset hw))
    rw [Option.some.inj (hfirst.symm.trans hsecond)]

end Entries

namespace Json

mutual

/-- A value with the entries of every object in the order of their keys. -/
def inKeyOrder : Json → Json
  | arr items => arr (itemsInKeyOrder items)
  | obj fields => obj (Entries.sorted (fieldsInKeyOrder fields))
  | null => null
  | bool b => bool b
  | num n => num n
  | str s => str s

/-- Every item with its entries in order. -/
def itemsInKeyOrder : List Json → List Json
  | [] => []
  | item :: rest => inKeyOrder item :: itemsInKeyOrder rest

/-- Every value of an entry with its own entries in order. -/
def fieldsInKeyOrder : List (String × Json) → List (String × Json)
  | [] => []
  | (key, value) :: rest => (key, inKeyOrder value) :: fieldsInKeyOrder rest

end

/-- Arrays keep their order; their items are put in key order. -/
theorem itemsInKeyOrder_eq (items : List Json) : itemsInKeyOrder items = items.map inKeyOrder := by
  induction items with
  | nil => rfl
  | cons item rest ih => rw [itemsInKeyOrder, ih, List.map_cons]

/-- The values of members are put in key order before the members are. -/
theorem fieldsInKeyOrder_eq (fields : Fields) :
    fieldsInKeyOrder fields = fields.map (Prod.map id inKeyOrder) := by
  induction fields with
  | nil => rfl
  | cons entry rest ih =>
    rw [fieldsInKeyOrder, ih, List.map_cons]
    rfl

/-- Putting values in key order leaves the keys. -/
theorem keys_fieldsInKeyOrder (fields : Fields) :
    Entries.keys (fieldsInKeyOrder fields) = Entries.keys fields := by
  rw [fieldsInKeyOrder_eq, Entries.keys, List.map_map]
  rfl

/-- Two values are the same but for the order of keys. -/
def Reordered (a b : Json) : Prop :=
  a.inKeyOrder = b.inKeyOrder

@[refl] theorem Reordered.refl (tree : Json) : Reordered tree tree :=
  rfl

/-- Objects are the same but for the order of keys if their entries are, in whatever order. -/
theorem reordered_obj_iff {fields others : Fields} (h : (Entries.keys fields).Nodup) :
    (obj fields).Reordered (obj others) ↔
      (fields.map (Prod.map id inKeyOrder)).Perm (others.map (Prod.map id inKeyOrder)) := by
  rw [Reordered, inKeyOrder, inKeyOrder, obj.injEq,
    Entries.sorted_eq_iff (by rwa [keys_fieldsInKeyOrder]), fieldsInKeyOrder_eq,
    fieldsInKeyOrder_eq]

/-! ### Surfaces -/

/-- The surface of a value does not show the order of its keys. -/
theorem surface_inKeyOrder (tree : Json) : tree.inKeyOrder.surface = tree.surface := by
  cases tree <;> rfl

theorem css?_inKeyOrder (tree : Json) : tree.inKeyOrder.css? = tree.css? := by
  cases tree <;> rfl

theorem text?_inKeyOrder (tree : Json) : tree.inKeyOrder.text? = tree.text? := by
  cases tree <;> rfl

/-- An object counts as true in any order. -/
theorem isTruthy_inKeyOrder (tree : Json) : tree.inKeyOrder.isTruthy = tree.isTruthy := by
  cases tree <;> rfl

/-- No order makes a value `null`. -/
theorem isNull_inKeyOrder (tree : Json) : tree.inKeyOrder.isNull = tree.isNull := by
  cases tree <;> rfl

/-- The items of an array, each in key order. -/
theorem items?_inKeyOrder (tree : Json) :
    tree.inKeyOrder.items? = tree.items?.map (List.map inKeyOrder) := by
  cases tree with
  | arr items => rw [inKeyOrder, itemsInKeyOrder_eq]; rfl
  | _ => rfl

/-! ### Look-ups -/

/-- A member of a well-formed tree is found in either order. -/
theorem member?_inKeyOrder {tree : Json} (h : tree.WellFormed) (key : String) :
    tree.inKeyOrder.member? key = (tree.member? key).map inKeyOrder := by
  cases tree with
  | obj fields =>
    rw [inKeyOrder, member?_obj, Entries.get?_sorted (by rw [keys_fieldsInKeyOrder]; exact h.1),
      fieldsInKeyOrder_eq, Entries.get?_map]
    rfl
  | _ => rfl

theorem find?_inKeyOrder {tree : Json} (h : tree.WellFormed) (path : List String) :
    tree.inKeyOrder.find? path = (tree.find? path).map inKeyOrder := by
  induction path generalizing tree with
  | nil => rfl
  | cons key path ih =>
    rw [find?_cons, find?_cons, member?_inKeyOrder h]
    rcases hmember : tree.member? key with _ | value
    · rfl
    · exact ih ((fieldsWellFormed_entries h).of_get? hmember)

theorem child_inKeyOrder {tree : Json} (h : tree.WellFormed) (key : String) :
    tree.inKeyOrder.child key = (tree.child key).inKeyOrder := by
  rw [child, child, member?_inKeyOrder h]
  cases tree.member? key <;> rfl

theorem down_inKeyOrder {tree : Json} (h : tree.WellFormed) (path : List String) :
    tree.inKeyOrder.down path = (tree.down path).inKeyOrder := by
  induction path generalizing tree with
  | nil => rfl
  | cons key path ih => rw [down_cons, down_cons, child_inKeyOrder h, ih (wellFormed_child h key)]

/-- **A look-up finds the same, in order.** -/
theorem get?_inKeyOrder {tree : Json} (h : tree.WellFormed) (path : List String) :
    tree.inKeyOrder.get? path = (tree.get? path).map inKeyOrder := by
  rw [get?_eq_down, get?_eq_down, down_inKeyOrder h, isNull_inKeyOrder]
  split <;> rfl

/-- A value agrees with its ordered form. -/
theorem agree_inKeyOrder {tree : Json} (h : tree.WellFormed) : tree.inKeyOrder.Agree tree := by
  intro path
  rw [down_inKeyOrder h, surface_inKeyOrder]

namespace Reordered

variable {a b : Json} (h : a.Reordered b)
include h

/-- Reordered values are equal in key order. -/
theorem inKeyOrder_eq : a.inKeyOrder = b.inKeyOrder :=
  h

/-- **Reordered trees agree.** -/
theorem agree (ha : a.WellFormed) (hb : b.WellFormed) : a.Agree b := by
  intro path
  rw [← agree_inKeyOrder ha path, h.inKeyOrder_eq]
  exact agree_inKeyOrder hb path

end Reordered

end Json

end GlobalStyles
