import GlobalStyles.Json.Path

/-!
# What stands under a key

Consumers of a tree read a missing member and a `null` alike. `Json.child` makes that reading a
function: the member under a key, and `null` where there is none. A look-up along a path then goes
from child to child (`Json.get?_cons`), and every way of writing or taking out a member is described
by the children it leaves.

The lemmas on taking out and on choosing members need an object without repeated keys, since what
would show after the first entry of a key is gone is the next one.
-/

namespace GlobalStyles.Json

/-- What stands under a key, `null` where nothing does. -/
def child (tree : Json) (key : String) : Json :=
  (tree.member? key).getD null

@[simp] theorem child_null (key : String) : null.child key = null := rfl

/-- The member of an object, missing as `null`. -/
theorem child_obj (fields : Fields) (key : String) :
    (obj fields).child key = (Entries.get? fields key).getD null := rfl

theorem child_of_not_isObject {tree : Json} (h : tree.isObject = false) (key : String) :
    tree.child key = null := by
  cases tree with
  | obj fields => cases h
  | _ => rfl

theorem child_of_get? {fields : Fields} {key : String} {value : Json}
    (h : Entries.get? fields key = some value) : (obj fields).child key = value := by
  rw [child_obj, h, Option.getD_some]

theorem child_of_get?_eq_none {fields : Fields} {key : String}
    (h : Entries.get? fields key = none) : (obj fields).child key = null := by
  rw [child_obj, h, Option.getD_none]

/-- A child that is an object is a member. -/
theorem get?_of_child_eq_obj {fields members : Fields} {key : String}
    (h : (obj fields).child key = obj members) : Entries.get? fields key = some (obj members) := by
  rw [child_obj] at h
  rcases hget : Entries.get? fields key with _ | value
  · rw [hget] at h
    cases h
  · rw [hget] at h
    exact congrArg some h

/-- A member that is not `null` has its key among the keys. -/
theorem mem_keys_of_child_ne_null {tree : Json} {key : String} (h : tree.child key ≠ null) :
    key ∈ Entries.keys tree.entries := by
  rw [Entries.mem_keys_iff, Option.isSome_iff_ne_none]
  intro hget
  rw [child, member?, hget] at h
  exact h rfl

/-- Induction from the members of objects up. -/
theorem member_induction {motive : Json → Prop}
    (value : ∀ tree : Json, tree.isObject = false → motive tree)
    (object : ∀ fields : Fields,
      (∀ key child, Entries.get? fields key = some child → motive child) → motive (obj fields))
    (tree : Json) : motive tree := by
  induction h : sizeOf tree using Nat.strongRecOn generalizing tree with
  | ind size ih =>
    rcases tree with _ | _ | _ | _ | _ | fields
    case obj =>
      refine object fields fun key child hchild ↦ ih (sizeOf child) ?_ child rfl
      have hentry := List.sizeOf_lt_of_mem (Entries.mem_of_get? hchild)
      simp only [Prod.mk.sizeOf_spec] at hentry
      subst h
      simp only [obj.sizeOf_spec]
      omega
    all_goals exact value _ rfl

/-! ### Look-ups -/

/-- At the empty path stands the tree itself. -/
theorem get?_nil (tree : Json) : tree.get? [] = if tree.isNull then none else some tree := by
  cases tree <;> rfl

@[simp] theorem get?_null (path : List String) : null.get? path = none := by
  cases path <;> rfl

/-- What stands further down, `null` included, stands below the child. -/
theorem find?_cons_cons (tree : Json) (first second : String) (path : List String) :
    tree.find? (first :: second :: path) = (tree.child first).find? (second :: path) := by
  rw [find?_cons, child]
  rcases tree.member? first with - | value <;> rfl

/-- A look-up goes from child to child. -/
theorem get?_cons (tree : Json) (key : String) (path : List String) :
    tree.get? (key :: path) = (tree.child key).get? path := by
  rw [get?, find?_cons, child]
  rcases tree.member? key with - | value
  · exact (get?_null path).symm
  · rfl

/-- A look-up along two paths is one look-up after the other. -/
theorem get?_append (tree : Json) (p q : List String) :
    tree.get? (p ++ q) = (tree.get? p).bind (·.get? q) := by
  induction p generalizing tree with
  | nil =>
    rw [List.nil_append, get?_nil]
    cases tree with
    | null => exact get?_null q
    | _ => rfl
  | cons key p ih => rw [List.cons_append, get?_cons, get?_cons, ih]

/-- A member that a look-up finds is one of the entries. -/
theorem mem_entries_of_get? {tree value : Json} {key : String}
    (h : tree.get? [key] = some value) : (key, value) ∈ tree.entries := by
  obtain ⟨hfind, -⟩ := Option.filter_eq_some_iff.1 h
  rw [find?_cons] at hfind
  obtain ⟨found, hmember, hvalue⟩ := Option.bind_eq_some_iff.1 hfind
  rw [Option.some.inj hvalue] at hmember
  exact Entries.mem_of_get? hmember

/-! ### The end of a path -/

/-- What stands at the end of a path, `null` where nothing does. -/
def down : Json → List String → Json
  | tree, [] => tree
  | tree, key :: path => (tree.child key).down path

@[simp] theorem down_nil (tree : Json) : tree.down [] = tree := rfl

@[simp] theorem down_cons (tree : Json) (key : String) (path : List String) :
    tree.down (key :: path) = (tree.child key).down path := rfl

theorem down_append (tree : Json) (p q : List String) :
    tree.down (p ++ q) = (tree.down p).down q := by
  induction p generalizing tree with
  | nil => rfl
  | cons key p ih => exact ih (tree.child key)

/-- **A look-up is the way down, with `null` as nothing.** -/
theorem get?_eq_down (tree : Json) (path : List String) :
    tree.get? path = if (tree.down path).isNull then none else some (tree.down path) := by
  induction path generalizing tree with
  | nil => exact get?_nil tree
  | cons key path ih => rw [get?_cons, ih, down_cons]

/-- A missing member has no entries, like one that is no object. -/
theorem entries_get? (tree : Json) (key : String) :
    ((tree.get? [key]).map entries).getD [] = (tree.child key).entries := by
  rw [get?_eq_down, down_cons, down_nil]
  cases tree.child key <;> rfl

/-! ### Form -/

/-- The members of a well-formed tree are well formed. -/
theorem wellFormed_child {tree : Json} (h : tree.WellFormed) (key : String) :
    (tree.child key).WellFormed := by
  rcases hmember : tree.member? key with _ | value
  · rw [child, hmember]
    trivial
  · rw [child, hmember]
    exact (fieldsWellFormed_entries h).of_get? hmember

theorem wellFormed_down {tree : Json} (h : tree.WellFormed) (path : List String) :
    (tree.down path).WellFormed := by
  induction path generalizing tree with
  | nil => exact h
  | cons key path ih => exact ih (wellFormed_child h key)

theorem wellFormed_of_get? {tree value : Json} {path : List String} (h : tree.WellFormed)
    (hget : tree.get? path = some value) : value.WellFormed := by
  rw [get?_eq_down] at hget
  split at hget
  · cases hget
  · cases hget
    exact wellFormed_down h path

/-- The items of a well-formed array are well formed. -/
theorem wellFormed_of_mem_items? {tree item : Json} {items : List Json} (h : tree.WellFormed)
    (hitems : tree.items? = some items) (hmem : item ∈ items) : item.WellFormed := by
  cases tree with
  | arr all =>
    obtain rfl : all = items := Option.some.inj hitems
    have hall : ItemsWellFormed all := h
    clear hitems h
    induction all with
    | nil => cases hmem
    | cons first rest ih =>
      rcases List.mem_cons.1 hmem with rfl | hrest
      · exact hall.1
      · exact ih hrest hall.2
  | _ => cases hitems

/-! ### Children of changed objects -/

theorem child_singleton (key other : String) (value : Json) :
    (obj [(key, value)]).child other = if other = key then value else null := by
  rw [child_obj, Entries.get?]
  by_cases h : key = other
  · simp [h]
  · simp [h, Ne.symm h]

/-- A put changes the member under its key. -/
theorem child_put (fields : Fields) (key other : String) (value : Json) :
    (obj (Entries.put fields key value)).child other =
      if other = key then value else (obj fields).child other := by
  rw [child_obj, child_obj]
  split <;> rename_i h
  · rw [h, Entries.get?_put_self]
    rfl
  · rw [Entries.get?_put_of_ne _ _ h]

/-- A removal takes the member under its key. -/
theorem child_swapRemove {fields : Fields} (h : (Entries.keys fields).Nodup) (key other : String) :
    (obj (Entries.swapRemove fields key)).child other =
      if other = key then null else (obj fields).child other := by
  rw [child_obj, Entries.get?_swapRemove h, child_obj]
  split <;> rfl

/-- A choice of members that may look at the key and the value. -/
theorem child_filter {fields : Fields} (h : (Entries.keys fields).Nodup)
    (p : String × Json → Bool) (key : String) :
    (obj (fields.filter p)).child key =
      if p (key, (obj fields).child key) then (obj fields).child key else null := by
  rw [child_obj, child_obj, Entries.get?_filter h]
  rcases Entries.get? fields key with - | value
  · exact (ite_self null).symm
  · rw [Option.filter_some, Option.getD_some]
    split <;> rfl

/-- Writing along a path changes the first member on it. -/
theorem child_set_cons (tree : Json) (key other : String) (path : List String) (value : Json) :
    (tree.set (key :: path) value).child other =
      if other = key then (tree.child key).set path value else tree.child other := by
  rw [set, child_put]
  rfl

/-! ### Writing and reading -/

/-- What was written is found at the end of its path. -/
theorem down_set_append (tree value : Json) (path rest : List String) :
    (tree.set path value).down (path ++ rest) = value.down rest := by
  induction path generalizing tree with
  | nil => rfl
  | cons key path ih => rw [List.cons_append, down_cons, child_set_cons, if_pos rfl, ih]

/-- A path that parts from that of the writing leads to the same as before. -/
theorem down_set_of_diverge {path other : List String} (h : ¬path <+: other)
    (hother : ¬other <+: path) (tree value : Json) :
    (tree.set path value).down other = tree.down other := by
  induction path generalizing tree other with
  | nil => exact absurd List.nil_prefix h
  | cons key path ih =>
    rcases other with _ | ⟨first, other⟩
    · exact absurd List.nil_prefix hother
    · rw [down_cons, down_cons, child_set_cons]
      split <;> rename_i hkey
      · rw [List.cons_prefix_cons] at h hother
        rw [hkey]
        exact ih (fun hpath ↦ h ⟨hkey.symm, hpath⟩) (fun hpath ↦ hother ⟨hkey, hpath⟩) _
      · rfl

/-- What was written is read, unless it is `null`. -/
theorem get?_set_self {value : Json} (h : value ≠ null) (tree : Json) (path : List String) :
    (tree.set path value).get? path = some value := by
  have hdown := down_set_append tree value path []
  rw [List.append_nil, down_nil] at hdown
  rw [get?_eq_down, hdown]
  cases value <;> first | rfl | exact absurd rfl h

/-- What was written is not seen on another path. -/
theorem get?_set_of_diverge {path other : List String} (h : ¬path <+: other)
    (hother : ¬other <+: path) (tree value : Json) :
    (tree.set path value).get? other = tree.get? other := by
  rw [get?_eq_down, get?_eq_down, down_set_of_diverge h hother]

end GlobalStyles.Json
