import GlobalStyles.Proofs.Entries
import GlobalStyles.Proofs.Json.Agreement

/-!
# Changes at the end of a path

`Json.modify` changes the value at the end of a path where there is one, and touches nothing else.
What a look-up finds afterwards depends on how its path lies to that of the change: a look-up that
parts from it sees nothing (`find?_modify_of_diverge`), and one that ends on the way finds a changed
value (`find?_modify_append`).

The change of interest takes a key out of an object (`Json.erase`), all entries under it, which
leaves the order of the others. It shows nowhere but at the key: every other look-up finds something
of the same surface (`surface_find?_modify_erase`).
-/

namespace GlobalStyles.Json

/-- Change the value at the end of a path, if there is one. -/
def modify (f : Json → Json) : List String → Json → Json
  | [], tree => f tree
  | key :: path, tree =>
    match tree.member? key with
    | none => tree
    | some value => obj (Entries.put tree.entries key (modify f path value))

/-- An object without the entries under a key. -/
def erase (key : String) : Json → Json
  | obj fields => obj (fields.filter fun entry ↦ entry.1 ≠ key)
  | other => other

variable {f g : Json → Json}

/-! ### Members -/

theorem modify_of_member?_eq_none {tree : Json} {key : String} (h : tree.member? key = none)
    (path : List String) : tree.modify f (key :: path) = tree := by
  rw [modify, h]

/-- A change along a path is one of the first member on it. -/
theorem modify_of_member? {tree value : Json} {key : String} (h : tree.member? key = some value)
    (path : List String) :
    tree.modify f (key :: path) = obj (Entries.put tree.entries key (value.modify f path)) := by
  rw [modify, h]

theorem member?_modify (key other : String) (path : List String) (tree : Json) :
    (tree.modify f (key :: path)).member? other =
      if other = key then (tree.member? key).map (modify f path) else tree.member? other := by
  rcases hmember : tree.member? key with _ | value
  · rw [modify_of_member?_eq_none hmember]
    split <;> rename_i hkey
    · rw [hkey, hmember, Option.map_none]
    · rfl
  · rw [modify_of_member? hmember, member?_obj]
    split <;> rename_i hkey
    · rw [hkey, Entries.get?_put_self, Option.map_some]
    · exact Entries.get?_put_of_ne _ _ hkey

/-- An erased member is gone, the others stay. -/
theorem member?_erase (key other : String) (tree : Json) :
    (tree.erase key).member? other = if other = key then none else tree.member? other := by
  cases tree with
  | obj fields =>
    rw [erase, member?_obj, member?_obj]
    split <;> rename_i hkey
    · rw [← Option.not_isSome_iff_eq_none, ← Entries.mem_keys_iff, Entries.keys, List.mem_map]
      rintro ⟨entry, hmem, rfl⟩
      have hchosen := (List.mem_filter.1 hmem).2
      exact of_decide_eq_true hchosen hkey
    · exact Entries.get?_filter_of_forall (fun _ ↦ decide_eq_true hkey) fields
  | _ => exact (ite_self none).symm

/-- A change below a member that leaves nothing as it is. -/
theorem child_modify_cons {path : List String} (hnull : null.modify f path = null)
    (key other : String) (tree : Json) :
    (tree.modify f (key :: path)).child other =
      if other = key then (tree.child key).modify f path else tree.child other := by
  rw [child, child, child, member?_modify]
  split <;> rename_i hkey
  · rcases tree.member? key with _ | value
    · exact hnull.symm
    · rfl
  · rfl

theorem child_modify (hnull : f null = null) (key other : String) (tree : Json) :
    (tree.modify f [key]).child other = if other = key then f (tree.child key) else
      tree.child other :=
  child_modify_cons (show null.modify f [] = null from hnull) key other tree

/-- A choice of members that never takes the changed one takes the same. -/
theorem filter_entries_modify {p : String × Json → Bool} {key : String}
    (h : ∀ value, p (key, value) = false) (path : List String) (tree : Json) :
    (tree.modify f (key :: path)).entries.filter p = tree.entries.filter p := by
  rcases hmember : tree.member? key with _ | value
  · rw [modify_of_member?_eq_none hmember]
  · rw [modify_of_member? hmember]
    exact Entries.filter_put_of_forall_not h _ _

theorem child_erase (key other : String) (tree : Json) :
    (tree.erase key).child other = if other = key then null else tree.child other := by
  rw [child, child, member?_erase]
  split <;> rfl

/-! ### Surfaces -/

/-- Only an object has a member, so a change below one leaves an object. -/
theorem surface_modify_cons (key : String) (path : List String) (tree : Json) :
    (tree.modify f (key :: path)).surface = tree.surface := by
  rcases hmember : tree.member? key with _ | value
  · rw [modify_of_member?_eq_none hmember]
  · rw [modify_of_member? hmember]
    cases tree with
    | obj fields => rfl
    | _ => cases hmember

/-- A change below the surface is not seen on it. -/
theorem surface_modify (hf : ∀ tree, (f tree).surface = tree.surface) (path : List String)
    (tree : Json) : (tree.modify f path).surface = tree.surface := by
  cases path with
  | nil => exact hf tree
  | cons key path => exact surface_modify_cons key path tree

/-- An object without a member is still an object. -/
theorem surface_erase (key : String) (tree : Json) : (tree.erase key).surface = tree.surface := by
  cases tree <;> rfl

/-! ### Look-ups -/

/-- A look-up that parts from the path of a change does not see it. -/
theorem find?_modify_of_diverge {path other : List String} (h : ¬path <+: other)
    (hother : ¬other <+: path) (tree : Json) :
    (tree.modify f path).find? other = tree.find? other := by
  induction path generalizing tree other with
  | nil => exact absurd List.nil_prefix h
  | cons key path ih =>
    rcases other with _ | ⟨first, other⟩
    · exact absurd List.nil_prefix hother
    · rw [find?_cons, find?_cons, member?_modify]
      split <;> rename_i hkey
      · rw [List.cons_prefix_cons] at h hother
        rw [hkey, Option.bind_map]
        congr 1
        funext value
        exact ih (fun hpath ↦ h ⟨hkey.symm, hpath⟩) (fun hpath ↦ hother ⟨hkey, hpath⟩) value
      · rfl

/-- A look-up that ends on the way finds the changed value. -/
theorem find?_modify_append (tree : Json) (path rest : List String) :
    (tree.modify f (path ++ rest)).find? path = (tree.find? path).map (modify f rest) := by
  induction path generalizing tree with
  | nil => rfl
  | cons key path ih =>
    rw [List.cons_append, find?_cons, find?_cons, member?_modify, if_pos rfl, Option.bind_map,
      Option.map_bind]
    congr 1
    funext value
    exact ih value

theorem get?_modify_of_diverge {path other : List String} (h : ¬path <+: other)
    (hother : ¬other <+: path) (tree : Json) :
    (tree.modify f path).get? other = tree.get? other := by
  rw [get?, get?, find?_modify_of_diverge h hother]

/-- Above a change, the rest of its path is changed. -/
theorem get?_modify_append (hf : ∀ tree, (f tree).surface = tree.surface) (tree : Json)
    (path rest : List String) :
    (tree.modify f (path ++ rest)).get? path = (tree.get? path).map (modify f rest) := by
  rw [get?, get?, find?_modify_append]
  rcases tree.find? path with _ | value
  · rfl
  · have hnull : (value.modify f rest).isNull = value.isNull := by
      rw [← isNull_surface, surface_modify hf, isNull_surface]
    simp only [Option.map_some, Option.filter_some, hnull]
    split <;> rfl

/-- Only look-ups to or below the changed value see the change, as far as surfaces tell. -/
theorem surface_find?_modify {path other : List String} (h : ¬path <+: other) (tree : Json) :
    ((tree.modify f path).find? other).map surface = (tree.find? other).map surface := by
  by_cases hother : other <+: path
  · obtain ⟨rest, rfl⟩ := hother
    rcases rest with _ | ⟨key, rest⟩
    · exact absurd ⟨[], by rw [List.append_nil, List.append_nil]⟩ h
    · rw [find?_modify_append, Option.map_map]
      congr 1
      funext value
      exact surface_modify_cons key rest value
  · rw [find?_modify_of_diverge h hother]

/-- Where a key was taken out, only look-ups below it see that, as far as surfaces tell. -/
theorem surface_find?_modify_erase (path : List String) {other : List String} {key : String}
    (h : ¬(path ++ [key]) <+: other) (tree : Json) :
    ((tree.modify (erase key) path).find? other).map surface =
      (tree.find? other).map surface := by
  induction path generalizing tree other with
  | nil =>
    rcases other with _ | ⟨first, other⟩
    · exact congrArg some (surface_erase key tree)
    · have hne : first ≠ key := by
        rintro rfl
        exact h (List.cons_prefix_cons.2 ⟨rfl, List.nil_prefix⟩)
      rw [find?_cons, find?_cons, modify, member?_erase, if_neg hne]
  | cons first path ih =>
    rcases other with _ | ⟨second, other⟩
    · exact congrArg some (surface_modify (surface_erase key) _ tree)
    · rw [find?_cons, find?_cons, member?_modify]
      split <;> rename_i hkey
      · rw [List.cons_append, List.cons_prefix_cons] at h
        rw [hkey, Option.bind_map, Option.map_bind, Option.map_bind]
        congr 1
        funext value
        exact ih (fun hpath ↦ h ⟨hkey.symm, hpath⟩) value
      · rfl

/-! ### Changes on changes -/

/-- Only what is done to the value at the end of the path counts. -/
theorem modify_congr {path : List String} {tree : Json}
    (h : ∀ value, tree.find? path = some value → f value = g value) :
    tree.modify f path = tree.modify g path := by
  induction path generalizing tree with
  | nil => exact h tree rfl
  | cons key path ih =>
    rcases hmember : tree.member? key with _ | child
    · rw [modify_of_member?_eq_none hmember, modify_of_member?_eq_none hmember]
    · have hchild : child.modify f path = child.modify g path :=
        ih fun value hvalue ↦ h value (by rw [find?_cons, hmember, Option.bind_some, hvalue])
      rw [modify_of_member? hmember, modify_of_member? hmember, hchild]

theorem modify_modify_self (path : List String) (tree : Json) :
    (tree.modify g path).modify f path = tree.modify (f ∘ g) path := by
  induction path generalizing tree with
  | nil => rfl
  | cons key path ih =>
    rcases hmember : tree.member? key with _ | value
    · rw [modify_of_member?_eq_none hmember, modify_of_member?_eq_none hmember,
        modify_of_member?_eq_none hmember]
    · have hwritten : (tree.modify g (key :: path)).member? key = some (value.modify g path) := by
        rw [member?_modify, if_pos rfl, hmember, Option.map_some]
      rw [modify_of_member? hwritten, modify_of_member? hmember, modify_of_member? hmember, entries,
        Entries.put_put_self, ih]

/-- To change what stands further down is to change what it stands in. -/
theorem modify_append (path rest : List String) (tree : Json) :
    tree.modify f (path ++ rest) = tree.modify (modify f rest) path := by
  induction path generalizing tree with
  | nil => rfl
  | cons key path ih =>
    rcases hmember : tree.member? key with _ | value
    · rw [List.cons_append, modify_of_member?_eq_none hmember, modify_of_member?_eq_none hmember]
    · rw [List.cons_append, modify_of_member? hmember, modify_of_member? hmember, ih]

/-- Putting the value that is there in its place changes nothing. -/
theorem modify_down_self (path : List String) (tree : Json) :
    tree.modify (fun _ ↦ tree.down path) path = tree := by
  induction path generalizing tree with
  | nil => rfl
  | cons key path ih =>
    rcases hmember : tree.member? key with _ | value
    · rw [modify_of_member?_eq_none hmember]
    · have hdown : tree.down (key :: path) = value.down path := by
        rw [down_cons, child, hmember, Option.getD_some]
      rw [modify_of_member? hmember, hdown, ih, Entries.put_of_get? _ hmember]
      cases tree with
      | obj fields => rfl
      | _ => cases hmember

/-- Changes under different members can be made in any order. -/
theorem modify_comm {key other : String} (hne : key ≠ other) (path rest : List String)
    (tree : Json) :
    (tree.modify g (other :: rest)).modify f (key :: path) =
      (tree.modify f (key :: path)).modify g (other :: rest) := by
  have hkey := member?_modify (f := g) other key rest tree
  have hother := member?_modify (f := f) key other path tree
  rw [if_neg hne] at hkey
  rw [if_neg hne.symm] at hother
  rcases hfirst : tree.member? key with _ | first
  · rw [modify_of_member?_eq_none (hkey.trans hfirst), modify_of_member?_eq_none hfirst]
  · rcases hsecond : tree.member? other with _ | second
    · rw [modify_of_member?_eq_none (hother.trans hsecond), modify_of_member?_eq_none hsecond]
    · rw [modify_of_member? (hkey.trans hfirst), modify_of_member? (hother.trans hsecond),
        modify_of_member? hfirst, modify_of_member? hsecond]
      exact congrArg obj (Entries.put_comm hne.symm (Option.isSome_of_eq_some hsecond)
        (Option.isSome_of_eq_some hfirst) _ _)

/-- And so can those under different members further down. -/
theorem modify_append_comm (path : List String) {key other : String} (hne : key ≠ other)
    (first second : List String) (tree : Json) :
    (tree.modify g (path ++ other :: second)).modify f (path ++ key :: first) =
      (tree.modify f (path ++ key :: first)).modify g (path ++ other :: second) := by
  simp only [modify_append, modify_modify_self]
  congr 1
  funext value
  exact modify_comm hne first second value

/-- Writing below a value that is there is a change of that value. -/
theorem set_append {tree : Json} {path : List String} (h : (tree.find? path).isSome)
    (rest : List String) (value : Json) :
    tree.set (path ++ rest) value = tree.modify (·.set rest value) path := by
  induction path generalizing tree with
  | nil => rfl
  | cons key path ih =>
    rw [find?_cons] at h
    rcases hmember : tree.member? key with _ | child
    · rw [hmember] at h
      cases h
    · rw [hmember] at h
      rw [List.cons_append, set, hmember, Option.getD_some, modify_of_member? hmember, ih h]

/-- A key that is taken out anyway can be written to before or not. -/
theorem erase_set_self (key : String) (path : List String) (value tree : Json)
    (h : tree.isObject) : (tree.set (key :: path) value).erase key = tree.erase key := by
  obtain ⟨fields, rfl⟩ := exists_obj h
  rw [set, erase, erase, entries,
    Entries.filter_put_of_forall_not fun _ ↦ by simp]

/-- Another key can be written to before or after. -/
theorem erase_set_of_ne {key other : String} (hne : other ≠ key) (path : List String)
    (value : Json) {tree : Json} (h : tree.isObject) :
    (tree.set (other :: path) value).erase key = (tree.erase key).set (other :: path) value := by
  have hmember := member?_erase key other tree
  obtain ⟨fields, rfl⟩ := exists_obj h
  rw [if_neg hne] at hmember
  rw [set, set, hmember, erase, erase, entries, entries,
    Entries.filter_put_of_forall fun _ ↦ decide_eq_true hne]

end GlobalStyles.Json
