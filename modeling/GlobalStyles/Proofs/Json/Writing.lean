import GlobalStyles.Proofs.Entries
import GlobalStyles.Proofs.Json.Child

/-!
# Writing at the end of a path

Writing and reading along paths fit together as they do for a place in memory, although a writing
makes every value on its way an object and a look-up takes a `null` for nothing. What was written is
read there, `null` as nothing; a look-up that parts from the path of the writing sees none of it,
whatever was replaced; of two values written at one place the second stays; and writing what stands
there already changes nothing, not even the order of the members (`set_eq_self_iff`).

The first two laws are about what lies at the end of a path and come from `down_set_append` and
`down_set_of_diverge`. The other two are equations between whole trees, order included, so they go
through the entries of one object at a time (`Entries.put_put_self`, `Entries.put_of_get?`).
-/

namespace GlobalStyles.Json

/-- What is read where a value was written, and further down, is read from that value. -/
theorem get?_set_append (tree value : Json) (path rest : List String) :
    (tree.set path value).get? (path ++ rest) = value.get? rest := by
  rw [get?_eq_down, down_set_append, ← get?_eq_down]

/-- A writing below a key changes the child under it. -/
theorem set_cons (tree : Json) (key : String) (path : List String) (value : Json) :
    tree.set (key :: path) value =
      obj (Entries.put tree.entries key ((tree.child key).set path value)) := rfl

/-- **Of two values written at one place the second stays.** -/
theorem set_set_self (tree first second : Json) (path : List String) :
    (tree.set path first).set path second = tree.set path second := by
  induction path generalizing tree with
  | nil => rfl
  | cons key path ih =>
    rw [set_cons (tree.set _ _), child_set_cons, if_pos rfl, ih, set_cons, entries,
      Entries.put_put_self, set_cons]

/-- Writing at a place what stands there changes nothing. -/
theorem set_of_find? {tree value : Json} {path : List String} (h : tree.find? path = some value) :
    tree.set path value = tree := by
  induction path generalizing tree with
  | nil => exact (Option.some.inj h).symm
  | cons key path ih =>
    rw [find?_cons] at h
    obtain ⟨child, hchild, hvalue⟩ := Option.bind_eq_some_iff.1 h
    -- only an object has a member
    cases tree with
    | obj fields =>
      rw [member?_obj] at hchild
      rw [set_cons, child_of_get? hchild, ih hvalue, entries, Entries.put_of_get? fields hchild]
    | _ => cases hchild

/-- **A writing changes nothing exactly if the value stands there already.** -/
theorem set_eq_self_iff {tree value : Json} {path : List String} :
    tree.set path value = tree ↔ tree.find? path = some value := by
  refine ⟨fun h ↦ ?_, set_of_find?⟩
  have hself := find?_set_self tree path value
  rwa [h] at hself

/-- What a look-up finds stands there. -/
theorem find?_of_get? {tree value : Json} {path : List String} (h : tree.get? path = some value) :
    tree.find? path = some value :=
  (Option.filter_eq_some_iff.1 h).1

/-- **Paths are lenses.** What was written is read, a `null` as nothing; what lies on another path
stays; a second writing hides the first; and what was read can be written again without a trace. -/
theorem get?_set_laws (tree : Json) (p q : List String) (v w : Json) :
    (tree.set p v).get? p = (if v.isNull then none else some v) ∧
      (¬p <+: q → ¬q <+: p → (tree.set p v).get? q = tree.get? q) ∧
      (tree.set p v).set p w = tree.set p w ∧
      (tree.get? p = some v → tree.set p v = tree) := by
  have hread := get?_set_append tree v p []
  rw [List.append_nil, get?_nil] at hread
  exact ⟨hread, fun hp hq ↦ get?_set_of_diverge hp hq tree v, set_set_self tree v w p,
    fun h ↦ set_of_find? (find?_of_get? h)⟩

/-- Where a text stands on the way, it gives way to an object, and another branch stays. -/
theorem get?_set_laws_text_on_the_way :
    let tree := obj [("styles", str "oops"), ("title", str "Ink")]
    let colored := tree.set ["styles", "color"] (str "red")
    colored = obj [("styles", obj [("color", str "red")]), ("title", str "Ink")] ∧
      colored.get? ["styles", "color"] = some (str "red") ∧
      colored.get? ["title"] = tree.get? ["title"] ∧
      colored.set ["styles", "color"] null = tree.set ["styles", "color"] null ∧
      tree.set ["title"] (str "Ink") = tree := by
  intro tree colored
  obtain ⟨hread, hother, hagain, -⟩ :=
    get?_set_laws tree ["styles", "color"] ["title"] (str "red") null
  obtain ⟨-, -, -, hself⟩ := get?_set_laws tree ["title"] [] (str "Ink") null
  exact ⟨rfl, hread, hother (by decide) (by decide), hagain, hself rfl⟩

end GlobalStyles.Json
