import GlobalStyles.Json.Scalar
import GlobalStyles.Proofs.Json.Child
import Mathlib.Data.List.Forall2

/-!
# Trees that agree

Two trees agree when the same stands at the end of every path, as far as a look-up tells: the same
scalar, or an object in both, or an array in both, where a `null` and a missing member are one. What
an array holds and the order of an object's members are left open, so a tree agrees with every
reordering of itself and with every tree that has more or fewer entries with `null`.

Most consumers of a style subtree go along paths and look at what stands at the end, so they cannot
tell trees apart that agree. The lemmas here are the two halves of that argument: views of a value
that do not look below its surface (`Agree.congr`), and changes of trees that keep agreement.
-/

namespace GlobalStyles

namespace Json

/-! ### The surface of a value -/

/-- A value without what is inside it. -/
def surface : Json → Json
  | arr _ => arr []
  | obj _ => obj []
  | other => other

/-- The surface of a value shows whether it is `null`. -/
theorem isNull_surface (tree : Json) : tree.surface.isNull = tree.isNull := by
  cases tree <;> rfl

theorem isObject_surface (tree : Json) : tree.surface.isObject = tree.isObject := by
  cases tree <;> rfl

theorem text?_surface (tree : Json) : tree.surface.text? = tree.text? := by
  cases tree <;> rfl

theorem css?_surface (tree : Json) : tree.surface.css? = tree.css? := by
  cases tree <;> rfl

/-- The surface of a value shows whether it counts as true. -/
theorem isTruthy_surface (tree : Json) : tree.surface.isTruthy = tree.isTruthy := by
  cases tree <;> rfl

/-- The text at the end of a path shows on the surface of what stands there. -/
theorem bind_css?_get? (tree : Json) (path : List String) :
    (tree.get? path).bind css? = ((tree.find? path).map surface).bind css? := by
  rw [get?, Option.bind_map]
  rcases tree.find? path with _ | value
  · rfl
  · cases value <;> rfl

/-! ### Agreement -/

/-- The same stands at the end of every path. -/
def Agree (a b : Json) : Prop :=
  ∀ path, (a.down path).surface = (b.down path).surface

namespace Agree

variable {a b v w : Json}

@[refl] theorem refl (a : Json) : Agree a a :=
  fun _ ↦ rfl

/-- To agree is symmetric. -/
theorem symm (h : Agree a b) : Agree b a :=
  fun path ↦ (h path).symm

/-- Values that agree do so member by member. -/
theorem child (h : Agree a b) (key : String) : Agree (a.child key) (b.child key) :=
  fun path ↦ h (key :: path)

/-- Values that agree do so along every path. -/
theorem down (h : Agree a b) (path : List String) : Agree (a.down path) (b.down path) := by
  induction path generalizing a b with
  | nil => exact h
  | cons key path ih => exact ih (h.child key)

/-- Agreement goes from child to child. -/
theorem of_child (h : a.surface = b.surface) (hchild : ∀ key, Agree (a.child key) (b.child key)) :
    Agree a b := by
  rintro (_ | ⟨key, path⟩)
  · exact h
  · exact hchild key path

/-- What looks at the surface alone is the same of trees that agree. -/
theorem congr {α : Type} (h : Agree a b) {view : Json → α}
    (hview : ∀ tree : Json, view tree.surface = view tree) : view a = view b := by
  rw [← hview a, ← hview b]
  exact congrArg view (h [])

/-- Values that agree are `null` or neither is. -/
theorem isNull_eq (h : Agree a b) : a.isNull = b.isNull := h.congr isNull_surface

theorem isObject_eq (h : Agree a b) : a.isObject = b.isObject := h.congr isObject_surface

/-- Values that agree are the same string, if one is a string. -/
theorem text?_eq (h : Agree a b) : a.text? = b.text? := h.congr text?_surface

theorem css?_eq (h : Agree a b) : a.css? = b.css? := h.congr css?_surface

theorem isTruthy_eq (h : Agree a b) : a.isTruthy = b.isTruthy := h.congr isTruthy_surface

/-- Only nothing agrees with nothing. -/
theorem eq_null_iff (h : Agree a b) : a = null ↔ b = null := by
  rw [← isNull_eq_true_iff, ← isNull_eq_true_iff, h.isNull_eq]

/-- Trees that agree are both objects, or neither is. -/
theorem isObject_cases (h : Agree a b) :
    (a.isObject = false ∧ b.isObject = false) ∨
      ∃ fields fields', a = .obj fields ∧ b = .obj fields' := by
  have hsame := h.isObject_eq
  rcases hobject : a.isObject with _ | _
  · exact .inl ⟨rfl, hsame ▸ hobject⟩
  · obtain ⟨fields, hfields⟩ := exists_obj hobject
    obtain ⟨fields', hfields'⟩ := exists_obj (hsame ▸ hobject)
    exact .inr ⟨fields, fields', hfields, hfields'⟩

/-- Look-ups find something in both trees or in none. -/
theorem get?_cases (h : Agree a b) (path : List String) :
    (a.get? path = none ∧ b.get? path = none) ∨
      ∃ v w, a.get? path = some v ∧ b.get? path = some w ∧ Agree v w := by
  rw [get?_eq_down, get?_eq_down, (h.down path).isNull_eq]
  split
  · exact .inl ⟨rfl, rfl⟩
  · exact .inr ⟨_, _, rfl, rfl, h.down path⟩

/-- What is read at the end of a path is the same. -/
theorem bind_get?_eq {α : Type} (h : Agree a b) (path : List String) {f g : Json → Option α}
    (hread : ∀ v w, Agree v w → f v = g w) : (a.get? path).bind f = (b.get? path).bind g := by
  rcases h.get?_cases path with ⟨hnone, hnone'⟩ | ⟨v, w, hsome, hsome', hvalue⟩
  · rw [hnone, hnone']
    rfl
  · rw [hsome, hsome']
    exact hread v w hvalue

/-- A look-up finds something in both or in neither. -/
theorem isSome_get?_eq (h : Agree a b) (path : List String) :
    (a.get? path).isSome = (b.get? path).isSome := by
  rcases h.get?_cases path with ⟨hnone, hnone'⟩ | ⟨v, w, hsome, hsome', -⟩
  · rw [hnone, hnone']
  · rw [hsome, hsome']
    rfl

/-! ### Changes that keep agreement -/

/-- Objects agree when their members do, in whatever order. -/
theorem obj {fs gs : Fields}
    (h : ∀ key, Agree ((Json.obj fs).child key) ((Json.obj gs).child key)) :
    Agree (.obj fs) (.obj gs) :=
  of_child rfl h

/-- Objects with one member agree when its values do. -/
theorem singleton (h : Agree v w) (key : String) :
    Agree (.obj [(key, v)]) (.obj [(key, w)]) := by
  refine obj fun other ↦ ?_
  rw [child_singleton, child_singleton]
  split
  · exact h
  · rfl

/-- Putting values that agree under one key keeps objects in agreement. -/
theorem put {fs gs : Fields} (h : Agree (.obj fs) (.obj gs)) (hvalue : Agree v w) (key : String) :
    Agree (.obj (Entries.put fs key v)) (.obj (Entries.put gs key w)) := by
  refine obj fun other ↦ ?_
  rw [child_put, child_put]
  split
  · exact hvalue
  · exact h.child other

/-- Removing a member keeps them in agreement. -/
theorem swapRemove {fs gs : Fields} (h : Agree (.obj fs) (.obj gs)) (hfs : (Entries.keys fs).Nodup)
    (hgs : (Entries.keys gs).Nodup) (key : String) :
    Agree (.obj (Entries.swapRemove fs key)) (.obj (Entries.swapRemove gs key)) := by
  refine obj fun other ↦ ?_
  rw [child_swapRemove hfs, child_swapRemove hgs]
  split
  · rfl
  · exact h.child other

/-- Writing values that agree at one path keeps trees in agreement. -/
theorem set (h : Agree a b) (path : List String) (hvalue : Agree v w) :
    Agree (a.set path v) (b.set path w) := by
  induction path generalizing a b with
  | nil => exact hvalue
  | cons key path ih =>
    refine of_child rfl fun other ↦ ?_
    rw [child_set_cons, child_set_cons]
    split
    · exact ih (h.child key)
    · exact h.child other

end Agree

end Json

/-! ### Lists that correspond place by place -/

/-- Lists that are put together piece by piece are related when their pieces are. -/
theorem forall₂_flatMap_of_mem {α β γ : Type} {R : β → γ → Prop} {f : α → List β} {g : α → List γ}
    {items : List α} (h : ∀ x ∈ items, List.Forall₂ R (f x) (g x)) :
    List.Forall₂ R (items.flatMap f) (items.flatMap g) := by
  induction items with
  | nil => exact .nil
  | cons item rest ih =>
    rw [List.flatMap_cons, List.flatMap_cons]
    exact List.rel_append (h item List.mem_cons_self)
      (ih fun x hx ↦ h x (List.mem_cons_of_mem item hx))

theorem forall₂_flatMap {α β γ : Type} {R : β → γ → Prop} {f : α → List β} {g : α → List γ}
    (h : ∀ x, List.Forall₂ R (f x) (g x)) (items : List α) :
    List.Forall₂ R (items.flatMap f) (items.flatMap g) :=
  forall₂_flatMap_of_mem fun x _ ↦ h x

/-- What is the same for related elements is the same for related lists. -/
theorem flatMap_eq_of_forall₂ {α β γ : Type} {R : α → β → Prop} {f : α → List γ}
    {g : β → List γ} (h : ∀ x y, R x y → f x = g y) {as : List α} {bs : List β}
    (hall : List.Forall₂ R as bs) : as.flatMap f = bs.flatMap g := by
  induction hall with
  | nil => rfl
  | cons hhead _ ih => rw [List.flatMap_cons, List.flatMap_cons, h _ _ hhead, ih]

theorem perm_flatMap_of_forall₂ {α β γ : Type} {R : α → β → Prop} {f : α → List γ}
    {g : β → List γ} (h : ∀ x y, R x y → (f x).Perm (g y)) {as : List α} {bs : List β}
    (hall : List.Forall₂ R as bs) : (as.flatMap f).Perm (bs.flatMap g) := by
  induction hall with
  | nil => exact .nil
  | cons hhead _ ih =>
    rw [List.flatMap_cons, List.flatMap_cons]
    exact (h _ _ hhead).append ih

end GlobalStyles
