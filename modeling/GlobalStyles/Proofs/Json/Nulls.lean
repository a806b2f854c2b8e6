import GlobalStyles.Proofs.Json.Agreement
import Mathlib.Logic.Relation

/-!
# Entries with `null`

`Json.DropsNull a b` says that `b` is `a` with one entry whose value is `null` taken out of an
object, at any depth, while everything else keeps its place. `Json.DropsNulls` is any number of such
steps. Arrays stay as they are, with what is inside.

Two things follow for well-formed trees. The trees agree, so no look-up tells them apart. And the
keys that have a value stand in the same order at the end of every path (`Json.InOrder`), which is
what the consumers go by that walk through an object.
-/

namespace GlobalStyles.Json

/-! ### Members with a value -/

/-- The entries whose value is not `null`. -/
def live (tree : Json) : Fields :=
  tree.entries.filter fun entry ↦ !entry.2.isNull

/-- Where this holds at a path, the keys that have a value stand in the same order there. -/
def InOrder (a b : Json) (path : List String) : Prop :=
  Entries.keys (a.down path).live = Entries.keys (b.down path).live

theorem child_eq_of_mem_live {tree : Json} (h : tree.WellFormed) {entry : String × Json}
    (hmem : entry ∈ tree.live) : tree.child entry.1 = entry.2 := by
  have hget := Entries.get?_of_mem (nodup_keys_entries h) (List.mem_filter.1 hmem).1
  rw [child, member?, hget]
  rfl

/-- Where the keys with a value are in order, the entries with a value stand for the children under
the same keys. -/
theorem forall₂_live {a b : Json} (ha : a.WellFormed) (hb : b.WellFormed)
    (horder : InOrder a b []) :
    List.Forall₂ (fun x y ↦ x.1 = y.1 ∧ x.2 = a.child x.1 ∧ y.2 = b.child x.1) a.live b.live := by
  have hzip : ∀ as bs : Fields, as ⊆ a.live → bs ⊆ b.live → Entries.keys as = Entries.keys bs →
      List.Forall₂ (fun x y ↦ x.1 = y.1 ∧ x.2 = a.child x.1 ∧ y.2 = b.child x.1) as bs := by
    intro as
    induction as with
    | nil =>
      intro bs _ _ hkeys
      rw [List.map_eq_nil_iff.1 hkeys.symm]
      exact .nil
    | cons x rest ih =>
      intro bs has hbs hkeys
      rcases bs with - | ⟨y, rest'⟩
      · cases hkeys
      · obtain ⟨hkey, hkeys⟩ := List.cons.inj hkeys
        refine .cons ⟨hkey, (child_eq_of_mem_live ha (has List.mem_cons_self)).symm, ?_⟩
          (ih rest' (List.subset_of_cons_subset has) (List.subset_of_cons_subset hbs) hkeys)
        rw [hkey, child_eq_of_mem_live hb (hbs List.mem_cons_self)]
  exact hzip _ _ (List.Subset.refl _) (List.Subset.refl _) horder

/-- What says nothing of an entry with `null` says of an object what it says of the others. -/
theorem flatMap_live {α : Type} (tree : Json) {read : String × Json → List α}
    (hread : ∀ key, read (key, null) = []) :
    tree.entries.flatMap read = tree.live.flatMap read := by
  rw [live]
  induction tree.entries with
  | nil => rfl
  | cons entry rest ih =>
    obtain ⟨key, value⟩ := entry
    rw [List.flatMap_cons, ih, List.filter_cons]
    split <;> rename_i hvalue
    · rw [List.flatMap_cons]
    · rw [Bool.not_eq_true', Bool.not_eq_false, isNull_eq_true_iff] at hvalue
      cases hvalue
      rw [hread, List.nil_append]

/-- Writing a value over another one keeps the keys that have one. -/
theorem keys_live_put {fields : Fields} {key : String} {value : Json}
    (h : (obj fields).child key ≠ null) (hvalue : value ≠ null) :
    Entries.keys (obj (Entries.put fields key value)).live = Entries.keys (obj fields).live := by
  have hlive {v : Json} (hv : v ≠ null) : (!v.isNull) = true := by
    rw [Bool.not_eq_true', ← Bool.not_eq_true, isNull_eq_true_iff]
    exact hv
  induction fields with
  | nil => exact absurd rfl h
  | cons entry rest ih =>
    obtain ⟨k, v⟩ := entry
    rw [child_obj, Entries.get?] at h
    rw [Entries.put]
    split at h <;> rename_i hkey
    · have hold : (!v.isNull) = true := hlive h
      rw [if_pos hkey]
      simp only [live, Json.entries, Entries.keys, List.filter_cons, hold, hlive hvalue, if_true,
        List.map_cons]
    · rw [if_neg hkey]
      have hrest := ih h
      simp only [live, Json.entries, Entries.keys, List.filter_cons] at hrest ⊢
      split
      · exact congrArg (k :: ·) hrest
      · exact hrest

theorem down_null (path : List String) : null.down path = null := by
  induction path with
  | nil => rfl
  | cons key path ih => exact ih

/-- Writing under a key of the object at the end of a path changes the order at most there. -/
theorem inOrder_set {a b v w : Json} (h : ∀ path, InOrder a b path)
    (hagree : a.Agree b) (hvalue : ∀ path, InOrder v w path) {path : List String}
    (hobject : (a.down path).isObject) (key : String) {other : List String} (hne : other ≠ path) :
    InOrder (a.set (path ++ [key]) v) (b.set (path ++ [key]) w) other := by
  induction path generalizing a b other with
  | nil =>
    rcases other with - | ⟨k, other⟩
    · exact absurd rfl hne
    · rw [InOrder, List.nil_append, down_cons, down_cons, child_set_cons, child_set_cons]
      split
      · exact hvalue other
      · exact h (k :: other)
  | cons step path ih =>
    have hchild : a.child step ≠ null := by
      intro hnull
      rw [down_cons, hnull, down_null] at hobject
      cases hobject
    rcases other with - | ⟨k, other⟩
    · -- above the change, the key on the way to it had a value and keeps one
      have hkept {tree value : Json} (htree : tree.child step ≠ null) :
          Entries.keys (tree.set (step :: (path ++ [key])) value).live = Entries.keys tree.live :=
        keys_live_put htree (by cases path <;> exact Json.noConfusion)
      rw [InOrder, List.cons_append, down_nil, down_nil, hkept hchild,
        hkept (fun hnull ↦ hchild ((hagree.child step).eq_null_iff.2 hnull))]
      exact h []
    · rw [InOrder, List.cons_append, down_cons, down_cons, child_set_cons, child_set_cons]
      split <;> rename_i hstep
      · refine ih (fun path ↦ h (step :: path)) (hagree.child step) hobject fun heq ↦ hne ?_
        rw [hstep, heq]
      · exact h (k :: other)

/-! ### Taking out one entry -/

/-- The second value is the first without one entry that is `null`, at whatever depth. -/
inductive DropsNull : Json → Json → Prop
  | here (before : Fields) (key : String) (after : Fields) :
    DropsNull (.obj (before ++ (key, .null) :: after)) (.obj (before ++ after))
  | inside (before : Fields) (key : String) (after : Fields) {value left : Json}
    (h : DropsNull value left) :
    DropsNull (.obj (before ++ (key, value) :: after)) (.obj (before ++ (key, left) :: after))

/-- The children of an object that has an entry of the key. -/
theorem child_append_cons {before after : Fields} {key : String} {value : Json}
    (h : (Entries.keys (before ++ (key, value) :: after)).Nodup) (other : String) :
    (obj (before ++ (key, value) :: after)).child other =
      if other = key then value else (obj (before ++ after)).child other := by
  rw [child_obj, child_obj]
  split <;> rename_i hkey
  · have hmem : (key, value) ∈ before ++ (key, value) :: after :=
      List.mem_append_right _ List.mem_cons_self
    rw [hkey, Entries.get?_of_mem h hmem, Option.getD_some]
  · rw [Entries.get?_append_cons_of_ne before after value hkey]

/-- An object has no child under a key that stands in another one besides its own. -/
theorem child_append_of_nodup {before after : Fields} {key : String} {value : Json}
    (h : (Entries.keys (before ++ (key, value) :: after)).Nodup) :
    (obj (before ++ after)).child key = null := by
  have hkey : key ∉ Entries.keys (before ++ after) := by
    have hperm : (Entries.keys (before ++ (key, value) :: after)).Perm
        (key :: Entries.keys (before ++ after)) := List.perm_middle.map Prod.fst
    exact (List.nodup_cons.1 (hperm.nodup_iff.1 h)).1
  by_contra hne
  exact hkey (mem_keys_of_child_ne_null hne)

namespace DropsNull

variable {a b : Json}

/-- A dropped `null` is not seen on the surface. -/
theorem surface_eq (h : DropsNull a b) : a.surface = b.surface := by
  cases h <;> rfl

/-- Dropping a `null` inside a value does not make it one. -/
theorem isNull_eq (h : DropsNull a b) : a.isNull = b.isNull := by
  rw [← isNull_surface, h.surface_eq, isNull_surface]

theorem keys_sublist (h : DropsNull a b) :
    (Entries.keys b.entries).Sublist (Entries.keys a.entries) := by
  cases h with
  | here before key after => exact ((List.sublist_cons_self _ after).append_left before).map _
  | inside before key after h =>
    show (List.map Prod.fst (before ++ (key, _) :: after)).Sublist
      (List.map Prod.fst (before ++ (key, _) :: after))
    rw [List.map_append, List.map_append]
    exact .refl _

/-- The keys with a value stay. -/
theorem keys_live (h : DropsNull a b) : Entries.keys a.live = Entries.keys b.live := by
  cases h with
  | here before key after =>
    simp only [live, Json.entries, List.filter_append, List.filter_cons, isNull, Bool.not_true,
      Bool.false_eq_true, if_false]
  | inside before key after h =>
    simp only [live, Json.entries, Entries.keys, List.filter_append, List.filter_cons, h.isNull_eq,
      List.map_append]
    split <;> rfl

theorem wellFormed (h : DropsNull a b) (ha : a.WellFormed) : b.WellFormed := by
  induction h with
  | here before key after =>
    refine ⟨ha.1.sublist (DropsNull.here before key after).keys_sublist, ?_⟩
    refine (fieldsWellFormed_iff _).2 fun entry hmem ↦ (fieldsWellFormed_iff _).1 ha.2 entry ?_
    exact ((List.sublist_cons_self _ after).append_left before).subset hmem
  | inside before key after h ih =>
    have hfields := (fieldsWellFormed_iff _).1 ha.2
    refine ⟨ha.1.sublist (DropsNull.inside before key after h).keys_sublist, ?_⟩
    refine (fieldsWellFormed_iff _).2 fun entry hmem ↦ ?_
    rcases List.mem_append.1 hmem with hmem | hmem
    · exact hfields entry (List.mem_append_left _ hmem)
    · rcases List.mem_cons.1 hmem with rfl | hmem
      · exact ih (hfields _ (List.mem_append_right _ List.mem_cons_self))
      · exact hfields entry (List.mem_append_right _ (List.mem_cons_of_mem _ hmem))

/-- Under a key stands what stood there, or the entry was taken out inside it. -/
theorem child (h : DropsNull a b) (ha : a.WellFormed) (key : String) :
    a.child key = b.child key ∨ DropsNull (a.child key) (b.child key) := by
  have hb := h.wellFormed ha
  cases h with
  | here before k after =>
    refine .inl ?_
    rw [child_append_cons ha.1]
    split <;> rename_i hkey
    · rw [hkey, child_append_of_nodup ha.1]
    · rfl
  | inside before k after h =>
    rw [child_append_cons ha.1, child_append_cons hb.1]
    split
    · exact .inr h
    · exact .inl rfl

/-- Along a path, the `null` is dropped further down or is not there. -/
theorem down (h : DropsNull a b) (ha : a.WellFormed) (path : List String) :
    a.down path = b.down path ∨ DropsNull (a.down path) (b.down path) := by
  induction path generalizing a b with
  | nil => exact .inr h
  | cons key path ih =>
    rcases h.child ha key with heq | hchild
    · rw [down_cons, down_cons, heq]
      exact .inl rfl
    · exact ih hchild (wellFormed_child ha key)

end DropsNull

/-! ### Taking out entries one after the other -/

/-- The second value is the first without some entries that are `null`. -/
def DropsNulls : Json → Json → Prop :=
  Relation.ReflTransGen DropsNull

namespace DropsNulls

variable {a b : Json}

theorem wellFormed (h : DropsNulls a b) (ha : a.WellFormed) : b.WellFormed := by
  induction h with
  | refl => exact ha
  | tail _ hstep ih => exact hstep.wellFormed ih

/-- What no entry with `null` adds to is the same at the end of every path. -/
theorem congr_down {α : Type} (h : DropsNulls a b) (ha : a.WellFormed) {view : Json → α}
    (hview : ∀ v w, DropsNull v w → view v = view w) (path : List String) :
    view (a.down path) = view (b.down path) := by
  induction h with
  | refl => rfl
  | tail hrun hstep ih =>
    rw [ih]
    rcases hstep.down (wellFormed hrun ha) path with heq | hdown
    · rw [heq]
    · exact hview _ _ hdown

/-- No look-up tells the trees apart. -/
theorem agree (h : DropsNulls a b) (ha : a.WellFormed) : a.Agree b :=
  h.congr_down ha fun _ _ ↦ DropsNull.surface_eq

/-- The keys with a value stand in the same order everywhere. -/
theorem inOrder (h : DropsNulls a b) (ha : a.WellFormed) (path : List String) : InOrder a b path :=
  h.congr_down ha (fun _ _ ↦ DropsNull.keys_live) path

/-- The keys that are left at the end of a path are in order. -/
theorem keys_sublist (h : DropsNulls a b) (ha : a.WellFormed) (path : List String) :
    (Entries.keys (b.down path).entries).Sublist (Entries.keys (a.down path).entries) := by
  induction h with
  | refl => exact .refl _
  | tail hrun hstep ih =>
    rcases hstep.down (wellFormed hrun ha) path with heq | hdown
    · rw [← heq]
      exact ih
    · exact hdown.keys_sublist.trans ih

end DropsNulls

end GlobalStyles.Json

namespace GlobalStyles

/-- A choice that leaves aside whatever a list has lost is the same choice from what is left. -/
theorem filter_eq_of_sublist {α : Type} {left items : List α} (h : left.Sublist items)
    (hnodup : items.Nodup) {p : α → Bool} (hp : ∀ item ∈ items, item ∉ left → p item = false) :
    items.filter p = left.filter p := by
  induction h with
  | slnil => rfl
  | @cons left items lost h ih =>
    obtain ⟨hlost, hrest⟩ := List.nodup_cons.1 hnodup
    have hfalse : p lost = false := hp lost List.mem_cons_self fun hmem ↦ hlost (h.subset hmem)
    rw [List.filter_cons, hfalse, if_neg Bool.false_ne_true]
    exact ih hrest fun item hmem ↦ hp item (List.mem_cons_of_mem _ hmem)
  | @cons_cons left items kept h ih =>
    obtain ⟨hkept, hrest⟩ := List.nodup_cons.1 hnodup
    have hsame : items.filter p = left.filter p := by
      refine ih hrest fun item hmem hleft ↦ hp item (List.mem_cons_of_mem _ hmem) ?_
      rintro (- | ⟨-, hmem'⟩)
      · exact hkept hmem
      · exact hleft hmem'
    rw [List.filter_cons, List.filter_cons, hsame]

end GlobalStyles
