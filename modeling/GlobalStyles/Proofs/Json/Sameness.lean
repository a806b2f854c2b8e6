import GlobalStyles.Proofs.Json.KeyOrder
import GlobalStyles.Proofs.Registry.Sameness

/-!
# Values that compare equal

Comparing values does not look at the order of keys. It does not quite look at numbers either: the
two zeros among the fractions compare equal, and they are written differently. Two values that
compare equal are the same up to the order of keys if no two of their numbers differ in that way
(`Json.reordered_of_same`).

To be the same up to the order of keys is a matter of the members one by one
(`Json.reordered_obj_of_get?`), so it survives what is done to members
(`Json.Reordered.set`), and a value has it in common with its ordered form
(`Json.reordered_inKeyOrder`).
-/

namespace GlobalStyles

/-- Without repeated keys, entries are the same in some order if look-ups are. -/
theorem Entries.perm_of_get? {α : Type} {a b : Entries α} (ha : (keys a).Nodup)
    (hb : (keys b).Nodup) (h : ∀ key, get? a key = get? b key) : a.Perm b := by
  refine (List.perm_ext_iff_of_nodup (.of_map _ ha) (.of_map _ hb)).2 fun ⟨key, value⟩ ↦ ⟨?_, ?_⟩
  · intro hmem
    exact mem_of_get? ((h key).symm.trans (get?_of_mem ha hmem))
  · intro hmem
    exact mem_of_get? ((h key).trans (get?_of_mem hb hmem))

namespace Json

/-! ### Ordered forms -/

mutual

/-- A well-formed tree is so in key order. -/
theorem wellFormed_inKeyOrder : ∀ {tree : Json}, tree.WellFormed → tree.inKeyOrder.WellFormed
  | .arr _, h => itemsWellFormed_inKeyOrder h
  | .obj fields, h => by
    have hkeys : (Entries.keys (fieldsInKeyOrder fields)).Nodup := by
      rw [keys_fieldsInKeyOrder]
      exact h.1
    have hvalues := (fieldsWellFormed_iff _).1 (fieldsWellFormed_inKeyOrder h.2)
    have hperm := Entries.sorted_perm (fieldsInKeyOrder fields)
    refine ⟨(hperm.map Prod.fst).nodup_iff.2 hkeys, (fieldsWellFormed_iff _).2 ?_⟩
    exact fun entry hmem ↦ hvalues entry (hperm.subset hmem)
  | .null, _ | .bool _, _ | .num _, _ | .str _, _ => trivial

theorem itemsWellFormed_inKeyOrder : ∀ {items : List Json}, ItemsWellFormed items →
    ItemsWellFormed (itemsInKeyOrder items)
  | [], _ => trivial
  | _ :: _, h => ⟨wellFormed_inKeyOrder h.1, itemsWellFormed_inKeyOrder h.2⟩

/-- Well-formed members are so in key order. -/
theorem fieldsWellFormed_inKeyOrder : ∀ {fields : List (String × Json)}, FieldsWellFormed fields →
    FieldsWellFormed (fieldsInKeyOrder fields)
  | [], _ => trivial
  | _ :: _, h => ⟨wellFormed_inKeyOrder h.1, fieldsWellFormed_inKeyOrder h.2⟩

end

mutual

/-- Putting a value in order once is enough. -/
theorem reordered_inKeyOrder : ∀ {tree : Json}, tree.WellFormed → tree.inKeyOrder.Reordered tree
  | .arr _, h => congrArg arr (itemsReordered_inKeyOrder h)
  | .obj fields, h => by
    have hperm := (Entries.sorted_perm (fieldsInKeyOrder fields)).map (Prod.map id inKeyOrder)
    rw [← fieldsInKeyOrder_eq, ← fieldsInKeyOrder_eq, fieldsReordered_inKeyOrder h.2] at hperm
    have hkeys : (Entries.keys (fieldsInKeyOrder fields)).Nodup := by
      rw [keys_fieldsInKeyOrder]
      exact h.1
    have hkeys' := (hperm.map Prod.fst).nodup_iff.2 hkeys
    exact congrArg obj ((Entries.sorted_eq_iff hkeys').2 hperm)
  | .null, _ | .bool _, _ | .num _, _ | .str _, _ => rfl

theorem itemsReordered_inKeyOrder : ∀ {items : List Json}, ItemsWellFormed items →
    itemsInKeyOrder (itemsInKeyOrder items) = itemsInKeyOrder items
  | [], _ => rfl
  | _ :: _, h => congrArg₂ List.cons (reordered_inKeyOrder h.1) (itemsReordered_inKeyOrder h.2)

theorem fieldsReordered_inKeyOrder : ∀ {fields : List (String × Json)}, FieldsWellFormed fields →
    fieldsInKeyOrder (fieldsInKeyOrder fields) = fieldsInKeyOrder fields
  | [], _ => rfl
  | (_, _) :: _, h =>
    congrArg₂ List.cons (congrArg _ (reordered_inKeyOrder h.1)) (fieldsReordered_inKeyOrder h.2)

end

/-- The entries of the ordered form are the entries in some order, each with its value ordered. -/
theorem perm_entries_inKeyOrder (tree : Json) :
    tree.inKeyOrder.entries.Perm (tree.entries.map (Prod.map id inKeyOrder)) := by
  cases tree with
  | obj fields =>
    rw [inKeyOrder, entries, entries, ← fieldsInKeyOrder_eq]
    exact Entries.sorted_perm _
  | _ => exact .nil

/-! ### Reordered values -/

/-- Objects are the same up to the order of keys if their members are. -/
theorem reordered_obj_of_get? {fields others : Fields} (h : (Entries.keys fields).Nodup)
    (h' : (Entries.keys others).Nodup)
    (hget : ∀ key, (Entries.get? fields key).map inKeyOrder =
      (Entries.get? others key).map inKeyOrder) : (obj fields).Reordered (obj others) := by
  refine (reordered_obj_iff h).2 (Entries.perm_of_get? ?_ ?_ fun key ↦ ?_)
  · rwa [← fieldsInKeyOrder_eq, keys_fieldsInKeyOrder]
  · rwa [← fieldsInKeyOrder_eq, keys_fieldsInKeyOrder]
  · rw [Entries.get?_map, Entries.get?_map, hget]

namespace Reordered

variable {a b : Json} (h : a.Reordered b) (ha : a.WellFormed) (hb : b.WellFormed)
include h

/-- To be reordered is symmetric. -/
theorem symm : b.Reordered a :=
  Eq.symm h

theorem trans {c : Json} (hc : b.Reordered c) : a.Reordered c :=
  Eq.trans h hc

/-- Reordered values have the same keys, in some order. -/
theorem perm_keys : (Entries.keys a.entries).Perm (Entries.keys b.entries) := by
  have hkeys (tree : Json) :
      (Entries.keys tree.inKeyOrder.entries).Perm (Entries.keys tree.entries) := by
    have hperm := (perm_entries_inKeyOrder tree).map Prod.fst
    rwa [List.map_map] at hperm
  have hordered := hkeys a
  rw [h.inKeyOrder_eq] at hordered
  exact hordered.symm.trans (hkeys b)

include ha hb

/-- The members of reordered values are reordered. -/
theorem child (key : String) : (a.child key).Reordered (b.child key) := by
  rw [Reordered, ← child_inKeyOrder ha, ← child_inKeyOrder hb, h.inKeyOrder_eq]

/-- What is found under a key is the same in key order. -/
theorem map_get?_entries (key : String) :
    (Entries.get? a.entries key).map inKeyOrder = (Entries.get? b.entries key).map inKeyOrder := by
  have hmember := member?_inKeyOrder ha key
  rw [h.inKeyOrder_eq, member?_inKeyOrder hb] at hmember
  exact hmember.symm

/-- Look-ups find values that are the same up to the order of keys, or find nothing in both. -/
theorem get?_cases (path : List String) :
    (a.get? path = none ∧ b.get? path = none) ∨
      ∃ v w, a.get? path = some v ∧ b.get? path = some w ∧ v.Reordered w ∧ v.WellFormed ∧
        w.WellFormed := by
  have hget : (a.get? path).map inKeyOrder = (b.get? path).map inKeyOrder := by
    rw [← get?_inKeyOrder ha, ← get?_inKeyOrder hb, h.inKeyOrder_eq]
  rcases hv : a.get? path with _ | v <;> rcases hw : b.get? path with _ | w <;> rw [hv, hw] at hget
  · exact .inl ⟨rfl, rfl⟩
  · cases hget
  · cases hget
  · exact .inr ⟨v, w, rfl, rfl, Option.some.inj hget, wellFormed_of_get? ha hv,
      wellFormed_of_get? hb hw⟩

/-- What a look-up finds is reordered, if there is a default for both. -/
theorem getD_get? (path : List String) (default : Json) :
    ((a.get? path).getD default).Reordered ((b.get? path).getD default) := by
  rcases h.get?_cases ha hb path with ⟨hnone, hnone'⟩ | ⟨v, w, hv, hw, hvalue, -, -⟩
  · rw [hnone, hnone']
  · rw [hv, hw]
    exact hvalue

/-- What is read of the entries one by one is the same in some order, if it is so of entries whose
values are the same up to the order of keys. -/
theorem perm_flatMap_entries {α : Type} {read other : String × Json → List α}
    (hread : ∀ key {v w : Json}, v.Reordered w → v.WellFormed → w.WellFormed →
      (read (key, v)).Perm (other (key, w))) :
    (a.entries.flatMap read).Perm (b.entries.flatMap other) := by
  have hordered {tree : Json} (htree : tree.WellFormed) {reading : String × Json → List α}
      (hreading : ∀ key {v : Json}, v.WellFormed →
        (reading (key, v)).Perm (other (key, v.inKeyOrder))) :
      (tree.entries.flatMap reading).Perm (tree.inKeyOrder.entries.flatMap other) := by
    have hperm := (perm_entries_inKeyOrder tree).symm.flatMap_right other
    rw [List.flatMap_map] at hperm
    refine (List.Perm.flatMap_left _ fun entry hmem ↦ ?_).trans hperm
    exact hreading entry.1 ((fieldsWellFormed_iff _).1 (fieldsWellFormed_entries htree) entry hmem)
  have hturned (key : String) {v : Json} (hv : v.WellFormed) :
      (read (key, v)).Perm (other (key, v.inKeyOrder)) :=
    hread key (reordered_inKeyOrder hv).symm hv (wellFormed_inKeyOrder hv)
  have hfirst := hordered ha hturned
  have hsecond : (b.entries.flatMap other).Perm (b.inKeyOrder.entries.flatMap other) :=
    hordered hb fun key v hv ↦ (hread key (.refl v) hv hv).symm.trans (hturned key hv)
  rw [h.inKeyOrder_eq] at hfirst
  exact hfirst.trans hsecond.symm

/-- The same of the entries with certain keys. -/
theorem perm_flatMap_filter {α : Type} (p : String → Bool) {read other : String × Json → List α}
    (hread : ∀ key {v w : Json}, v.Reordered w → v.WellFormed → w.WellFormed →
      (read (key, v)).Perm (other (key, w))) :
    ((a.entries.filter fun entry ↦ p entry.1).flatMap read).Perm
      ((b.entries.filter fun entry ↦ p entry.1).flatMap other) := by
  have hfilter (entries : Fields) (read : String × Json → List α) :
      (entries.filter fun entry ↦ p entry.1).flatMap read =
        entries.flatMap fun entry ↦ if p entry.1 then read entry else [] := by
    induction entries with
    | nil => rfl
    | cons entry rest ih =>
      rw [List.filter_cons, List.flatMap_cons, ← ih]
      split <;> rfl
  rw [hfilter, hfilter]
  refine h.perm_flatMap_entries ha hb fun key v w hvalue hv hw ↦ ?_
  split
  · exact hread key hvalue hv hw
  · exact .nil

end Reordered

/-- Writing keeps values the same up to the order of keys. -/
theorem Reordered.set {a b v w : Json} (h : a.Reordered b) (ha : a.WellFormed) (hb : b.WellFormed)
    (hvalue : v.Reordered w) (path : List String) : (a.set path v).Reordered (b.set path w) := by
  induction path generalizing a b with
  | nil => exact hvalue
  | cons key path ih =>
    refine reordered_obj_of_get? (Entries.nodup_keys_put (nodup_keys_entries ha) _ _)
      (Entries.nodup_keys_put (nodup_keys_entries hb) _ _) fun other ↦ ?_
    by_cases hother : other = key
    · subst hother
      rw [Entries.get?_put_self, Entries.get?_put_self]
      exact congrArg some
        (ih (h.child ha hb other) (wellFormed_child ha other) (wellFormed_child hb other))
    · rw [Entries.get?_put_of_ne _ _ hother, Entries.get?_put_of_ne _ _ hother]
      exact h.map_get?_entries ha hb other

/-- Taking a key out does so as well. -/
theorem Reordered.swapRemove {fields others : Fields} (h : (obj fields).Reordered (obj others))
    (hfields : (obj fields).WellFormed) (hothers : (obj others).WellFormed) (key : String) :
    (obj (Entries.swapRemove fields key)).Reordered (obj (Entries.swapRemove others key)) := by
  refine reordered_obj_of_get? (wellFormed_obj_swapRemove hfields key).1
    (wellFormed_obj_swapRemove hothers key).1 fun other ↦ ?_
  rw [Entries.get?_swapRemove hfields.1, Entries.get?_swapRemove hothers.1]
  split
  · rfl
  · exact h.map_get?_entries hfields hothers other

/-! ### Values that compare equal -/

mutual

/-- The numbers that stand in a value. -/
def numbers : Json → List Number
  | num n => [n]
  | arr items => numbersOfItems items
  | obj fields => numbersOfFields fields
  | _ => []

/-- The numbers that stand in items. -/
def numbersOfItems : List Json → List Number
  | [] => []
  | item :: rest => numbers item ++ numbersOfItems rest

/-- The numbers that stand in the values of entries. -/
def numbersOfFields : List (String × Json) → List Number
  | [] => []
  | (_, value) :: rest => numbers value ++ numbersOfFields rest

end

/-- The numbers of a member are numbers of the object. -/
theorem mem_numbersOfFields {fields : Fields} {entry : String × Json} (h : entry ∈ fields)
    {n : Number} (hn : n ∈ entry.2.numbers) : n ∈ numbersOfFields fields := by
  induction fields with
  | nil => cases h
  | cons first rest ih =>
    rcases List.mem_cons.1 h with rfl | h
    · exact List.mem_append_left _ hn
    · exact List.mem_append_right _ (ih h)

/-- Numbers that compare equal are equal. Only the two zeros are not. -/
def NumbersMatch (numbers others : List Number) : Prop :=
  ∀ m ∈ numbers, ∀ n ∈ others, m.same n = true → m = n

/-- Members are the same when each finds its like under its key. -/
theorem sameFields_iff {fields others : Fields} :
    sameFields fields others = true ↔
      ∀ entry ∈ fields, ∃ other, Entries.get? others entry.1 = some other ∧
        entry.2.same other = true := by
  induction fields with
  | nil => simp [sameFields]
  | cons entry rest ih =>
    obtain ⟨key, value⟩ := entry
    rw [sameFields, Bool.and_eq_true, ih, List.forall_mem_cons]
    refine and_congr_left fun _ ↦ ?_
    rcases Entries.get? others key with _ | other <;> simp

mutual

/-- **Values that compare equal are the same up to the order of keys**, if their numbers match. -/
theorem reordered_of_same : ∀ {a b : Json}, a.WellFormed → b.WellFormed →
    NumbersMatch a.numbers b.numbers → a.same b = true → a.Reordered b
  | .null, b, _, _, _, h => by cases b <;> first | rfl | cases h
  | .bool _, b, _, _, _, h => by
    cases b with
    | bool _ =>
      rw [same, beq_iff_eq] at h
      rw [h]
    | _ => cases h
  | .num m, b, _, _, hnumbers, h => by
    cases b with
    | num n => rw [hnumbers m (List.mem_singleton_self m) n (List.mem_singleton_self n) h]
    | _ => cases h
  | .str _, b, _, _, _, h => by
    cases b with
    | str _ =>
      rw [same, beq_iff_eq] at h
      rw [h]
    | _ => cases h
  | .arr items, b, ha, hb, hnumbers, h => by
    cases b with
    | arr others => exact congrArg arr (itemsReordered_of_same ha hb hnumbers h)
    | _ => cases h
  | .obj fields, b, ha, hb, hnumbers, h => by
    cases b with
    | obj others =>
      obtain ⟨hlength, hfields⟩ := Bool.and_eq_true_iff.1 h
      have hkeys := Entries.keys_perm_of_sameUnordered ha.1
        (Entries.sameUnordered_iff.2 ⟨eq_of_beq hlength, sameFields_iff.1 hfields⟩)
      have hentries := fieldsReordered_of_same ha.2 hb hnumbers hfields
      refine reordered_obj_of_get? ha.1 hb.1 fun key ↦ ?_
      rcases hget : Entries.get? fields key with _ | value
      · have hmem := hkeys.mem_iff (a := key)
        rw [Entries.mem_keys_iff, Entries.mem_keys_iff, hget] at hmem
        have hnone : Entries.get? others key = none := by simpa using hmem
        rw [hnone]
      · obtain ⟨other, hother, hvalue⟩ := hentries (key, value) (Entries.mem_of_get? hget)
        rw [hother]
        exact congrArg some hvalue
    | _ => cases h

theorem itemsReordered_of_same : ∀ {items others : List Json}, ItemsWellFormed items →
    ItemsWellFormed others → NumbersMatch (numbersOfItems items) (numbersOfItems others) →
    sameItems items others = true → itemsInKeyOrder items = itemsInKeyOrder others
  | [], [], _, _, _, _ => rfl
  | [], _ :: _, _, _, _, h | _ :: _, [], _, _, _, h => by cases h
  | item :: rest, other :: tail, hitems, hothers, hnumbers, h => by
    obtain ⟨hhead, hrest⟩ := Bool.and_eq_true_iff.1 h
    have hfirst := reordered_of_same hitems.1 hothers.1 (fun m hm n hn ↦ hnumbers m
      (List.mem_append_left _ hm) n (List.mem_append_left _ hn)) hhead
    have hothers := itemsReordered_of_same hitems.2 hothers.2 (fun m hm n hn ↦ hnumbers m
      (List.mem_append_right _ hm) n (List.mem_append_right _ hn)) hrest
    exact congrArg₂ List.cons hfirst hothers

theorem fieldsReordered_of_same : ∀ {fields : List (String × Json)} {others : Fields},
    FieldsWellFormed fields → (obj others).WellFormed →
    NumbersMatch (numbersOfFields fields) (numbersOfFields others) →
    sameFields fields others = true → ∀ entry ∈ fields,
      ∃ other, Entries.get? others entry.1 = some other ∧ entry.2.Reordered other
  | [], _, _, _, _, _ => List.forall_mem_nil _
  | (key, value) :: rest, others, hfields, hothers, hnumbers, h => by
    obtain ⟨⟨other, hother, hsame⟩, hrest⟩ := List.forall_mem_cons.1 (sameFields_iff.1 h)
    have hmem := Entries.mem_of_get? hother
    refine List.forall_mem_cons.2 ⟨⟨other, hother, ?_⟩, ?_⟩
    · exact reordered_of_same hfields.1 (hothers.2.of_get? hother) (fun m hm n hn ↦ hnumbers m
        (List.mem_append_left _ hm) n (mem_numbersOfFields hmem hn)) hsame
    · exact fieldsReordered_of_same hfields.2 hothers (fun m hm ↦ hnumbers m
        (List.mem_append_right _ hm)) (sameFields_iff.2 hrest)

end

end Json

end GlobalStyles
