import GlobalStyles.Proofs.Entries
import GlobalStyles.Proofs.Json.Child

/-!
# The order of the paths of a tree

A tree is gone through depth first, and the members of an object come in the order of its keys. So
of two paths the one comes first whose key stands first where the two part
(`Json.PartsBefore`). `Json.placesAt` lists what a given number of keys leads to. No place is left
out and none is made up (`Json.mem_placesAt_iff`), and the places stand in the order of their paths
(`Json.pairwise_placesAt`).
-/

namespace GlobalStyles

open Json

/-- Two entries of an object have their keys in the order of keys. -/
theorem Entries.pairwise_sublist_keys {α : Type} (entries : Entries α) :
    entries.Pairwise fun a b ↦ [a.1, b.1].Sublist (keys entries) :=
  List.pairwise_iff_forall_sublist.2 fun hsub ↦ hsub.map Prod.fst

/-- Where nothing stands twice, two things stand in one order only. -/
theorem not_sublist_swap_of_nodup {keys : List String} (h : keys.Nodup) {a b : String}
    (hab : [a, b].Sublist keys) : ¬[b, a].Sublist keys := by
  obtain ⟨before, after, rfl, ha, hb⟩ :=
    List.append_sublist_iff.1 (show ([a] ++ [b]).Sublist keys from hab)
  have hdisjoint := List.disjoint_of_nodup_append h
  intro hba
  obtain ⟨front, back, hsplit, hfront, hback⟩ := List.sublist_append_iff.1 hba
  rcases front with - | ⟨first, front⟩
  · obtain rfl : [b, a] = back := hsplit
    exact hdisjoint (ha.subset (List.mem_singleton_self a)) (hback.subset (by simp))
  · obtain rfl : b = first := (List.cons.inj hsplit).1
    exact hdisjoint (hfront.subset List.mem_cons_self) (hb.subset (List.mem_singleton_self b))

namespace Json

/-! ### Two paths -/

/-- The keys of the object at the end of a path, in order. -/
def keysAt (tree : Json) (path : List String) : List String :=
  Entries.keys (tree.down path).entries

/-- Two lists of keys that part in a tree: where they first differ, the key of the one stands before
that of the other. -/
def PartsBefore (tree : Json) (path other : List String) : Prop :=
  ∃ start key later rest others, path = start ++ key :: rest ∧ other = start ++ later :: others ∧
    [key, later].Sublist (tree.keysAt start)

theorem PartsBefore.cons {tree child : Json} {key : String} (hchild : tree.child key = child)
    {path other : List String} (h : child.PartsBefore path other) :
    tree.PartsBefore (key :: path) (key :: other) := by
  obtain ⟨start, first, later, rest, others, rfl, rfl, hsub⟩ := h
  refine ⟨key :: start, first, later, rest, others, rfl, rfl, ?_⟩
  rwa [keysAt, down_cons, hchild]

/-- Two paths part at their first keys, or further down. -/
theorem partsBefore_cons_iff {tree : Json} {key later : String}
    {path other : List String} :
    tree.PartsBefore (key :: path) (later :: other) ↔
      [key, later].Sublist (Entries.keys tree.entries) ∨
        key = later ∧ (tree.child key).PartsBefore path other := by
  constructor
  · rintro ⟨_ | ⟨first, start⟩, k, l, rest, others, hpath, hother, hsub⟩
    · cases hpath
      cases hother
      exact .inl hsub
    · cases hpath
      cases hother
      exact .inr ⟨rfl, start, k, l, rest, others, rfl, rfl, hsub⟩
  · rintro (hsub | ⟨rfl, hparts⟩)
    · exact ⟨[], key, later, path, other, rfl, rfl, hsub⟩
    · exact hparts.cons rfl

/-- Of two paths only one comes first. -/
theorem PartsBefore.asymm {tree : Json} (h : tree.WellFormed) {path other : List String}
    (hparts : tree.PartsBefore path other) : ¬tree.PartsBefore other path := by
  induction path generalizing tree other with
  | nil =>
    obtain ⟨start, key, later, rest, others, hnil, -⟩ := hparts
    simp at hnil
  | cons key path ih =>
    rcases other with - | ⟨later, other⟩
    · obtain ⟨start, first, second, rest, others, -, hnil, -⟩ := hparts
      simp at hnil
    · have hnodup := nodup_keys_entries h
      -- keys that part differ, so both orders are settled at the same key
      have hne {a b : String} (hsub : [a, b].Sublist (Entries.keys tree.entries)) : a ≠ b := by
        simpa using hnodup.sublist hsub
      rw [partsBefore_cons_iff] at hparts ⊢
      rintro (hback | ⟨rfl, hback⟩)
      · rcases hparts with hsub | ⟨rfl, -⟩
        · exact not_sublist_swap_of_nodup hnodup hsub hback
        · exact hne hback rfl
      · rcases hparts with hsub | ⟨-, hbelow⟩
        · exact hne hsub rfl
        · exact ih (wellFormed_child h _) hbelow hback

/-! ### Places -/

/-- What a number of keys leads to, with the keys, in depth-first order. -/
def placesAt : Nat → Json → List (List String × Json)
  | 0, tree => [([], tree)]
  | count + 1, tree =>
    tree.entries.flatMap fun entry ↦
      (placesAt count entry.2).map fun place ↦ (entry.1 :: place.1, place.2)

/-- **The places are what stands at the end of so many keys.** -/
theorem mem_placesAt_iff {tree : Json} (h : tree.WellFormed) {count : Nat} {path : List String}
    {value : Json} :
    (path, value) ∈ placesAt count tree ↔ path.length = count ∧ tree.find? path = some value := by
  induction count generalizing tree path with
  | zero =>
    rw [placesAt, List.mem_singleton, Prod.mk.injEq, List.length_eq_zero_iff]
    constructor
    · rintro ⟨rfl, rfl⟩
      exact ⟨rfl, rfl⟩
    · rintro ⟨rfl, hvalue⟩
      exact ⟨rfl, (Option.some.inj hvalue).symm⟩
  | succ count ih =>
    simp only [placesAt, List.mem_flatMap, List.mem_map, Prod.mk.injEq]
    constructor
    · rintro ⟨⟨key, child⟩, hentry, ⟨rest, value⟩, hplace, rfl, rfl⟩
      have hget := Entries.get?_of_mem (nodup_keys_entries h) hentry
      obtain ⟨hlength, hfind⟩ := (ih ((fieldsWellFormed_entries h).of_get? hget)).1 hplace
      rw [find?_cons, member?, hget, Option.bind_some]
      exact ⟨congrArg (· + 1) hlength, hfind⟩
    · rintro ⟨hlength, hfind⟩
      rcases path with - | ⟨key, rest⟩
      · cases hlength
      · rw [find?_cons] at hfind
        obtain ⟨child, hget, hrest⟩ := Option.bind_eq_some_iff.1 hfind
        have hchild := (fieldsWellFormed_entries h).of_get? hget
        exact ⟨(key, child), Entries.mem_of_get? hget, (rest, value),
          (ih hchild).2 ⟨Nat.succ.inj hlength, hrest⟩, rfl, rfl⟩

/-- **The places stand in the order of their paths.** -/
theorem pairwise_placesAt {tree : Json} (h : tree.WellFormed) (count : Nat) :
    (placesAt count tree).Pairwise fun a b ↦ tree.PartsBefore a.1 b.1 := by
  induction count generalizing tree with
  | zero => exact List.pairwise_singleton _ _
  | succ count ih =>
    refine List.pairwise_flatMap.2 ⟨fun entry hentry ↦ List.pairwise_map.2 ?_, ?_⟩
    · have hget := Entries.get?_of_mem (nodup_keys_entries h) hentry
      have hchild : tree.child entry.1 = entry.2 := by rw [child, member?, hget, Option.getD_some]
      exact (ih ((fieldsWellFormed_entries h).of_get? hget)).imp fun hparts ↦ hparts.cons hchild
    · refine (Entries.pairwise_sublist_keys tree.entries).imp fun hsub a ha b hb ↦ ?_
      obtain ⟨place, -, rfl⟩ := List.mem_map.1 ha
      obtain ⟨other, -, rfl⟩ := List.mem_map.1 hb
      exact ⟨[], _, _, place.1, other.1, rfl, rfl, hsub⟩

end Json

end GlobalStyles
