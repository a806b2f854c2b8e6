import GlobalStyles.Json.Entries
import Mathlib.Data.List.Basic
import Mathlib.Data.List.Nodup
import Mathlib.Data.List.Perm.Basic
import Mathlib.Data.Multiset.Defs

/-!
# Entries under a change of values, a choice and a gathering

Writing and looking up do not look at values, so they commute with a change of every value, and a
choice among entries that does not choose a key cannot tell whether something was written there.

Lists under keys are gathered by appending to the list of the key. That loses nothing and adds
nothing: the lists together are a permutation of what was added (`Entries.perm_flatMap_gather`).
-/

namespace GlobalStyles.Entries

variable {α β : Type}

/-! ### Writing -/

theorem put_map (f : α → β) (entries : Entries α) (key : String) (value : α) :
    put (entries.map (Prod.map id f)) key (f value) =
      (put entries key value).map (Prod.map id f) := by
  induction entries with
  | nil => rfl
  | cons entry rest ih =>
    obtain ⟨k, v⟩ := entry
    simp only [List.map_cons, Prod.map_apply, id_eq, put]
    split
    · rfl
    · rw [ih]
      rfl

theorem get?_map (f : α → β) (entries : Entries α) (key : String) :
    get? (entries.map (Prod.map id f)) key = (get? entries key).map f := by
  induction entries with
  | nil => rfl
  | cons entry rest ih =>
    obtain ⟨k, v⟩ := entry
    simp only [List.map_cons, Prod.map_apply, id_eq, get?, ih]
    split <;> rfl

/-- Written twice, the second value stays. -/
theorem put_put_self (entries : Entries α) (key : String) (first second : α) :
    put (put entries key first) key second = put entries key second := by
  induction entries with
  | nil => simp [put]
  | cons entry rest ih =>
    obtain ⟨k, v⟩ := entry
    by_cases h : k = key <;> simp [put, h, ih]

/-- Keys that are there already can be written in any order. -/
theorem put_comm {entries : Entries α} {key other : String} (hne : key ≠ other)
    (hkey : (get? entries key).isSome) (hother : (get? entries other).isSome) (value second : α) :
    put (put entries key value) other second = put (put entries other second) key value := by
  induction entries with
  | nil => simp at hkey
  | cons entry rest ih =>
    obtain ⟨k, v⟩ := entry
    by_cases hk : k = key
    · have hko : k ≠ other := fun h ↦ hne (hk.symm.trans h)
      simp [put, hk, hne]
    · by_cases hko : k = other
      · simp [put, hko, hne.symm]
      · simp only [get?, if_neg hk] at hkey
        simp only [get?, if_neg hko] at hother
        simp [put, hk, hko, ih hkey hother]

/-- What stands before and after a key stays when its value is written over. -/
theorem put_append_cons {before : Entries α} {key : String} (h : key ∉ keys before)
    (first second : α) (after : Entries α) :
    put (before ++ (key, first) :: after) key second = before ++ (key, second) :: after := by
  induction before with
  | nil => rw [List.nil_append, put, if_pos rfl, List.nil_append]
  | cons entry rest ih =>
    obtain ⟨k, v⟩ := entry
    have hne : k ≠ key := fun heq ↦ h (heq ▸ List.mem_cons_self)
    rw [List.cons_append, put, if_neg hne, ih fun hmem ↦ h (List.mem_cons_of_mem _ hmem),
      List.cons_append]

/-- A key that stands once parts the entries into those before it, its own and those after it. -/
theorem exists_parts {entries : Entries α} (h : (keys entries).Nodup) (key : String) :
    ∃ before after, entries = before ++ ((get? entries key).map (Prod.mk key)).toList ++ after ∧
      key ∉ keys (before ++ after) := by
  rcases hget : get? entries key with _ | value
  · refine ⟨entries, [], by rw [Option.map_none, Option.toList_none, List.append_nil,
      List.append_nil], ?_⟩
    rw [List.append_nil, mem_keys_iff, hget]
    exact Bool.false_ne_true
  · obtain ⟨before, after, rfl⟩ := List.append_of_mem (mem_of_get? hget)
    rw [keys, List.map_append, List.map_cons, List.nodup_middle, List.nodup_cons,
      ← List.map_append] at h
    exact ⟨before, after, by rw [List.append_assoc]; rfl, h.1⟩

/-- Entries without repeated keys are told by their keys and what stands under each. -/
theorem ext_get? {a b : Entries α} (hkeys : keys a = keys b) (h : (keys a).Nodup)
    (hget : ∀ key, get? a key = get? b key) : a = b := by
  induction a generalizing b with
  | nil =>
    rcases b with _ | ⟨entry, rest⟩
    · rfl
    · cases hkeys
  | cons entry rest ih =>
    obtain ⟨key, value⟩ := entry
    rcases b with _ | ⟨⟨other, second⟩, tail⟩
    · cases hkeys
    · obtain ⟨rfl, hrest⟩ : key = other ∧ keys rest = keys tail := List.cons_eq_cons.1 hkeys
      obtain ⟨hkey, hnodup⟩ := List.nodup_cons.1 h
      obtain rfl : value = second := by simpa [get?] using hget key
      congr 1
      refine ih hrest hnodup fun k ↦ ?_
      by_cases hk : k = key
      · -- the first key is in neither rest
        subst hk
        have hnone : ∀ entries : Entries α, k ∉ keys entries → get? entries k = none :=
          fun entries hmem ↦ by rwa [mem_keys_iff, Option.not_isSome_iff_eq_none] at hmem
        rw [hnone rest hkey, hnone tail (hrest ▸ hkey)]
      · simpa [get?, Ne.symm hk] using hget k

theorem fst_of_mem_toList_map {value : Option α} {key : String} {entry : String × α}
    (h : entry ∈ (value.map (Prod.mk key)).toList) : entry.1 = key := by
  obtain ⟨_, -, rfl⟩ := Option.map_eq_some_iff.1 (Option.mem_toList.1 h)
  rfl

/-! ### Choosing -/

/-- Look-ups of a key that is chosen whatever its value pass over the entries that are not. -/
theorem get?_filter_of_forall {p : String × α → Bool} {key : String}
    (h : ∀ value, p (key, value) = true) (entries : Entries α) :
    get? (entries.filter p) key = get? entries key := by
  induction entries with
  | nil => rfl
  | cons entry rest ih =>
    obtain ⟨k, v⟩ := entry
    by_cases hk : k = key
    · subst hk
      rw [List.filter_cons_of_pos (h v), get?, get?, if_pos rfl, if_pos rfl]
    · rw [get?, if_neg hk, ← ih, List.filter_cons]
      split
      · rw [get?, if_neg hk]
      · rfl

/-- A choice that never takes a key does not see what is written there. -/
theorem filter_put_of_forall_not {p : String × α → Bool} {key : String}
    (h : ∀ value, p (key, value) = false) (entries : Entries α) (value : α) :
    (put entries key value).filter p = entries.filter p := by
  induction entries with
  | nil => simp [put, h]
  | cons entry rest ih =>
    obtain ⟨k, v⟩ := entry
    simp only [put]
    split <;> rename_i hk
    · subst hk
      rw [List.filter_cons_of_neg (by simp [h]), List.filter_cons_of_neg (by simp [h])]
    · rw [List.filter_cons, List.filter_cons, ih]

/-- A choice that takes a key whatever its value can be made before or after writing there. -/
theorem filter_put_of_forall {p : String × α → Bool} {key : String}
    (h : ∀ value, p (key, value) = true) (entries : Entries α) (value : α) :
    (put entries key value).filter p = put (entries.filter p) key value := by
  induction entries with
  | nil => simp [put, h]
  | cons entry rest ih =>
    obtain ⟨k, v⟩ := entry
    simp only [put]
    split <;> rename_i hk
    · subst hk
      rw [List.filter_cons_of_pos (h value), List.filter_cons_of_pos (h v), put, if_pos rfl]
    · rw [List.filter_cons, List.filter_cons, ih]
      split
      · rw [put, if_neg hk]
      · rfl

/-! ### Gathering -/

/-- Append items to the list of a key, unless there are none. -/
def appendTo (groups : Entries (List α)) (key : String) (items : List α) : Entries (List α) :=
  if items.isEmpty then groups else put groups key ((get? groups key).getD [] ++ items)

/-- Lists under keys, those of one key appended to each other. -/
def gather (lists : List (String × List α)) : Entries (List α) :=
  lists.foldl (fun made entry ↦ appendTo made entry.1 entry.2) []

/-- Items that are appended to the list of their key come to all lists, at some place. -/
theorem perm_flatMap_appendTo (groups : Entries (List α)) (key : String) (items : List α) :
    ((appendTo groups key items).flatMap Prod.snd).Perm (groups.flatMap Prod.snd ++ items) := by
  rw [appendTo]
  split <;> rename_i hempty
  · rw [List.isEmpty_iff.1 hempty, List.append_nil]
  · clear hempty
    induction groups with
    | nil => simp [put]
    | cons group rest ih =>
      obtain ⟨k, gathered⟩ := group
      rw [put, get?]
      split
      · -- the list grows where it stands, in front of the later ones
        simp only [Option.getD_some, List.flatMap_cons, List.append_assoc]
        exact List.perm_append_comm.append_left _
      · simp only [List.flatMap_cons, List.append_assoc]
        exact ih.append_left _

theorem nodup_keys_appendTo {groups : Entries (List α)} (h : (keys groups).Nodup) (key : String)
    (items : List α) : (keys (appendTo groups key items)).Nodup := by
  rw [appendTo]
  split
  · exact h
  · exact nodup_keys_put h key _

theorem ne_nil_of_mem_appendTo {groups : Entries (List α)} (h : ∀ group ∈ groups, group.2 ≠ [])
    {key : String} {items : List α} {group : String × List α}
    (hmem : group ∈ appendTo groups key items) : group.2 ≠ [] := by
  rw [appendTo] at hmem
  split at hmem <;> rename_i hempty
  · exact h group hmem
  · rcases mem_put hmem with hold | rfl
    · exact h group hold
    · exact fun hnil ↦ hempty (List.isEmpty_iff.2 (List.append_eq_nil_iff.1 hnil).2)

/-- **Gathering keeps every item of every list, each once.** -/
theorem perm_flatMap_gather (lists : List (String × List α)) :
    ((gather lists).flatMap Prod.snd).Perm (lists.flatMap Prod.snd) := by
  suffices h : ∀ made : Entries (List α),
      ((lists.foldl (fun made entry ↦ appendTo made entry.1 entry.2) made).flatMap Prod.snd).Perm
        (made.flatMap Prod.snd ++ lists.flatMap Prod.snd) from h []
  induction lists with
  | nil => exact fun made ↦ .of_eq (List.append_nil _).symm
  | cons entry rest ih =>
    intro made
    have hstep := perm_flatMap_appendTo made entry.1 entry.2
    rw [List.flatMap_cons, ← List.append_assoc]
    exact (ih _).trans (hstep.append_right _)

/-- Every key has one list, and every list has an item. -/
theorem gather_spec (lists : List (String × List α)) :
    (keys (gather lists)).Nodup ∧ ∀ group ∈ gather lists, group.2 ≠ [] := by
  refine List.foldlRecOn lists (b := []) (motive := fun made : Entries (List α) ↦
    (keys made).Nodup ∧ ∀ group ∈ made, group.2 ≠ []) _ ⟨List.nodup_nil, by simp⟩ ?_
  rintro made ⟨hnodup, hne⟩ entry -
  exact ⟨nodup_keys_appendTo hnodup entry.1 _, fun group hmem ↦ ne_nil_of_mem_appendTo hne hmem⟩

theorem get?_appendTo (groups : Entries (List α)) (key : String) (items : List α)
    (other : String) : (get? (appendTo groups key items) other).getD [] =
      (get? groups other).getD [] ++ if key = other then items else [] := by
  rw [appendTo]
  split <;> rename_i hempty
  · rw [List.isEmpty_iff.1 hempty, ite_self, List.append_nil]
  · split <;> rename_i hkey
    · subst hkey
      rw [get?_put_self, Option.getD_some]
    · rw [get?_put_of_ne _ _ (Ne.symm hkey), List.append_nil]

/-- What is gathered under a key are the lists of that key, in order. -/
theorem get?_gather (lists : List (String × List α)) (key : String) :
    (get? (gather lists) key).getD [] =
      (lists.filter fun entry ↦ entry.1 = key).flatMap Prod.snd := by
  suffices h : ∀ made : Entries (List α),
      (get? (lists.foldl (fun made entry ↦ appendTo made entry.1 entry.2) made) key).getD [] =
        (get? made key).getD [] ++ (lists.filter fun entry ↦ entry.1 = key).flatMap Prod.snd from
    h []
  induction lists with
  | nil => exact fun made ↦ (List.append_nil _).symm
  | cons entry rest ih =>
    intro made
    rw [List.foldl_cons, ih, get?_appendTo, List.append_assoc, List.filter_cons]
    by_cases hkey : entry.1 = key <;> simp [hkey]

theorem mem_gather_iff (lists : List (String × List α)) (key : String) (items : List α) :
    (key, items) ∈ gather lists ↔
      items ≠ [] ∧ (lists.filter fun entry ↦ entry.1 = key).flatMap Prod.snd = items := by
  obtain ⟨hnodup, hne⟩ := gather_spec lists
  rw [← get?_gather]
  constructor
  · intro hmem
    rw [get?_of_mem hnodup hmem]
    exact ⟨hne _ hmem, rfl⟩
  · rintro ⟨hitems, rfl⟩
    rcases hget : get? (gather lists) key with _ | found
    · rw [hget] at hitems
      exact absurd rfl hitems
    · exact mem_of_get? hget

/-- **In another order of the lists, the same is gathered under each key**, if keys and items may
come in another order too. -/
theorem perm_map_gather {lists others : List (String × List α)} (h : lists.Perm others) :
    ((gather lists).map (Prod.map id (Multiset.ofList : List α → Multiset α))).Perm
      ((gather others).map (Prod.map id Multiset.ofList)) := by
  have hnodup (lists : List (String × List α)) :
      ((gather lists).map (Prod.map id (Multiset.ofList : List α → Multiset α))).Nodup := by
    refine List.Nodup.of_map Prod.fst ?_
    rw [List.map_map]
    exact (gather_spec lists).1
  have hsubset {lists others : List (String × List α)} (h : lists.Perm others) :
      (gather lists).map (Prod.map id (Multiset.ofList : List α → Multiset α)) ⊆
        (gather others).map (Prod.map id Multiset.ofList) := by
    intro entry hentry
    obtain ⟨⟨key, items⟩, hmem, rfl⟩ := List.mem_map.1 hentry
    obtain ⟨hne, hitems⟩ := (mem_gather_iff lists key items).1 hmem
    have hperm := (h.filter fun entry ↦ entry.1 = key).flatMap_right Prod.snd
    rw [hitems] at hperm
    refine List.mem_map.2 ⟨(key, _), (mem_gather_iff others key _).2 ⟨?_, rfl⟩, ?_⟩
    · exact fun hnil ↦ hne (hnil ▸ hperm).eq_nil
    · exact congrArg (Prod.mk key) (Multiset.coe_eq_coe.2 hperm.symm)
  exact (List.perm_ext_iff_of_nodup (hnodup lists) (hnodup others)).2 fun entry ↦
    ⟨fun hmem ↦ hsubset h hmem, fun hmem ↦ hsubset h.symm hmem⟩

theorem keys_appendTo_subset (groups : Entries (List α)) (key : String) (items : List α) :
    keys (appendTo groups key items) ⊆ keys groups ++ [key] := by
  rw [appendTo]
  split
  · exact List.subset_append_left _ _
  · rw [keys_put]
    split
    · exact List.subset_append_left _ _
    · exact List.Subset.refl _

/-- Nothing is gathered under a key without a list. -/
theorem keys_gather_subset (lists : List (String × List α)) :
    keys (gather lists) ⊆ lists.map Prod.fst := by
  suffices h : ∀ made : Entries (List α),
      keys (lists.foldl (fun made entry ↦ appendTo made entry.1 entry.2) made) ⊆
        keys made ++ lists.map Prod.fst from h []
  induction lists with
  | nil => exact fun made ↦ List.subset_append_left _ _
  | cons entry rest ih =>
    intro made
    rw [List.map_cons, List.append_cons]
    refine List.Subset.trans (ih _) (List.append_subset.2 ⟨?_, List.subset_append_right _ _⟩)
    exact List.Subset.trans (keys_appendTo_subset made entry.1 entry.2)
      (List.subset_append_left _ _)

/-- Items can be changed before they are gathered, or after. -/
theorem gather_map (f : α → β) (lists : List (String × List α)) :
    gather (lists.map (Prod.map id (List.map f))) =
      (gather lists).map (Prod.map id (List.map f)) := by
  have hstep (made : Entries (List α)) (key : String) (items : List α) :
      appendTo (made.map (Prod.map id (List.map f))) key (items.map f) =
        (appendTo made key items).map (Prod.map id (List.map f)) := by
    simp only [appendTo, List.isEmpty_map, get?_map]
    split
    · rfl
    · rw [← put_map, List.map_append]
      cases get? made key <;> rfl
  suffices h : ∀ made : Entries (List α),
      (lists.map (Prod.map id (List.map f))).foldl
          (fun made entry ↦ appendTo made entry.1 entry.2) (made.map (Prod.map id (List.map f))) =
        (lists.foldl (fun made entry ↦ appendTo made entry.1 entry.2) made).map
          (Prod.map id (List.map f)) from h []
  induction lists with
  | nil => exact fun made ↦ rfl
  | cons entry rest ih =>
    intro made
    rw [List.map_cons, List.foldl_cons, List.foldl_cons, Prod.map_fst, Prod.map_snd, id, hstep, ih]

end GlobalStyles.Entries
