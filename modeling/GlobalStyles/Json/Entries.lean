/-!
# Ordered entries

Values under keys, in an order that counts. Writing over a key keeps its place, a new key goes to
the end, and taking a key out moves the last entry into the freed place.

A list of entries may hold a key twice; look-ups and changes go to the first one. Lists made by
`Entries.put` never do.
-/

namespace GlobalStyles

/-- Values under keys, in order. -/
abbrev Entries (α : Type) := List (String × α)

namespace Entries

/-- The keys, in order. -/
def keys {α : Type} (entries : Entries α) : List String :=
  entries.map Prod.fst

/-- The value of the first entry with this key. -/
def get? {α : Type} : Entries α → String → Option α
  | [], _ => none
  | (k, v) :: rest, key => if k = key then some v else get? rest key

/-- Write over the entry with this key, in its place, or add one at the end. -/
def put {α : Type} : Entries α → String → α → Entries α
  | [], key, value => [(key, value)]
  | (k, v) :: rest, key, value =>
    if k = key then (k, value) :: rest else (k, v) :: put rest key value

/-- Take out the entry with this key; the last entry moves into its place. -/
def swapRemove {α : Type} : Entries α → String → Entries α
  | [], _ => []
  | (k, v) :: rest, key =>
    if k = key then
      match rest.getLast? with
      | none => []
      | some last => last :: rest.dropLast
    else (k, v) :: swapRemove rest key

/-- The entries in order, each written over an earlier one with its key. -/
def ofList {α : Type} (entries : Entries α) : Entries α :=
  entries.foldl (fun made entry ↦ put made entry.1 entry.2) []

@[simp] theorem get?_nil {α : Type} (key : String) : get? ([] : Entries α) key = none := rfl

@[simp] theorem get?_put_self {α : Type} (entries : Entries α) (key : String) (value : α) :
    get? (put entries key value) key = some value := by
  induction entries with
  | nil => simp [put, get?]
  | cons entry rest ih =>
    obtain ⟨k, v⟩ := entry
    by_cases h : k = key <;> simp [put, get?, h, ih]

theorem get?_put_of_ne {α : Type} (entries : Entries α) {key other : String} (value : α)
    (h : other ≠ key) :
    get? (put entries key value) other = get? entries other := by
  induction entries with
  | nil => simp [put, get?, h.symm]
  | cons entry rest ih =>
    obtain ⟨k, v⟩ := entry
    by_cases hk : k = key
    · simp [put, get?, hk, h.symm]
    · simp only [put, hk, if_false, get?, ih]

/-- A key is among the keys exactly when looking it up finds something. -/
theorem mem_keys_iff {α : Type} (entries : Entries α) (key : String) :
    key ∈ keys entries ↔ (get? entries key).isSome := by
  induction entries with
  | nil => simp [keys, get?]
  | cons entry rest ih =>
    obtain ⟨k, v⟩ := entry
    by_cases h : k = key
    · simp [keys, get?, h]
    · have h' : ¬key = k := fun e ↦ h e.symm
      simpa [keys, get?, h, h'] using ih

/-- Writing keeps the keys in place and adds a new one at the end. -/
theorem keys_put {α : Type} (entries : Entries α) (key : String) (value : α) :
    keys (put entries key value) =
      if key ∈ keys entries then keys entries else keys entries ++ [key] := by
  induction entries with
  | nil => simp [put, keys]
  | cons entry rest ih =>
    obtain ⟨k, v⟩ := entry
    by_cases h : k = key
    · simp [put, keys, h]
    · have h' : ¬key = k := fun e ↦ h e.symm
      simp only [put, h, if_false]
      simp only [keys, List.map_cons, List.mem_cons, h', false_or] at ih ⊢
      rw [ih]
      split <;> rename_i hmem <;> simp [hmem]

/-- Writing keeps the keys different. -/
theorem nodup_keys_put {α : Type} {entries : Entries α} (h : (keys entries).Nodup) (key : String)
    (value : α) : (keys (put entries key value)).Nodup := by
  rw [keys_put]
  split
  · exact h
  · rename_i hnew
    rw [List.nodup_append]
    refine ⟨h, by simp, ?_⟩
    intro a ha b hb hab
    rw [List.mem_singleton] at hb
    subst hab hb
    exact hnew ha

/-- Entries that were written one after another have no key twice. -/
theorem nodup_keys_ofList {α : Type} (entries : Entries α) : (keys (ofList entries)).Nodup := by
  suffices h : ∀ made : Entries α, (keys made).Nodup →
      (keys (entries.foldl (fun made entry ↦ put made entry.1 entry.2) made)).Nodup from
    h [] (by simp [keys])
  induction entries with
  | nil => exact fun made h ↦ h
  | cons entry rest ih => exact fun made h ↦ ih _ (nodup_keys_put h entry.1 entry.2)

/-- Writing what is there already changes nothing. -/
theorem put_of_get? {α : Type} (entries : Entries α) {key : String} {value : α}
    (h : get? entries key = some value) : put entries key value = entries := by
  induction entries with
  | nil => simp [get?] at h
  | cons entry rest ih =>
    obtain ⟨k, v⟩ := entry
    by_cases hk : k = key
    · simp_all [get?, put]
    · simp_all [get?, put]

theorem mem_put {α : Type} {entries : Entries α} {key : String} {value : α} {entry : String × α}
    (h : entry ∈ put entries key value) : entry ∈ entries ∨ entry = (key, value) := by
  induction entries with
  | nil => exact .inr (List.mem_singleton.1 h)
  | cons first rest ih =>
    obtain ⟨k, v⟩ := first
    simp only [put] at h
    split at h <;> rename_i hk
    · rcases List.mem_cons.1 h with rfl | h
      · exact .inr (by rw [hk])
      · exact .inl (List.mem_cons_of_mem _ h)
    · rcases List.mem_cons.1 h with rfl | h
      · exact .inl List.mem_cons_self
      · exact (ih h).imp_left (List.mem_cons_of_mem _)

/-- Taking out a key that is not there changes nothing. -/
theorem swapRemove_of_get?_eq_none {α : Type} {entries : Entries α} {key : String}
    (h : get? entries key = none) : swapRemove entries key = entries := by
  induction entries with
  | nil => rfl
  | cons entry rest ih =>
    obtain ⟨k, v⟩ := entry
    simp only [get?] at h
    split at h <;> rename_i hk
    · cases h
    · rw [swapRemove, if_neg hk, ih h]

theorem swapRemove_subset {α : Type} (entries : Entries α) (key : String) :
    swapRemove entries key ⊆ entries := by
  induction entries with
  | nil => exact List.Subset.refl _
  | cons entry rest ih =>
    obtain ⟨k, v⟩ := entry
    rw [swapRemove]
    split
    · split <;> rename_i hlast
      · exact List.nil_subset _
      · obtain ⟨front, rfl⟩ := List.getLast?_eq_some_iff.1 hlast
        rw [List.dropLast_concat]
        intro entry hmem
        rcases List.mem_cons.1 hmem with rfl | hmem
        · exact List.mem_cons_of_mem _ (List.mem_append_right _ List.mem_cons_self)
        · exact List.mem_cons_of_mem _ (List.mem_append_left _ hmem)
    · exact List.cons_subset_cons _ ih

/-! ### Look-ups while no key stands twice -/

variable {α : Type}

/-- An entry is passed over by look-ups of other keys. -/
theorem get?_append_cons_of_ne (before after : Entries α) {key other : String} (value : α)
    (h : other ≠ key) :
    get? (before ++ (key, value) :: after) other = get? (before ++ after) other := by
  induction before with
  | nil => exact if_neg (Ne.symm h)
  | cons entry rest ih => rw [List.cons_append, List.cons_append, get?, get?, ih]

/-- What a look-up finds is one of the entries. -/
theorem mem_of_get? {entries : Entries α} {key : String} {value : α}
    (h : get? entries key = some value) : (key, value) ∈ entries := by
  induction entries with
  | nil => simp at h
  | cons entry rest ih =>
    obtain ⟨k, v⟩ := entry
    simp only [get?] at h
    split at h
    · rename_i hk
      cases h
      exact hk ▸ List.mem_cons_self
    · exact List.mem_cons_of_mem _ (ih h)

/-- While no key stands twice, a look-up finds every entry. -/
theorem get?_of_mem {entries : Entries α} (h : (keys entries).Nodup) {key : String} {value : α}
    (hmem : (key, value) ∈ entries) : get? entries key = some value := by
  induction entries with
  | nil => simp at hmem
  | cons entry rest ih =>
    obtain ⟨k, v⟩ := entry
    obtain ⟨hk, hrest⟩ := List.nodup_cons.1 h
    rcases List.mem_cons.1 hmem with heq | hmem
    · cases heq
      simp [get?]
    · have hne : k ≠ key := by
        rintro rfl
        exact hk (List.mem_map.2 ⟨_, hmem, rfl⟩)
      rw [get?, if_neg hne]
      exact ih hrest hmem

/-- While no key stands twice, look-ups do not depend on the order. -/
theorem get?_perm {a b : Entries α} (hperm : a.Perm b) (h : (keys a).Nodup) (key : String) :
    get? a key = get? b key := by
  have hb : (keys b).Nodup := (hperm.map Prod.fst).nodup_iff.1 h
  ext value
  constructor
  · intro hget
    exact get?_of_mem hb (hperm.mem_iff.1 (mem_of_get? hget))
  · intro hget
    exact get?_of_mem h (hperm.mem_iff.2 (mem_of_get? hget))

/-- A look-up among chosen entries. -/
theorem get?_filter {entries : Entries α} (h : (keys entries).Nodup) (p : String × α → Bool)
    (key : String) :
    get? (entries.filter p) key = (get? entries key).filter fun value ↦ p (key, value) := by
  induction entries with
  | nil => rfl
  | cons entry rest ih =>
    obtain ⟨k, v⟩ := entry
    obtain ⟨hk, hrest⟩ := List.nodup_cons.1 h
    by_cases hkey : k = key
    · subst hkey
      have hmiss : get? rest k = none := by
        rw [← Option.not_isSome_iff_eq_none, ← mem_keys_iff]
        exact hk
      cases hp : p (k, v) <;> simp [get?, Option.filter_some, hp, ih hrest, hmiss]
    · rw [get?, if_neg hkey, ← ih hrest]
      cases hp : p (k, v) <;> simp [get?, hp, hkey]

/-- Taking a key out leaves the other entries, in whatever order. -/
theorem swapRemove_perm {entries : Entries α} (h : (keys entries).Nodup) (key : String) :
    (swapRemove entries key).Perm (entries.filter fun entry ↦ entry.1 ≠ key) := by
  induction entries with
  | nil => exact .nil
  | cons entry rest ih =>
    obtain ⟨k, v⟩ := entry
    obtain ⟨hk, hrest⟩ := List.nodup_cons.1 h
    rw [swapRemove, List.filter_cons]
    by_cases hkey : k = key
    · subst hkey
      have hall : rest.filter (fun entry ↦ decide (entry.1 ≠ k)) = rest := by
        rw [List.filter_eq_self]
        intro entry hmem
        simp only [ne_eq, decide_not, Bool.not_eq_true', decide_eq_false_iff_not]
        rintro rfl
        exact hk (List.mem_map.2 ⟨_, hmem, rfl⟩)
      rw [hall]
      rcases hlast : rest.getLast? with - | last
      · simp [List.getLast?_eq_none_iff.1 hlast]
      · obtain ⟨front, rfl⟩ := List.getLast?_eq_some_iff.1 hlast
        simpa using (List.perm_append_singleton last front).symm
    · simpa [hkey] using (ih hrest).cons (k, v)

/-- Look-ups after a key was taken out. -/
theorem get?_swapRemove {entries : Entries α} (h : (keys entries).Nodup) (key other : String) :
    get? (swapRemove entries key) other = if other = key then none else get? entries other := by
  have hperm := swapRemove_perm h key
  have hnodup : (keys (swapRemove entries key)).Nodup :=
    ((hperm.map Prod.fst).nodup_iff).2 (h.sublist (List.filter_sublist.map _))
  rw [get?_perm hperm hnodup, get?_filter h]
  split <;> rename_i heq <;> cases get? entries other <;> simp [heq]

end Entries

end GlobalStyles
