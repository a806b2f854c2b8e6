import GlobalStyles.Proofs.Style.SplitOrder

/-!
# What registries that compare equal have in common

The scopes of a registry are compared by name, and an entry is compared with its features and
variations in order. The split form of a feature is compared like the scopes, by the names of its
parts. So all that two registries that compare equal can differ in is the order of the scopes, which
no look-up sees, and the order of the parts inside split features (`Registry.reordered_of_same`).
-/

namespace GlobalStyles

/-! ### Entries -/

namespace Entries

theorem forall₂_of_sameOrdered {α : Type} {same : α → α → Bool} {a b : Entries α}
    (h : sameOrdered same a b = true) :
    List.Forall₂ (fun x y ↦ x.1 = y.1 ∧ same x.2 y.2 = true) a b := by
  induction a generalizing b with
  | nil =>
    cases b with
    | nil => exact .nil
    | cons => cases h
  | cons entry rest ih =>
    rcases b with _ | ⟨other, tail⟩
    · cases h
    · rw [sameOrdered, Bool.and_eq_true, Bool.and_eq_true, beq_iff_eq] at h
      exact .cons h.1 (ih h.2)

/-- Entries that are ordered alike with equal values are equal. -/
theorem eq_of_sameOrdered {α : Type} [BEq α] [LawfulBEq α] {a b : Entries α}
    (h : sameOrdered (· == ·) a b = true) : a = b := by
  refine List.forall₂_eq_eq_eq ▸ (forall₂_of_sameOrdered h).imp ?_
  rintro ⟨key, value⟩ ⟨other, second⟩ ⟨hkey, hvalue⟩
  exact Prod.ext hkey (eq_of_beq hvalue)

/-- Entries that are the same in any order are as many, and each finds its like under its key. -/
theorem sameUnordered_iff {α : Type} {same : α → α → Bool} {a b : Entries α} :
    sameUnordered same a b = true ↔ a.length = b.length ∧
      ∀ entry ∈ a, ∃ other, get? b entry.1 = some other ∧ same entry.2 other = true := by
  rw [sameUnordered, Bool.and_eq_true, beq_iff_eq, List.all_eq_true]
  exact and_congr_right fun _ ↦ forall₂_congr fun _ _ ↦ Option.any_eq_true _ _

theorem get?_of_sameUnordered {α : Type} {same : α → α → Bool} {a b : Entries α}
    (h : sameUnordered same a b = true) {key : String} {value : α}
    (hget : get? a key = some value) :
    ∃ other, get? b key = some other ∧ same value other = true :=
  (sameUnordered_iff.1 h).2 (key, value) (mem_of_get? hget)

/-- As many different keys, each of which stands on the other side too, are all the keys there. -/
theorem keys_perm_of_sameUnordered {α : Type} {same : α → α → Bool} {a b : Entries α}
    (ha : (keys a).Nodup) (h : sameUnordered same a b = true) : (keys a).Perm (keys b) := by
  obtain ⟨hlength, hsame⟩ := sameUnordered_iff.1 h
  refine (List.subperm_of_subset ha fun key hkey ↦ ?_).perm_of_length_le ?_
  · obtain ⟨entry, hentry, rfl⟩ := List.mem_map.1 hkey
    obtain ⟨other, hother, -⟩ := hsame entry hentry
    exact (mem_keys_iff b entry.1).2 (Option.isSome_of_eq_some hother)
  · rw [keys, keys, List.length_map, List.length_map, hlength]

/-- Without a key twice, they are the same list in another order. -/
theorem perm_of_sameUnordered {α : Type} [BEq α] [LawfulBEq α] {a b : Entries α}
    (ha : (keys a).Nodup) (h : sameUnordered (· == ·) a b = true) : a.Perm b := by
  obtain ⟨hlength, hsame⟩ := sameUnordered_iff.1 h
  refine (List.subperm_of_subset (List.Nodup.of_map _ ha) fun entry hentry ↦ ?_).perm_of_length_le
    hlength.ge
  obtain ⟨other, hother, heq⟩ := hsame entry hentry
  rw [← eq_of_beq heq] at hother
  exact mem_of_get? hother

end Entries

/-! ### Selectors -/

/-- No split feature names a part twice. -/
def BlockSelectors.WellFormed (entry : BlockSelectors) : Prop :=
  ∀ feature selectors, (feature, FeatureSelector.split selectors) ∈ entry.featureSelectors →
    (Entries.keys selectors).Nodup

/-- No scope stands twice, and no split feature names a part twice. -/
structure Registry.WellFormed (registry : Registry) : Prop where
  nodup_keys : (Entries.keys registry).Nodup
  entry : ∀ scope entry, Entries.get? registry scope = some entry → entry.WellFormed

/-- Selectors of a feature that compare equal differ at most in the order of their parts. -/
theorem FeatureSelector.reordered_of_same {a b : FeatureSelector}
    (ha : ∀ selectors, a = split selectors → (Entries.keys selectors).Nodup)
    (h : a.same b = true) : a.Reordered b := by
  cases a <;> cases b
  case whole.whole first second =>
    obtain rfl := eq_of_beq h
    exact .whole first
  case split.split first second =>
    have hnodup := ha first rfl
    exact .split hnodup (Entries.perm_of_sameUnordered hnodup h)
  all_goals cases h

/-- Features that count as the same differ at most in the order inside a split. -/
theorem featuresReordered_of_same {a b : Entries FeatureSelector}
    (ha : ∀ feature selectors, (feature, FeatureSelector.split selectors) ∈ a →
      (Entries.keys selectors).Nodup)
    (h : Entries.sameOrdered FeatureSelector.same a b = true) : FeaturesReordered a b := by
  have hall := Entries.forall₂_of_sameOrdered h
  clear h
  induction hall with
  | nil => exact .nil
  | @cons x y rest rest' hhead _ ih =>
    refine .cons ⟨hhead.1, FeatureSelector.reordered_of_same (fun selectors hsplit ↦ ?_) hhead.2⟩
      (ih fun feature selectors hmem ↦ ha feature selectors (List.mem_cons_of_mem _ hmem))
    exact ha x.1 selectors (hsplit ▸ List.mem_cons_self)

/-- Entries that compare equal differ at most in the order of the parts of their features. -/
theorem BlockSelectors.exists_of_same {a b : BlockSelectors} (ha : a.WellFormed)
    (h : a.same b = true) :
    ∃ features, FeaturesReordered a.featureSelectors features ∧
      b = { a with featureSelectors := features } := by
  obtain ⟨selector, elements, duotone, layout, gap, features, variations⟩ := a
  obtain ⟨selector', elements', duotone', layout', gap', features', variations'⟩ := b
  simp only [BlockSelectors.same, Bool.and_eq_true, beq_iff_eq] at h
  obtain ⟨⟨⟨⟨⟨⟨rfl, rfl⟩, rfl⟩, rfl⟩, rfl⟩, hfeatures⟩, hvariations⟩ := h
  obtain rfl := Entries.eq_of_sameOrdered hvariations
  exact ⟨features', featuresReordered_of_same ha hfeatures, rfl⟩

/-- Two registries know the same scopes, with entries that differ at most in the order of the parts
of their features. -/
def Registry.Reordered (a b : Registry) : Prop :=
  ∀ scope, (Entries.get? a scope = none ∧ Entries.get? b scope = none) ∨
    ∃ entry features, Entries.get? a scope = some entry ∧
      FeaturesReordered entry.featureSelectors features ∧
      Entries.get? b scope = some { entry with featureSelectors := features }

/-- **Registries that count as the same differ at most in the order inside splits.** -/
theorem Registry.reordered_of_same {a b : Registry} (ha : a.WellFormed) (h : a.same b = true) :
    a.Reordered b := by
  intro scope
  rcases hget : Entries.get? a scope with _ | entry
  · have hkeys := (Entries.keys_perm_of_sameUnordered ha.nodup_keys h).mem_iff (a := scope)
    rw [Entries.mem_keys_iff, Entries.mem_keys_iff, hget] at hkeys
    exact .inl ⟨rfl, by simpa using hkeys⟩
  · obtain ⟨other, hother, hsame⟩ := Entries.get?_of_sameUnordered h hget
    obtain ⟨features, hfeatures, rfl⟩ :=
      BlockSelectors.exists_of_same (ha.entry scope entry hget) hsame
    exact .inr ⟨entry, features, rfl, hfeatures, hother⟩

/-! ### Parts in the same order -/

/-- The parts that a selector names, in order. -/
def FeatureSelector.names : FeatureSelector → List String
  | whole _ => []
  | split selectors => Entries.keys selectors

theorem FeatureSelector.Reordered.eq_of_names {a b : FeatureSelector} (h : a.Reordered b)
    (hnames : a.names = b.names) : a = b := by
  cases h with
  | whole => rfl
  | split hnodup h =>
    exact congrArg FeatureSelector.split
      (Entries.ext_get? hnames hnodup fun key ↦ Entries.get?_perm h hnodup key)

/-- With the names of all splits in order, reordered features are the same. -/
theorem FeaturesReordered.eq_of_names {a b : Entries FeatureSelector} (h : FeaturesReordered a b)
    (hnames : a.map (·.2.names) = b.map (·.2.names)) : a = b := by
  induction h with
  | nil => rfl
  | cons hhead _ ih =>
    obtain ⟨hfirst, hrest⟩ := List.cons.inj hnames
    rw [ih hrest, Prod.ext hhead.1 (hhead.2.eq_of_names hfirst)]

/-- Wherever both registries know a scope, its split features name their parts in the same order. -/
def Registry.SplitsInOrder (a b : Registry) : Prop :=
  ∀ scope entry other, Entries.get? a scope = some entry → Entries.get? b scope = some other →
    entry.featureSelectors.map (·.2.names) = other.featureSelectors.map (·.2.names)

/-- Reordered registries with their splits in order know a scope alike. -/
theorem Registry.Reordered.get?_eq {a b : Registry} (h : a.Reordered b)
    (hsplits : a.SplitsInOrder b) (scope : String) :
    Entries.get? a scope = Entries.get? b scope := by
  rcases h scope with ⟨hnone, hnone'⟩ | ⟨entry, features, hentry, hfeatures, hother⟩
  · rw [hnone, hnone']
  · obtain rfl := hfeatures.eq_of_names (hsplits scope entry _ hentry hother)
    rw [hentry, hother]

end GlobalStyles
