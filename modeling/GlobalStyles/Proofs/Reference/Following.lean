import GlobalStyles.Proofs.Json.Strings
import Mathlib.Data.List.Basic

/-!
# Following references

`Reference.follow` goes from text to text and stops at the first that leads nowhere or was met
before. What it meets is the chain of a value, `Reference.after?`, where no text is remembered, and
where it stops can be said of the chain alone: at the first place where it leads nowhere or comes
back to a value that it had before (`Reference.FirstStop`).

`Reference.follow` carries a bound for the number of its steps, which is never the reason to stop.
Following without a bound is the relation `Reference.Follows`, which counts its passes; each pass
meets another string of the tree, so there are no more passes than the bound allows
(`Reference.follows_resolve`). In particular a value that leads no further is resolved to exactly if
it is on the chain (`Reference.resolve_eq_iff`).
-/

namespace GlobalStyles.Reference

open Json (strings strings_subset_of_get? strings_subset_of_member? strings_subset_of_mem_items?)

/-! ### The chain of a value -/

section

variable (next? : String → Option Json)

/-- What a value leads to. Only texts lead on. -/
def step? (value : Json) : Option Json :=
  value.text?.bind next?

/-- The value after so many steps, if there are so many. -/
def after? (value : Json) : Nat → Option Json
  | 0 => some value
  | n + 1 => (after? value n).bind (step? next?)

theorem after?_add (value : Json) (m n : Nat) :
    after? next? value (m + n) = (after? next? value m).bind fun found ↦ after? next? found n := by
  induction n with
  | zero => simp [after?]
  | succ n ih =>
    rw [← Nat.add_assoc, after?, ih, Option.bind_assoc]
    rfl

theorem after?_succ (value : Json) (n : Nat) :
    after? next? value (n + 1) = (step? next? value).bind fun found ↦ after? next? found n := by
  rw [Nat.add_comm, after?_add]
  rfl

variable {next?}

/-- A value that comes back never ends. -/
theorem isSome_after?_of_eq {value found : Json} {m n : Nat} (hlt : m < n)
    (hm : after? next? value m = some found) (hn : after? next? value n = some found) (k : Nat) :
    (after? next? value k).isSome := by
  induction k using Nat.strongRecOn with
  | ind k ih =>
    rcases Nat.le_total k n with hle | hle
    · obtain ⟨rest, rfl⟩ := Nat.exists_eq_add_of_le hle
      rw [after?_add] at hn
      exact Option.isSome_of_mem (Option.bind_eq_some_iff.1 hn).choose_spec.1
    · -- from the second time on the chain repeats what came after the first
      obtain ⟨rest, rfl⟩ := Nat.exists_eq_add_of_le hle
      have hsame : after? next? value (n + rest) = after? next? value (m + rest) := by
        rw [after?_add, after?_add, hm, hn]
      rw [hsame]
      exact ih (m + rest) (by omega)

/-- A chain has at most one end. -/
theorem eq_of_after?_of_step?_eq_none {value first second : Json} {m n : Nat}
    (hm : after? next? value m = some first) (hfirst : step? next? first = none)
    (hn : after? next? value n = some second) (hsecond : step? next? second = none) :
    first = second := by
  have hle {v w : Json} {i j : Nat} (hi : after? next? value i = some v)
      (hv : step? next? v = none) (hj : after? next? value j = some w) : j ≤ i := by
    by_contra hlt
    obtain ⟨rest, rfl⟩ := Nat.exists_eq_add_of_lt (Nat.lt_of_not_le hlt)
    rw [Nat.add_assoc, after?_add, hi, Option.bind_some, after?_succ, hv] at hj
    cases hj
  obtain rfl := Nat.le_antisymm (hle hn hsecond hm) (hle hm hfirst hn)
  exact Option.some.inj (hm.symm.trans hn)

/-! ### Where a chain stops -/

/-- A chain stops at a place where it leads nowhere, or comes back to a value that it had before. -/
def StopsAt (next? : String → Option Json) (value : Json) (n : Nat) : Prop :=
  ∃ found, after? next? value n = some found ∧
    (step? next? found = none ∨ ∃ i < n, after? next? value i = some found)

/-- The first place where a chain stops. -/
structure FirstStop (next? : String → Option Json) (value : Json) (n : Nat) : Prop where
  stops : StopsAt next? value n
  not_before : ∀ i < n, ¬ StopsAt next? value i

theorem FirstStop.unique {value : Json} {m n : Nat} (hm : FirstStop next? value m)
    (hn : FirstStop next? value n) : m = n := by
  rcases Nat.lt_trichotomy m n with hlt | rfl | hlt
  · exact absurd hm.stops (hn.not_before m hlt)
  · rfl
  · exact absurd hn.stops (hm.not_before n hlt)

/-- A place of a later part of the chain, counted from the start. -/
theorem StopsAt.of_after? {value found : Json} {i j : Nat}
    (hi : after? next? value i = some found) (h : StopsAt next? found j) :
    StopsAt next? value (i + j) := by
  have hafter (k : Nat) : after? next? value (i + k) = after? next? found k := by
    rw [after?_add, hi, Option.bind_some]
  obtain ⟨last, hlast, hstop⟩ := h
  refine ⟨last, (hafter j).trans hlast, hstop.imp_right ?_⟩
  rintro ⟨k, hk, hagain⟩
  exact ⟨i + k, Nat.add_lt_add_left hk i, (hafter k).trans hagain⟩

/-- **A chain taken up again where it stopped stops at the same value.** If it leads nowhere, it
does so at once; if it came back, it goes round and comes back here first. -/
theorem FirstStop.exists_again {value last : Json} {n : Nat} (h : FirstStop next? value n)
    (hn : after? next? value n = some last) :
    ∃ m, FirstStop next? last m ∧ after? next? last m = some last := by
  obtain ⟨found, hfound, hstop⟩ := h.stops
  obtain rfl : last = found := Option.some.inj (hn.symm.trans hfound)
  rcases hstop with hend | ⟨i, hlt, hi⟩
  · exact ⟨0, ⟨⟨last, rfl, .inl hend⟩, fun _ h ↦ absurd h (Nat.not_lt_zero _)⟩, rfl⟩
  · obtain ⟨d, rfl⟩ := Nat.exists_eq_add_of_lt hlt
    have hround : after? next? last (d + 1) = some last := by
      rwa [Nat.add_assoc, after?_add, hi, Option.bind_some] at hn
    refine ⟨d + 1, ⟨⟨last, hround, .inr ⟨0, Nat.succ_pos d, rfl⟩⟩, fun j hj hstops ↦ ?_⟩, hround⟩
    exact h.not_before (i + j) (Nat.add_lt_add_left hj i) (hstops.of_after? hi)

/-! ### Following without a bound -/

/-- From a value, with some texts met before, so many passes lead to the last value. A pass ends the
run, or remembers the text and goes on with what it leads to. -/
inductive Follows (next? : String → Option Json) : List String → Json → Nat → Json → Prop
  | ends {met : List String} {value : Json} (hend : step? next? value = none) :
    Follows next? met value 1 value
  | again {met : List String} {text : String} (hmet : text ∈ met) :
    Follows next? met (.str text) 1 (.str text)
  | next {met : List String} {text : String} {found last : Json} {passes : Nat} (hmet : text ∉ met)
    (hnext : next? text = some found) (hrest : Follows next? (text :: met) found passes last) :
    Follows next? met (.str text) (passes + 1) last

/-- A run that begins at a place of a chain, having met what stands before it, ends at the first
place where the chain stops. -/
theorem Follows.firstStop {start value last : Json} {met : List String} {passes : Nat}
    (h : Follows next? met value passes last) {k : Nat} (hk : after? next? start k = some value)
    (hmet : ∀ text, text ∈ met ↔ ∃ i < k, after? next? start i = some (.str text))
    (hbefore : ∀ i < k, ¬ StopsAt next? start i) :
    ∃ n, k + passes = n + 1 ∧ after? next? start n = some last ∧ FirstStop next? start n := by
  induction h generalizing k with
  | ends hend => exact ⟨k, rfl, hk, ⟨_, hk, .inl hend⟩, hbefore⟩
  | @again met text hmem => exact ⟨k, rfl, hk, ⟨_, hk, .inr ((hmet text).1 hmem)⟩, hbefore⟩
  | @next met text found last passes hnew hnext _ ih =>
    have hsucc : after? next? start (k + 1) = some found := by
      rw [after?, hk, Option.bind_some]
      exact hnext
    -- the chain goes on here, and what stands here is new
    have hhere : ¬ StopsAt next? start k := by
      rintro ⟨other, hother, hstop⟩
      obtain rfl : .str text = other := Option.some.inj (hk.symm.trans hother)
      rcases hstop with hend | hagain
      · cases hnext.symm.trans hend
      · exact hnew ((hmet text).2 hagain)
    have hmet' : ∀ other, other ∈ text :: met ↔
        ∃ i < k + 1, after? next? start i = some (.str other) := by
      intro other
      simp only [List.mem_cons, Nat.exists_lt_succ_right, hmet, hk, Option.some.injEq,
        Json.str.injEq, or_comm, eq_comm]
    obtain ⟨n, hpasses, hn⟩ := ih hsucc hmet' fun i hi ↦ by
      rcases Nat.lt_succ_iff_lt_or_eq.1 hi with hlt | rfl
      · exact hbefore i hlt
      · exact hhere
    exact ⟨n, by omega, hn⟩

theorem Follows.firstStop_of_nil {value last : Json} {passes : Nat}
    (h : Follows next? [] value passes last) :
    ∃ n, passes = n + 1 ∧ after? next? value n = some last ∧ FirstStop next? value n := by
  simpa using h.firstStop (k := 0) rfl (by simp) (by simp)

/-! ### The bound is never the reason to stop -/

/-- How many of some texts were not met yet. -/
def unmet (texts met : List String) : Nat :=
  (texts.filter (· ∉ met)).length

theorem unmet_cons_lt {texts met : List String} {text : String} (hmem : text ∈ texts)
    (hmet : text ∉ met) : unmet texts (text :: met) < unmet texts met := by
  have hfilter : texts.filter (· ∉ text :: met) =
      (texts.filter (· ∉ met)).filter (· ≠ text) := by
    rw [List.filter_filter]
    refine List.filter_congr fun other _ ↦ ?_
    simp [List.mem_cons, not_or]
  rw [unmet, unmet, hfilter]
  exact List.length_filter_lt_length_iff_exists.2
    ⟨text, List.mem_filter.2 ⟨hmem, by simpa using hmet⟩, by simp⟩

/-- **Following takes at most one pass more than there are texts to meet.** With a bound above that
number it does what following without a bound does. -/
theorem follows_follow {texts : List String}
    (hclosed : ∀ text found, next? text = some (.str found) → found ∈ texts) :
    ∀ {steps : Nat} {met : List String} {value : Json},
      (∀ text, value = .str text → text ∈ texts) → unmet texts met < steps →
      ∃ passes ≤ unmet texts met + 1,
        Follows next? met value passes (follow next? steps met value) := by
  intro steps
  induction steps with
  | zero => exact fun _ h ↦ absurd h (Nat.not_lt_zero _)
  | succ steps ih =>
    intro met value hvalue hsteps
    rcases htext : value.text? with _ | text
    · -- no text: the end of the chain
      have hfollow : follow next? (steps + 1) met value = value := by
        cases value <;> first | rfl | cases htext
      rw [hfollow]
      exact ⟨1, Nat.le_add_left 1 _, .ends (by rw [step?, htext, Option.bind_none])⟩
    · obtain rfl := Json.eq_str_of_text? htext
      rw [follow]
      split
      · rename_i hmet
        exact ⟨1, Nat.le_add_left 1 _, .again hmet⟩
      · rename_i hmet
        rcases hnext : next? text with _ | found
        · exact ⟨1, Nat.le_add_left 1 _, .ends hnext⟩
        · have hlt := unmet_cons_lt (hvalue text rfl) hmet
          have hfound : ∀ other, found = .str other → other ∈ texts :=
            fun other hother ↦ hclosed text other (hother ▸ hnext)
          obtain ⟨passes, hle, hrun⟩ := @ih (text :: met) found hfound (by omega)
          exact ⟨passes + 1, by omega, .next hmet hnext hrun⟩

end

/-! ### What a value resolves to -/

theorem strings_subset_of_mem_candidates {category : PresetCategory} {settings item : Json}
    {scope : Option String} (h : item ∈ Preset.candidates category settings scope) :
    item.strings ⊆ settings.strings := by
  obtain ⟨source, hsource, h⟩ := List.mem_flatMap.1 h
  obtain ⟨origin, -, hitem⟩ := List.mem_flatMap.1 h
  have hcatalog : item.strings ⊆ source.strings := by
    rw [PresetCategory.catalog] at hitem
    rcases hitems : category.catalog? source origin with _ | items
    · rw [hitems] at hitem
      cases hitem
    · rw [hitems] at hitem
      obtain ⟨value, hvalue, hitems⟩ := Option.bind_eq_some_iff.1 hitems
      exact List.Subset.trans (strings_subset_of_mem_items? hitems hitem)
        (strings_subset_of_get? hvalue)
  rcases List.mem_append.1 hsource with hblock | hroot
  · obtain ⟨name, -, hget⟩ := Option.bind_eq_some_iff.1 (Option.mem_toList.1 hblock)
    exact List.Subset.trans hcatalog (strings_subset_of_get? hget)
  · rw [List.mem_singleton.1 hroot] at hcatalog
    exact hcatalog

/-- What a reference names has its strings from the settings. -/
theorem strings_subset_of_lookUp? {settings found : Json} {scope : Option String}
    {reference : Reference} (h : lookUp? settings scope reference = some found) :
    found.strings ⊆ settings.strings := by
  rcases reference with ⟨segment, slug⟩ | path
  · obtain ⟨category, -, h⟩ := Option.bind_eq_some_iff.1 h
    obtain ⟨item, hitem, h⟩ := Option.bind_eq_some_iff.1 h
    exact List.Subset.trans (strings_subset_of_member? h)
      (strings_subset_of_mem_candidates (List.mem_of_find?_eq_some hitem))
  · rw [lookUp?] at h
    split at h
    · rename_i value hblock
      cases h
      obtain ⟨name, -, hget⟩ := Option.bind_eq_some_iff.1 hblock
      exact strings_subset_of_get? hget
    · exact strings_subset_of_get? h

theorem strings_subset_of_target? {tree found : Json} {scope : Option String} {space text : String}
    (h : target? tree scope space text = some found) : found.strings ⊆ tree.strings := by
  obtain ⟨reference, -, h⟩ := Option.bind_eq_some_iff.1 h
  refine List.Subset.trans (strings_subset_of_lookUp? h) ?_
  rcases hsettings : tree.get? ["settings"] with _ | settings
  · exact List.nil_subset _
  · exact strings_subset_of_get? hsettings

section

variable (tree : Json) (scope : Option String) (value : Json) (space : String)

/-- **Resolving runs its course.** It takes at most two passes more than the tree has strings, and
ends where following without a bound ends. -/
theorem follows_resolve :
    ∃ passes ≤ tree.stringCount + 2,
      Follows (target? tree scope space) [] value passes (resolve tree scope value space) := by
  -- the texts that can be met: the value itself and what stands in the tree
  have hclosed : ∀ text found, target? tree scope space text = some (.str found) →
      found ∈ value.text?.toList ++ tree.strings := fun text found h ↦
    List.mem_append_right _ (strings_subset_of_target? h (List.mem_singleton_self found))
  have hvalue : ∀ text, value = .str text → text ∈ value.text?.toList ++ tree.strings := by
    rintro text rfl
    exact List.mem_append_left _ (List.mem_singleton_self text)
  have hunmet : unmet (value.text?.toList ++ tree.strings) [] ≤ tree.stringCount + 1 := by
    rw [unmet, Json.stringCount_eq]
    refine Nat.le_trans (List.length_filter_le _ _) ?_
    rw [List.length_append]
    have hle : value.text?.toList.length ≤ 1 := by cases value.text? <;> simp
    omega
  obtain ⟨passes, hle, hrun⟩ := follows_follow hclosed hvalue (Nat.lt_succ_of_le hunmet)
  exact ⟨passes, by omega, hrun⟩

/-- What a value resolves to stands where its chain first stops. -/
theorem exists_firstStop :
    ∃ n, after? (target? tree scope space) value n = some (resolve tree scope value space) ∧
      FirstStop (target? tree scope space) value n := by
  obtain ⟨passes, -, hrun⟩ := follows_resolve tree scope value space
  obtain ⟨n, -, hn, hstop⟩ := hrun.firstStop_of_nil
  exact ⟨n, hn, hstop⟩

variable {tree scope value space}

theorem resolve_eq_of_firstStop {last : Json} {n : Nat}
    (h : FirstStop (target? tree scope space) value n)
    (hn : after? (target? tree scope space) value n = some last) :
    resolve tree scope value space = last := by
  obtain ⟨m, hm, hstop⟩ := exists_firstStop tree scope value space
  obtain rfl := hstop.unique h
  exact Option.some.inj (hm.symm.trans hn)

end

/-- A text that is no reference leads nowhere. -/
theorem step?_eq_none {text space : String} (tree : Json) (scope : Option String)
    (h : parse? text space = none) : step? (target? tree scope space) (.str text) = none := by
  show target? tree scope space text = none
  rw [target?, h, Option.bind_none]

/-- **A value that leads no further is resolved to exactly if it is on the chain.** -/
theorem resolve_eq_iff {tree last : Json} {scope : Option String} {space : String}
    (hlast : step? (target? tree scope space) last = none) (value : Json) :
    resolve tree scope value space = last ↔
      ∃ n, after? (target? tree scope space) value n = some last := by
  obtain ⟨n, hn, ⟨found, hfound, hstop⟩, -⟩ := exists_firstStop tree scope value space
  obtain rfl : resolve tree scope value space = found := Option.some.inj (hn.symm.trans hfound)
  constructor
  · rintro rfl
    exact ⟨n, hn⟩
  · rintro ⟨m, hm⟩
    rcases hstop with hend | ⟨i, hi, hagain⟩
    · exact eq_of_after?_of_step?_eq_none hn hend hm hlast
    · -- a chain that comes back has no end
      have hsome := isSome_after?_of_eq hi hagain hn (m + 1)
      rw [after?, hm, Option.bind_some, hlast] at hsome
      cases hsome

/-- A text that leads on resolves to the end of a chain exactly if what it leads to does. -/
theorem resolve_str_eq_iff_of_target? {tree found last : Json} {scope : Option String}
    {space text : String} (h : target? tree scope space text = some found)
    (hlast : step? (target? tree scope space) last = none) :
    resolve tree scope (.str text) space = last ↔ resolve tree scope found space = last := by
  rw [resolve_eq_iff hlast, resolve_eq_iff hlast]
  have hstep : step? (target? tree scope space) (.str text) = some found := h
  constructor
  · rintro ⟨_ | n, hn⟩
    · obtain rfl : .str text = last := Option.some.inj hn
      cases hstep.symm.trans hlast
    · rw [after?_succ, hstep, Option.bind_some] at hn
      exact ⟨n, hn⟩
  · rintro ⟨n, hn⟩
    exact ⟨n + 1, by rwa [after?_succ, hstep, Option.bind_some]⟩

end GlobalStyles.Reference
