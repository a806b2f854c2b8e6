import GlobalStyles.Proofs.Selector.Parts
import GlobalStyles.Proofs.Text.Blank

/-!
# Selector lists below each other

The two ways of making a selector longer join its parts differently: a list below another one is
written with a blank after each comma and without the blanks around the parts, a suffix is put to
each part as it stands. Both are about parts all the same. The trimmed parts of a list below another
are the products of their trimmed parts (`trimmedParts_nest`), so lists can be put below each other
in any grouping (`nest_nest`), and a suffix can be put to the inner list first (`append_nest`).

All of it goes through two facts on lists of parts. The parts of what was joined are found again,
since no part has a comma (`parts_join`). And the blanks behind the commas belong to the parts
(`parts_nest`), where trimming takes them off and a suffix does not see them.

A blank part would be lost, together with the blank beside it, so that it makes a difference which
lists are put together first.
-/

namespace GlobalStyles.Selector

open Text (IsBlankText NoBlankEnd)

/-! ### Lists with blanks behind the commas -/

/-- Parts as they stand in a list that has a blank after each comma. -/
def spaced : List (List Char) → List (List Char)
  | [] => []
  | first :: rest => first :: rest.map (' ' :: ·)

theorem intercalate_spaced (list : List (List Char)) :
    [','].intercalate (spaced list) = [',', ' '].intercalate list := by
  rcases list with _ | ⟨first, rest⟩
  · rfl
  · induction rest generalizing first with
    | nil => rfl
    | cons next rest ih =>
      rw [spaced, List.map_cons, List.intercalate_cons_cons, List.intercalate_cons_cons,
        List.intercalate_cons_cons_left, ← spaced, ih]
      simp

/-- The blanks behind the commas are trimmed off. -/
theorem map_trim_spaced (list : List (List Char)) :
    (spaced list).map Text.trim = list.map Text.trim := by
  rcases list with _ | ⟨first, rest⟩
  · rfl
  · rw [spaced, List.map_cons, List.map_cons, List.map_map]
    rfl

/-- A suffix is put behind a part, the blank stands in front of it. -/
theorem map_append_spaced (list : List (List Char)) (suffix : List Char) :
    (spaced list).map (· ++ suffix) = spaced (list.map (· ++ suffix)) := by
  rcases list with _ | ⟨first, rest⟩
  · rfl
  · simp [spaced]

/-! ### One list below another -/

/-- Each of the texts `outer` with each of the texts `inner` behind it, after a blank: first those
with the first of `outer`, in the order of `inner`, then those with the second, and so on. -/
def below (outer inner : List (List Char)) : List (List Char) :=
  outer.flatMap fun o ↦ inner.map fun i ↦ o ++ ' ' :: i

theorem below_assoc (a b c : List (List Char)) : below (below a b) c = below a (below b c) := by
  simp [below, List.flatMap_assoc, List.flatMap_map, List.map_flatMap, Function.comp_def]

theorem below_ne_nil {a b : List (List Char)} (ha : a ≠ []) (hb : b ≠ []) : below a b ≠ [] := by
  obtain ⟨first, rest, rfl⟩ := List.exists_cons_of_ne_nil ha
  simpa [below] using fun hfirst ↦ absurd hfirst hb

theorem map_append_below (a b : List (List Char)) (suffix : List Char) :
    (below a b).map (· ++ suffix) = below a (b.map (· ++ suffix)) := by
  simp [below, List.map_flatMap, Function.comp_def]

/-- The parts of a selector list without the blanks around them. -/
def trimmedParts (selector : String) : List (List Char) :=
  (parts selector.toList).map Text.trim

theorem trimmedParts_ne_nil (selector : String) : trimmedParts selector ≠ [] := by
  simpa [trimmedParts] using parts_ne_nil selector.toList

/-- A selector list of which no part is blank. -/
def NoBlankPart (selector : String) : Prop :=
  ∀ part ∈ parts selector.toList, ¬IsBlankText part

instance (selector : String) : Decidable (NoBlankPart selector) :=
  List.decidableBAll _ _

theorem nest_eq (outer inner : String) :
    nest outer inner =
      String.ofList ([',', ' '].intercalate (below (trimmedParts outer) (trimmedParts inner))) := by
  simp [nest, nestParts, below, trimmedParts, List.flatMap_map, Function.comp_def]

theorem comma_notMem_of_mem_trimmedParts {selector : String} {part : List Char}
    (h : part ∈ trimmedParts selector) : ',' ∉ part := by
  obtain ⟨whole, hwhole, rfl⟩ := List.mem_map.1 h
  exact fun hcomma ↦ comma_notMem_of_mem_parts hwhole (Text.trim_subset whole hcomma)

/-- The parts of a list below another, with the blanks behind the commas. -/
theorem parts_nest (outer inner : String) :
    parts (nest outer inner).toList =
      spaced (below (trimmedParts outer) (trimmedParts inner)) := by
  have hcomma : ∀ part ∈ below (trimmedParts outer) (trimmedParts inner), ',' ∉ part := by
    intro part hpart
    obtain ⟨o, ho, hpart⟩ := List.mem_flatMap.1 hpart
    obtain ⟨i, hi, rfl⟩ := List.mem_map.1 hpart
    simp [comma_notMem_of_mem_trimmedParts ho, comma_notMem_of_mem_trimmedParts hi]
  rw [nest_eq, String.toList_ofList, ← intercalate_spaced]
  obtain ⟨first, rest, hlist⟩ := List.exists_cons_of_ne_nil
    (below_ne_nil (trimmedParts_ne_nil outer) (trimmedParts_ne_nil inner))
  rw [hlist] at hcomma ⊢
  refine parts_join (List.cons_ne_nil _ _) ?_
  simpa [spaced] using hcomma

/-- **The trimmed parts of a list below another are the products of their trimmed parts.** -/
theorem trimmedParts_nest {outer inner : String} (houter : NoBlankPart outer)
    (hinner : NoBlankPart inner) :
    trimmedParts (nest outer inner) = below (trimmedParts outer) (trimmedParts inner) := by
  rw [trimmedParts, parts_nest, map_trim_spaced]
  refine (List.map_congr_left fun part hpart ↦ ?_).trans (List.map_id _)
  obtain ⟨x, hx, hpart⟩ := List.mem_flatMap.1 hpart
  obtain ⟨y, hy, rfl⟩ := List.mem_map.1 hpart
  obtain ⟨o, ho, rfl⟩ := List.mem_map.1 hx
  obtain ⟨i, hi, rfl⟩ := List.mem_map.1 hy
  -- the product begins as the outer part does and ends as the inner one
  have hone : Text.trim o ≠ [] := mt (Text.trim_eq_nil_iff o).1 (houter o ho)
  have hine : Text.trim i ≠ [] := mt (Text.trim_eq_nil_iff i).1 (hinner i hi)
  refine Text.trim_eq_self ?_ ?_
  · rw [List.head?_append_of_ne_nil _ hone]
    exact Text.any_head?_trim o
  · rw [List.append_cons]
    exact (Text.noBlankEnd_trim i).append_left hine _

/-- **Lists can be put below each other in any grouping.** -/
theorem nest_nest {a b c : String} (ha : NoBlankPart a) (hb : NoBlankPart b)
    (hc : NoBlankPart c) : nest (nest a b) c = nest a (nest b c) := by
  rw [nest_eq, trimmedParts_nest ha hb, below_assoc, ← trimmedParts_nest hb hc, ← nest_eq]

/-! ### Suffixes -/

theorem trimmedParts_append {selector suffix : String} (h : NoBlankPart selector)
    (hends : ∀ part ∈ parts selector.toList, NoBlankEnd part) (hcomma : ',' ∉ suffix.toList)
    (hsuffix : NoBlankEnd suffix.toList) :
    trimmedParts (append selector suffix) =
      (trimmedParts selector).map (· ++ suffix.toList) := by
  rw [trimmedParts, parts_append selector hcomma, trimmedParts, List.map_map, List.map_map]
  exact List.map_congr_left fun part hpart ↦
    Text.trim_append_of_noBlankEnd (h part hpart) (hends part hpart) hsuffix

/-- **A suffix can be put to the inner list first.** -/
theorem append_nest (outer : String) {inner suffix : String} (h : NoBlankPart inner)
    (hends : ∀ part ∈ parts inner.toList, NoBlankEnd part) (hcomma : ',' ∉ suffix.toList)
    (hsuffix : NoBlankEnd suffix.toList) :
    append (nest outer inner) suffix = nest outer (append inner suffix) := by
  rw [append, parts_nest, map_append_spaced, map_append_below, intercalate_spaced, nest_eq,
    trimmedParts_append h hends hcomma hsuffix]

/-- **The algebra of selector lists.** While no part is blank, the parts of a list below another are
the products of their parts, in the order of the outer ones and then of the inner ones; putting lists
below each other is associative; and a suffix can be put to the inner list first, if neither it nor a
part of that list ends in a blank. -/
theorem nest_laws {a b c : String} (ha : NoBlankPart a) (hb : NoBlankPart b)
    (hc : NoBlankPart c) :
    trimmedParts (nest a b) = below (trimmedParts a) (trimmedParts b) ∧
      nest (nest a b) c = nest a (nest b c) ∧
      ∀ suffix : String, ',' ∉ suffix.toList → NoBlankEnd suffix.toList →
        (∀ part ∈ parts b.toList, NoBlankEnd part) →
          append (nest a b) suffix = nest a (append b suffix) :=
  ⟨trimmedParts_nest ha hb, nest_nest ha hb hc,
    fun _ hcomma hsuffix hends ↦ append_nest a hb hends hcomma hsuffix⟩

/-- Two blocks, two headings with a blank to spare, and what stands in them. -/
theorem nest_laws_headings :
    NoBlankPart ".a, .b" ∧ NoBlankPart " h1,h2" ∧ NoBlankPart "em" ∧
      trimmedParts (nest ".a, .b" " h1,h2") =
        [".a h1", ".a h2", ".b h1", ".b h2"].map String.toList ∧
      nest (nest ".a, .b" " h1,h2") "em" = nest ".a, .b" (nest " h1,h2" "em") ∧
      append (nest ".a, .b" " h1,h2") ":hover" = nest ".a, .b" (append " h1,h2" ":hover") := by
  have ha : NoBlankPart ".a, .b" := by decide +kernel
  have hb : NoBlankPart " h1,h2" := by decide +kernel
  have hc : NoBlankPart "em" := by decide +kernel
  obtain ⟨hparts, hgroup, hsuffix⟩ := nest_laws ha hb hc
  refine ⟨ha, hb, hc, hparts.trans (by decide +kernel), hgroup, ?_⟩
  exact hsuffix ":hover" (by decide +kernel) (by decide +kernel) (by decide +kernel)

/-- A blank part is lost. -/
example : nest (nest "" "a") "b" = "a b" ∧ nest "" (nest "a" "b") = " a b" := by decide +kernel

end GlobalStyles.Selector
