import GlobalStyles.Selector
import Mathlib.Data.List.Basic

/-!
# The parts of selector lists

A selector list is its parts with commas between them, so whatever is done to a list part by part is
known from the parts. They are found again in a joined list, since none has a comma (`parts_join`);
and where a change leaves every part as long as another one does, the lists are the same only if
the parts are, one by one (`intercalate_map_eq_iff`). So a suffix that was put to every part can be
read off the list (`append_right_cancel`).
-/

namespace GlobalStyles.Selector

/-! ### Parts of joined lists -/

theorem parts_ne_nil (selector : List Char) : parts selector ≠ [] :=
  List.splitOn_ne_nil ',' selector

/-- No part has a comma. -/
theorem comma_notMem_of_mem_parts {selector part : List Char} (h : part ∈ parts selector) :
    ',' ∉ part := by
  induction selector generalizing part with
  | nil =>
    rw [List.mem_singleton.1 h]
    exact List.not_mem_nil
  | cons c rest ih =>
    rw [parts, List.splitOn_cons_eq_if_modifyHead] at h
    obtain ⟨first, others, hparts⟩ := List.exists_cons_of_ne_nil (List.splitOn_ne_nil ',' rest)
    rw [parts, hparts] at ih
    rw [hparts] at h
    split at h <;> rename_i hcomma
    · rcases List.mem_cons.1 h with rfl | h
      · exact List.not_mem_nil
      · exact ih h
    · rcases List.mem_cons.1 h with rfl | h
      · have hc : ',' ≠ c := fun heq ↦ hcomma (beq_iff_eq.2 heq.symm)
        simpa [hc] using ih List.mem_cons_self
      · exact ih (List.mem_cons_of_mem _ h)

/-- Parts that are joined by commas are found again. -/
theorem parts_join {list : List (List Char)} (hne : list ≠ []) (h : ∀ part ∈ list, ',' ∉ part) :
    parts ([','].intercalate list) = list :=
  List.splitOn_intercalate ',' h hne

/-- The parts of a selector, with a suffix put to each. -/
theorem parts_append (selector : String) {suffix : String} (h : ',' ∉ suffix.toList) :
    parts (append selector suffix).toList = (parts selector.toList).map (· ++ suffix.toList) := by
  rw [append, String.toList_ofList, parts_join]
  · simpa using parts_ne_nil selector.toList
  · simpa [h] using fun part hpart ↦ comma_notMem_of_mem_parts hpart

/-! ### Joined lists of equal lengths -/

/-- Lists whose members have the same lengths are the same joined exactly if their members are. -/
theorem intercalate_map_eq_iff {α β : Type} {separator : List β} {f g : α → List β}
    {list : List α} (h : ∀ x ∈ list, (f x).length = (g x).length) :
    separator.intercalate (list.map f) = separator.intercalate (list.map g) ↔
      ∀ x ∈ list, f x = g x := by
  induction list with
  | nil => simp
  | cons x rest ih =>
    obtain ⟨hx, hrest⟩ := List.forall_mem_cons.1 h
    rcases rest with _ | ⟨y, rest⟩
    · simp
    · have hjoin (k : α → List β) : separator.intercalate ((x :: y :: rest).map k) =
          k x ++ (separator ++ separator.intercalate ((y :: rest).map k)) := by
        rw [← List.append_assoc]
        exact List.intercalate_cons_cons
      rw [hjoin f, hjoin g, List.forall_mem_cons, ← ih hrest]
      constructor
      · intro heq
        obtain ⟨hfirst, hothers⟩ := List.append_inj heq hx
        exact ⟨hfirst, List.append_cancel_left hothers⟩
      · rintro ⟨hfirst, hothers⟩
        rw [hfirst, hothers]

theorem length_intercalate_map_append (suffix : List Char) (parts : List (List Char)) :
    ([','].intercalate (parts.map (· ++ suffix))).length =
      ([','].intercalate parts).length + parts.length * suffix.length := by
  induction parts with
  | nil => simp
  | cons part rest ih =>
    rcases rest with - | ⟨next, rest⟩
    · simp
    · simp only [List.map_cons, List.intercalate_cons_cons, List.length_append, List.length_cons]
        at ih ⊢
      rw [ih, Nat.succ_mul (rest.length + 1)]
      omega

/-- A suffix can be read off the selector it was put to. -/
theorem append_right_cancel {selector a b : String} (h : append selector a = append selector b) :
    a = b := by
  have hlists := String.ofList_inj.1 h
  obtain ⟨part, hpart⟩ := List.exists_mem_of_ne_nil _ (parts_ne_nil selector.toList)
  have hlength : a.toList.length = b.toList.length := by
    have hall := congrArg List.length hlists
    rw [length_intercalate_map_append, length_intercalate_map_append,
      Nat.add_left_cancel_iff] at hall
    exact Nat.eq_of_mul_eq_mul_left (List.length_pos_of_mem hpart) hall
  -- suffixes of one length leave the parts to be compared one by one
  rw [intercalate_map_eq_iff fun part _ ↦ by simp [hlength]] at hlists
  exact String.toList_inj.1 (List.append_cancel_left (hlists part hpart))

end GlobalStyles.Selector
