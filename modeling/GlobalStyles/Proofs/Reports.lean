import GlobalStyles.Diagnostic
import Mathlib.Data.List.Induction
import Mathlib.Data.List.Nodup

/-!
# Collections of problems

The set in a collection of problems is the set of its list (`Diagnostics.Faithful`), so a collection
is decided by its list, and a problem is added exactly when it was not reported before
(`toList_ofReports_concat`). What a collection keeps of some reports follows by induction on the
last report: each problem is kept once if it was reported at all, in the order of the first reports,
and leaving its reports out leaves it out and nothing else. Together this says that a run of reports
makes an ordered set, at every point of the run (`ofReports_isOrderedSet`).
-/

namespace GlobalStyles.Diagnostics

/-! ### One report -/

/-- The set holds what the list holds. -/
def Faithful (diagnostics : Diagnostics) : Prop :=
  ∀ diagnostic, diagnostics.seen.contains diagnostic = true ↔ diagnostic ∈ diagnostics.entries

theorem faithful_empty : Faithful empty := by
  simp [Faithful, empty]

theorem entries_report {diagnostics : Diagnostics} (h : diagnostics.Faithful)
    (diagnostic : Diagnostic) :
    (diagnostics.report diagnostic).entries =
      if diagnostic ∈ diagnostics.entries then diagnostics.entries
      else diagnostics.entries ++ [diagnostic] := by
  simp only [report, h diagnostic]
  split <;> rfl

/-- A problem that is there already changes nothing. -/
theorem Faithful.report_eq_self {diagnostics : Diagnostics} (h : diagnostics.Faithful)
    {diagnostic : Diagnostic} (hmem : diagnostic ∈ diagnostics.entries) :
    diagnostics.report diagnostic = diagnostics :=
  if_pos ((h diagnostic).2 hmem)

theorem Faithful.report {diagnostics : Diagnostics} (h : diagnostics.Faithful)
    (diagnostic : Diagnostic) : (diagnostics.report diagnostic).Faithful := by
  intro other
  rw [Diagnostics.report]
  split
  · exact h other
  · rw [Std.HashSet.contains_insert, Bool.or_eq_true, beq_iff_eq, h other, List.mem_append,
      List.mem_singleton, or_comm, eq_comm]

/-! ### A run of reports -/

theorem ofReports_concat (earlier : List Diagnostic) (last : Diagnostic) :
    ofReports (earlier ++ [last]) = (ofReports earlier).report last :=
  List.foldl_append

theorem faithful_ofReports (reports : List Diagnostic) : (ofReports reports).Faithful := by
  induction reports using List.reverseRecOn with
  | nil => exact faithful_empty
  | append_singleton earlier last ih => exact ofReports_concat earlier last ▸ ih.report last

/-- What is kept of some reports are the problems reported. -/
theorem mem_toList_ofReports_iff (reports : List Diagnostic) (diagnostic : Diagnostic) :
    diagnostic ∈ (ofReports reports).toList ↔ diagnostic ∈ reports := by
  induction reports using List.reverseRecOn with
  | nil => rfl
  | append_singleton earlier last ih =>
    rw [ofReports_concat, toList, entries_report (faithful_ofReports earlier), List.mem_append,
      ← ih, toList, List.mem_singleton]
    split <;> rename_i hmem
    · exact ⟨.inl, fun hor ↦ hor.elim id fun heq ↦ heq ▸ hmem⟩
    · rw [List.mem_append, List.mem_singleton]

/-- The last of some reports adds its problem, unless an earlier one did. -/
theorem toList_ofReports_concat (earlier : List Diagnostic) (last : Diagnostic) :
    (ofReports (earlier ++ [last])).toList =
      if last ∈ earlier then (ofReports earlier).toList
      else (ofReports earlier).toList ++ [last] := by
  rw [ofReports_concat, toList, entries_report (faithful_ofReports earlier)]
  exact if_congr (mem_toList_ofReports_iff earlier last) rfl rfl

theorem nodup_toList_ofReports (reports : List Diagnostic) : (ofReports reports).toList.Nodup := by
  induction reports using List.reverseRecOn with
  | nil => exact List.nodup_nil
  | append_singleton earlier last ih =>
    rw [toList_ofReports_concat]
    split <;> rename_i hmem
    · exact ih
    · rw [← List.concat_eq_append]
      exact ih.concat (mt (mem_toList_ofReports_iff earlier last).1 hmem)

/-- Reports of different problems are kept as they are. -/
theorem toList_ofReports_of_nodup {reports : List Diagnostic} (h : reports.Nodup) :
    (ofReports reports).toList = reports := by
  induction reports using List.reverseRecOn with
  | nil => rfl
  | append_singleton earlier last ih =>
    rw [← List.concat_eq_append, List.nodup_concat] at h
    rw [toList_ofReports_concat, if_neg h.1, ih h.2]

/-- Reports that are left out leave their problems out, and nothing else. -/
theorem toList_ofReports_filter (p : Diagnostic → Bool) (reports : List Diagnostic) :
    (ofReports (reports.filter p)).toList = (ofReports reports).toList.filter p := by
  induction reports using List.reverseRecOn with
  | nil => rfl
  | append_singleton earlier last ih =>
    rw [List.filter_append, toList_ofReports_concat, apply_ite (List.filter p), List.filter_append,
      ← ih]
    by_cases hp : p last = true
    · -- a problem that is kept is new to both collections or to neither
      rw [List.filter_cons_of_pos hp, List.filter_nil, toList_ofReports_concat]
      exact if_congr (List.mem_filter.trans (and_iff_left hp)) rfl rfl
    · rw [List.filter_cons_of_neg hp, List.filter_nil, List.append_nil, List.append_nil, ite_self]

/-- The reports are kept without those that repeat an earlier one. -/
theorem toList_ofReports (reports : List Diagnostic) :
    (ofReports reports).toList = reports.eraseDups := by
  induction reports using List.reverseRecOn with
  | nil => rfl
  | append_singleton earlier last ih =>
    rw [toList_ofReports_concat, ih, List.eraseDups_append]
    split <;> rename_i hmem
    · have hnothing : [last].removeAll earlier = [] := by simpa [List.removeAll] using hmem
      rw [hnothing, List.eraseDups_nil, List.append_nil]
    · have hlast : [last].removeAll earlier = [last] := by simpa [List.removeAll] using hmem
      rw [hlast, List.eraseDups_cons, List.filter_nil, List.eraseDups_nil]

theorem isEmpty_ofReports_iff (reports : List Diagnostic) :
    (ofReports reports).isEmpty = true ↔ reports = [] := by
  rw [isEmpty, List.isEmpty_iff, List.eq_nil_iff_forall_not_mem, List.eq_nil_iff_forall_not_mem]
  exact forall_congr' fun diagnostic ↦ not_congr (mem_toList_ofReports_iff reports diagnostic)

/-- **A run of reports makes an ordered set.** At every point of a run the set holds what the list
holds, and the list holds each of the problems so far once, at the place of its first report; how
many there are and whether there is none follow it. What was reported by then changes nothing when
it is reported again, then or after anything that comes later. -/
theorem ofReports_isOrderedSet (earlier later : List Diagnostic) :
    (∀ diagnostic, diagnostic ∈ (ofReports earlier).seen ↔
        diagnostic ∈ (ofReports earlier).entries) ∧
      (ofReports earlier).entries.Nodup ∧
      (ofReports earlier).entries = earlier.eraseDups ∧
      (ofReports earlier).size = earlier.eraseDups.length ∧
      ((ofReports earlier).isEmpty = true ↔ earlier = []) ∧
      ∀ diagnostic ∈ earlier,
        (ofReports (earlier ++ later)).report diagnostic = ofReports (earlier ++ later) := by
  have hentries : (ofReports earlier).entries = earlier.eraseDups := toList_ofReports earlier
  refine ⟨faithful_ofReports earlier, nodup_toList_ofReports earlier, hentries,
    congrArg List.length hentries, isEmpty_ofReports_iff earlier, fun diagnostic hmem ↦ ?_⟩
  apply (faithful_ofReports (earlier ++ later)).report_eq_self
  exact (mem_toList_ofReports_iff _ diagnostic).2 (List.mem_append_left later hmem)

/-- One token in two scopes makes two problems, each kept once, also after an unknown scope. -/
theorem ofReports_isOrderedSet_two_scopes :
    let hero := Diagnostic.unresolvedReference "ref:preset|color|nope" (some "core/hero")
    let root := Diagnostic.unresolvedReference "ref:preset|color|nope" none
    let unknown := Diagnostic.registryMismatch "core/hero"
    hero ∈ [hero, root, hero] ∧ (ofReports [hero, root, hero]).entries = [hero, root] ∧
      (ofReports [hero, root, hero]).size = 2 ∧
      (ofReports [hero, root, hero, unknown]).report hero =
        ofReports [hero, root, hero, unknown] := by
  intro hero root unknown
  obtain ⟨-, -, hentries, hsize, -, hagain⟩ := ofReports_isOrderedSet [hero, root, hero] [unknown]
  have hfirst : [hero, root, hero].eraseDups = [hero, root] := by decide
  rw [hfirst] at hentries hsize
  have hmem : hero ∈ [hero, root, hero] := List.mem_cons_self
  exact ⟨hmem, hentries, hsize, hagain hero hmem⟩

end GlobalStyles.Diagnostics
