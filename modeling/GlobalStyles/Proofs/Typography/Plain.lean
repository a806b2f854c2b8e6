import GlobalStyles.Typography.Fluid
import Mathlib.Data.List.Infix
import Mathlib.Data.List.TakeWhile

/-!
# Only plain lengths become fluid

A text is read as a length exactly if, without the blanks around it, it is a plain number and the
name of a unit directly behind it, or none (`IsPlainLength`, `isSome_read?_iff`). The grammar says
which texts these are without an order among the units. The reader has one, because `rem` ends in
`em`; it finds the number all the same, since a number ends in a digit and no unit has one
(`suffix_append_iff_of_isDigit`).

A size that is no such length gives no scale, whatever bounds its preset has
(`FluidScale.compute?_of_read?_eq_none`), so it stays as it is written. So does every size whose
preset declines, and every size where neither the options nor the preset ask for fluid sizes.
-/

namespace GlobalStyles

namespace Length

/-- Digits alone, or digits, which may be missing, a point and at least one digit. -/
inductive IsPlainNumber : List Char → Prop where
  | whole {digits : List Char} (hne : digits ≠ []) (hdigits : ∀ c ∈ digits, c.isDigit) :
      IsPlainNumber digits
  | decimal {whole fraction : List Char} (hwhole : ∀ c ∈ whole, c.isDigit) (hne : fraction ≠ [])
      (hfraction : ∀ c ∈ fraction, c.isDigit) : IsPlainNumber (whole ++ '.' :: fraction)

/-- The texts that can stand behind the number of a length. -/
def unitTexts : List String :=
  ["", "px", "rem", "em"]

/-- A plain number and the name of a unit directly behind it, or none. -/
def IsPlainLength (s : List Char) : Prop :=
  ∃ number, ∃ unit ∈ unitTexts, IsPlainNumber number ∧ s = number ++ unit.toList

/-! ### Numbers -/

theorem isPlainNumber_of_isSome {s : List Char} (h : (plainDigits? s).isSome) :
    IsPlainNumber s := by
  have hwhole : ∀ c ∈ s.takeWhile Char.isDigit, c.isDigit := fun c ↦ List.mem_takeWhile_imp
  have hs := List.takeWhile_append_dropWhile (p := Char.isDigit) (l := s)
  rw [plainDigits?] at h
  split at h <;> rename_i hrest
  · -- digits up to the end
    rw [hrest, List.append_nil] at hs
    rw [hs] at h hwhole
    refine .whole ?_ hwhole
    rintro rfl
    exact absurd h (by decide)
  · -- a point behind the digits
    rw [hrest] at hs
    rw [← hs]
    split at h <;> rename_i hfraction
    · cases h
    · simp only [Bool.or_eq_true, List.isEmpty_iff, Bool.not_eq_true', not_or, Bool.not_eq_false,
        List.all_eq_true] at hfraction
      exact .decimal hwhole hfraction.1 hfraction.2
  · cases h

theorem IsPlainNumber.isSome_plainDigits? {number : List Char} (h : IsPlainNumber number) :
    (plainDigits? number).isSome := by
  cases h with
  | whole hne hdigits =>
    rw [plainDigits?, List.takeWhile_eq_self_iff.2 hdigits, List.dropWhile_eq_nil_iff.2 hdigits]
    simp [hne]
  | decimal hwhole hne hfraction =>
    have hpoint : ¬Char.isDigit '.' = true := by decide
    rw [plainDigits?, List.dropWhile_append_of_pos hwhole, List.dropWhile_cons_of_neg hpoint]
    simp [hne, List.all_eq_true.2 hfraction]

/-- A plain number ends in a digit. -/
theorem IsPlainNumber.exists_eq_append_digit {number : List Char} (h : IsPlainNumber number) :
    ∃ init c, c.isDigit = true ∧ number = init ++ [c] := by
  cases h with
  | whole hne hdigits =>
    exact ⟨number.dropLast, number.getLast hne, hdigits _ (List.getLast_mem hne),
      (List.dropLast_append_getLast hne).symm⟩
  | @decimal whole fraction _ hne hfraction =>
    refine ⟨whole ++ '.' :: fraction.dropLast, fraction.getLast hne,
      hfraction _ (List.getLast_mem hne), ?_⟩
    rw [List.append_assoc, List.cons_append, List.dropLast_append_getLast hne]

/-! ### Units -/

/-- A name without digits that ends a text with a digit in it stands behind that digit. -/
theorem suffix_append_iff_of_isDigit {name : List Char} (hname : name.any Char.isDigit = false)
    {c : Char} (hc : c.isDigit = true) (init rest : List Char) :
    name <:+ init ++ c :: rest ↔ name <:+ rest := by
  have hnotMem : c ∉ name := fun hmem ↦ List.any_eq_false.1 hname c hmem hc
  constructor
  · intro h
    rcases List.suffix_or_suffix_of_suffix h (List.suffix_append init (c :: rest)) with h | h
    · rcases List.suffix_cons_iff.1 h with rfl | h
      · exact absurd List.mem_cons_self hnotMem
      · exact h
    · exact absurd (h.subset List.mem_cons_self) hnotMem
  · exact fun h ↦ h.trans ((List.suffix_cons c rest).trans (List.suffix_append init _))

/-- No rest is left exactly when the suffix is not there. -/
theorem isSuffixOf?_eq_none_iff {name s : List Char} :
    name.isSuffixOf? s = none ↔ ¬name <:+ s := by
  rw [Option.eq_none_iff_forall_ne_some]
  exact ⟨fun h ⟨number, hs⟩ ↦ h number (List.isSuffixOf?_eq_some_iff_append_eq.2 hs),
    fun h number hs ↦ h ⟨number, List.isSuffixOf?_eq_some_iff_append_eq.1 hs⟩⟩

/-- What is cut off a text is the name of a unit, or nothing. -/
theorem exists_eq_cutUnit_append (s : List Char) :
    ∃ unit ∈ unitTexts, s = (cutUnit s).1 ++ unit.toList := by
  rw [cutUnit]
  split <;> rename_i hrem
  · exact ⟨"rem", by decide, (List.isSuffixOf?_eq_some_iff_append_eq.1 hrem).symm⟩
  split <;> rename_i hpx
  · exact ⟨"px", by decide, (List.isSuffixOf?_eq_some_iff_append_eq.1 hpx).symm⟩
  split <;> rename_i hem
  · exact ⟨"em", by decide, (List.isSuffixOf?_eq_some_iff_append_eq.1 hem).symm⟩
  · exact ⟨"", by decide, (List.append_nil s).symm⟩

/-- Of a number and the text of a unit, that text is cut off. -/
theorem IsPlainNumber.cutUnit_append {number : List Char} (h : IsPlainNumber number) {unit : String}
    (hunit : unit ∈ unitTexts) : (cutUnit (number ++ unit.toList)).1 = number := by
  have hself (name : List Char) : name.isSuffixOf? (number ++ name) = some number :=
    List.isSuffixOf?_eq_some_iff_append_eq.2 rfl
  have hother {name rest : List Char} (hname : name.any Char.isDigit = false)
      (hrest : ¬name <:+ rest) : name.isSuffixOf? (number ++ rest) = none := by
    obtain ⟨init, c, hc, rfl⟩ := h.exists_eq_append_digit
    rw [isSuffixOf?_eq_none_iff, List.append_assoc]
    exact mt (suffix_append_iff_of_isDigit hname hc init rest).1 hrest
  simp only [unitTexts, List.mem_cons, List.not_mem_nil, or_false] at hunit
  -- the units that are tried before the right one do not end the text
  rcases hunit with rfl | rfl | rfl | rfl
  · rw [cutUnit, hother (by decide) (by decide), hother (by decide) (by decide),
      hother (by decide) (by decide)]
    exact List.append_nil number
  · rw [cutUnit, hother (by decide) (by decide), hself]
  · rw [cutUnit, hself]
  · rw [cutUnit, hother (by decide) (by decide), hother (by decide) (by decide), hself]

/-! ### Lengths -/

/-- **A text is read exactly when it is a plain length.** -/
theorem isSome_plainDigits?_cutUnit_iff (s : List Char) :
    (plainDigits? (cutUnit s).1).isSome ↔ IsPlainLength s := by
  constructor
  · intro h
    obtain ⟨unit, hunit, hs⟩ := exists_eq_cutUnit_append s
    exact ⟨_, unit, hunit, isPlainNumber_of_isSome h, hs⟩
  · rintro ⟨number, unit, hunit, hnumber, rfl⟩
    rw [hnumber.cutUnit_append hunit]
    exact hnumber.isSome_plainDigits?

instance (s : List Char) : Decidable (IsPlainLength s) :=
  decidable_of_iff _ (isSome_plainDigits?_cutUnit_iff s)

/-- **The texts that are read as lengths are the plain lengths**, whatever unit is wanted. -/
theorem isSome_read?_iff (text : String) (target : Option LengthUnit) :
    (read? text target).isSome ↔ IsPlainLength (Text.trim text.toList) := by
  rw [read?, Option.isSome_map, plainNumber?, Option.isSome_map]
  exact isSome_plainDigits?_cutUnit_iff _

end Length

/-! ### Font sizes -/

/-- Without a length for the size there is no scale, whatever the bounds are. -/
theorem FluidScale.compute?_of_read?_eq_none {scale : FluidScale} {raw : String}
    (hsize : scale.size = some raw) (h : Length.read? raw none = none) : scale.compute? = none := by
  have hbounds : scale.bounds? = none := by
    rw [bounds?, hsize]
    exact Option.bind_eq_none_iff.2 fun length hlength ↦ by simp [h] at hlength
  rw [compute?, hbounds]
  rfl

/-- A preset asks for a fluid size by `true` or an object that is not empty. -/
def FluidOptions.AsksForFluid (fluid : Option Json) : Prop :=
  fluid = some (.bool true) ∨ ∃ member rest, fluid = some (.obj (member :: rest))

theorem FluidOptions.asksForFluid_of_any_isOn {fluid : Option Json} (h : fluid.any isOn = true) :
    AsksForFluid fluid := by
  obtain ⟨value, rfl, hon⟩ := (Option.any_eq_true isOn fluid).1 h
  rw [isOn.eq_def] at hon
  split at hon
  · exact .inl (congrArg (fun b ↦ some (Json.bool b)) hon)
  · rename_i fields
    cases fields with
    | nil => cases hon
    | cons member rest => exact .inr ⟨member, rest, rfl⟩
  · cases hon

/-- **Only plain lengths become fluid.** The texts that are read as lengths are the plain numbers
with or without the name of a unit directly behind them. And the size of a preset stays as it is
written when it is no such text, when the preset declines, and when neither the options nor the
preset ask for fluid sizes. -/
theorem only_plain_lengths_are_fluid :
    (∀ (text : String) (target : Option LengthUnit),
      (Length.read? text target).isSome ↔ Length.IsPlainLength (Text.trim text.toList)) ∧
    ∀ (size : Json) (raw : String) (fluid : Option Json) (options : FluidOptions),
      size.css? = some raw →
      ¬Length.IsPlainLength (Text.trim raw.toList) ∨ fluid = some (.bool false) ∨
        (options.enabled = false ∧ ¬FluidOptions.AsksForFluid fluid) →
      fontSizeCss? size fluid options = some raw := by
  refine ⟨Length.isSome_read?_iff, fun size raw fluid options hraw h ↦ ?_⟩
  refine Option.map_eq_some_iff.2 ⟨raw, hraw, ?_⟩
  refine iteInduction (motive := (· = raw)) (fun _ ↦ rfl) fun hgrows ↦ ?_
  rcases h with hplain | rfl | ⟨hoff, hfluid⟩
  · have hread : Length.read? raw none = none := by
      rwa [← Length.isSome_read?_iff raw none, Option.not_isSome_iff_eq_none] at hplain
    dsimp only
    rw [FluidScale.compute?_of_read?_eq_none rfl hread, Option.getD_none]
  · exact absurd hgrows (by simp)
  · have hfluidOff : fluid.any FluidOptions.isOn = false :=
      Bool.not_eq_true _ ▸ mt FluidOptions.asksForFluid_of_any_isOn hfluid
    exact absurd hgrows (by simp [hoff, hfluidOff])

/-- A computed size stays, whatever bound its preset has, and so does a length that declines. -/
theorem only_plain_lengths_are_fluid_calc :
    let on : FluidOptions := { FluidOptions.off with enabled := true }
    let bounded : Json := .obj [("min", .str "1rem")]
    (Length.read? " .5rem " (some .px)).isSome ∧ ¬(Length.read? "1.rem" none).isSome ∧
      ¬Length.IsPlainLength (Text.trim "calc(1rem + 2px)".toList) ∧
      fontSizeCss? (.str "calc(1rem + 2px)") (some bounded) on = some "calc(1rem + 2px)" ∧
      fontSizeCss? (.str "28px") (some (.bool false)) on = some "28px" := by
  intro on bounded
  obtain ⟨hread, hstays⟩ := only_plain_lengths_are_fluid
  have hcalc : ¬Length.IsPlainLength (Text.trim "calc(1rem + 2px)".toList) := by decide
  exact ⟨(hread _ _).2 (by decide), mt (hread _ _).1 (by decide), hcalc,
    hstays _ _ _ _ rfl (.inl hcalc), hstays _ _ _ _ rfl (.inr (.inl rfl))⟩

end GlobalStyles
