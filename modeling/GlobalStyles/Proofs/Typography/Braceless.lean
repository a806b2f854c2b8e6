import GlobalStyles.Proofs.Text.Braceless
import GlobalStyles.Typography.Fluid

/-!
# Numbers and font sizes without braces

The text of a number has digits, a point, an exponent and a sign, or it is one of the words for what
is no finite number. So the only braces a font size can have are those of its own text and of the
bounds a preset gives. Everything else in a `clamp()` is computed, and the settings only enter as
lengths that were read.
-/

namespace GlobalStyles

open Text (isBrace isBrace_of_isDigit)

/-! ### Digits -/

namespace Decimal

/-- Every digit is one. -/
def AllDigits (d : Decimal) : Prop :=
  ∀ c ∈ d.digits, c.isDigit = true

/-- The digits of a number are digits. -/
theorem isDigit_of_mem_toDigits {n : Nat} {c : Char} (h : c ∈ Nat.toDigits 10 n) :
    c.isDigit = true :=
  Nat.isDigit_of_mem_toDigits (by decide) (by decide) h

theorem allDigits_zero : AllDigits ⟨['0'], 0⟩ :=
  List.forall_mem_singleton.2 rfl

/-- A scaled integer is written in digits. -/
theorem allDigits_ofScaled (n : Nat) (shift : Int) : (ofScaled n shift).AllDigits := by
  intro c hc
  have hdropped := List.mem_reverse.1 hc
  exact isDigit_of_mem_toDigits (List.mem_reverse.1 (List.dropWhile_subset _ hdropped))

theorem Cell.allDigits_of_nearest? {cell : Cell} {count : Nat} {d : Decimal}
    (h : cell.nearest? count = some d) : d.AllDigits := by
  simp only [nearest?] at h
  split at h
  all_goals cases h
  all_goals exact allDigits_ofScaled _ _

theorem Cell.allDigits_shortest (cell : Cell) : cell.shortest.AllDigits := by
  rw [shortest]
  rcases hfound : (List.range 17).findSome? fun k ↦ cell.nearest? (k + 1) with _ | d
  · exact allDigits_zero
  · obtain ⟨k, -, hd⟩ := List.exists_of_findSome?_eq_some hfound
    exact allDigits_of_nearest? hd

/-- **Every number is written in digits.** -/
theorem allDigits_ofFloat (x : Float) : (ofFloat x).AllDigits := by
  simp only [ofFloat]
  -- zero, then the fractions below the least exponent, then all others
  split
  · split
    · exact allDigits_zero
    · exact Cell.allDigits_shortest _
  · exact Cell.allDigits_shortest _

end Decimal

/-! ### Numbers -/

namespace Layout

variable {d : Decimal} (h : d.AllDigits)
include h

/-- Positional notation has digits, a point and a sign. -/
theorem isBrace_of_mem_positional (layout : Layout) :
    ∀ c ∈ layout.positional d, isBrace c = false := by
  have hzeros (n : Nat) : ∀ c ∈ List.replicate n '0', isBrace c = false := fun c hc ↦ by
    rw [List.eq_of_mem_replicate hc]
    decide
  have htake (n : Nat) : ∀ c ∈ d.digits.take n, isBrace c = false := fun c hc ↦
    isBrace_of_isDigit (h c (List.mem_of_mem_take hc))
  have hdrop (n : Nat) : ∀ c ∈ d.digits.drop n, isBrace c = false := fun c hc ↦
    isBrace_of_isDigit (h c (List.mem_of_mem_drop hc))
  have hpoint : isBrace '.' = false := by decide
  have hzero : isBrace '0' = false := by decide
  simp only [positional]
  -- a value below one, a whole number, and one with digits on both sides of the point
  split
  · simp only [List.forall_mem_append, List.forall_mem_cons]
    exact ⟨⟨hzero, hpoint, hzeros _⟩, fun c hc ↦ isBrace_of_isDigit (h c hc)⟩
  · split
    · split
      · simp only [List.forall_mem_append, List.forall_mem_cons]
        exact ⟨⟨htake _, hzeros _⟩, hpoint, hzero, List.forall_mem_nil _⟩
      · exact List.forall_mem_append.2 ⟨htake _, hzeros _⟩
    · simp only [List.forall_mem_append, List.forall_mem_cons]
      exact ⟨⟨htake _, hzeros _⟩, hpoint, hdrop _⟩

/-- Scientific notation has an exponent as well. -/
theorem isBrace_of_mem_scientific : ∀ c ∈ scientific d, isBrace c = false := by
  have hdigits : ∀ c ∈ d.digits, isBrace c = false := fun c hc ↦ isBrace_of_isDigit (h c hc)
  simp only [scientific, List.forall_mem_append, List.forall_mem_cons]
  refine ⟨?_, by decide, ?_, fun c hc ↦ ?_⟩
  · split <;> rename_i hshape
    · rw [hshape] at hdigits
      obtain ⟨hfirst, hrest⟩ := List.forall_mem_cons.1 hdigits
      exact List.forall_mem_cons.2 ⟨hfirst, List.forall_mem_cons.2 ⟨by decide, hrest⟩⟩
    · exact hdigits
  · split <;> decide
  · exact isBrace_of_isDigit (Decimal.isDigit_of_mem_toDigits hc)

end Layout

namespace Braceless

/-- In no notation has a number a brace. -/
theorem layout_text (layout : Layout) (x : Float) : Braceless (layout.text x) := by
  have hdigits := Decimal.allDigits_ofFloat x
  have hsign : Braceless (if x.toBits.toNat ≥ Nat.pow 2 63 then "-" else "") := by
    split <;> decide
  simp only [Layout.text]
  split
  · decide
  · split
    · exact hsign.append (by decide)
    · refine hsign.append (.ofList ?_)
      split
      · exact Layout.isBrace_of_mem_positional hdigits layout
      · exact Layout.isBrace_of_mem_scientific hdigits

theorem nat_repr (n : Nat) : Braceless n.repr :=
  ofList fun _ hc ↦ isBrace_of_isDigit (Decimal.isDigit_of_mem_toDigits hc)

/-- The text of a number has no brace. -/
theorem number_text (number : Number) : Braceless number.text := by
  cases number with
  | int value =>
    cases value with
    | ofNat n => exact nat_repr n
    | negSucc n => exact append (by decide) (nat_repr (n + 1))
  | float value => exact layout_text Number.layout value

/-- A length is a number with a unit. -/
theorem length_text (length : Length) : Braceless length.text := by
  have hunit : Braceless length.unit.name := by
    cases length.unit <;> decide
  exact (layout_text Length.layout length.value).append hunit

/-- The text of a scalar that is no text of its own. -/
theorem css? {value : Json} {text : String} (h : value.css? = some text)
    (hown : ∀ own, value.text? = some own → Braceless own) : Braceless text := by
  cases value with
  | str own =>
    cases h
    exact hown text rfl
  | num number =>
    cases h
    exact number_text number
  | bool b =>
    cases h
    cases b <;> decide
  | _ => cases h

end Braceless

/-! ### Font sizes -/

namespace FluidScale

/-- A derived minimum is a length. -/
theorem braceless_derivedMinimum (size : Length) (limit : Option Length) :
    Braceless (derivedMinimum size limit) := by
  unfold derivedMinimum
  rcases limit with - | limit
  · exact Braceless.length_text _
  · exact iteInduction (motive := Braceless) (fun _ ↦ Braceless.length_text limit)
      fun _ ↦ Braceless.length_text _

/-- The bounds of a scale are its own, or lengths that were computed. -/
theorem braceless_bounds? {scale : FluidScale} (hminimum : ∀ text ∈ scale.minimum, Braceless text)
    (hmaximum : ∀ text ∈ scale.maximum, Braceless text) {low high : String}
    (h : scale.bounds? = some (low, high)) : Braceless low ∧ Braceless high := by
  rw [bounds?] at h
  split at h
  · obtain ⟨minimum, hlow, h⟩ := Option.bind_eq_some_iff.1 h
    obtain ⟨maximum, hhigh, h⟩ := Option.bind_eq_some_iff.1 h
    cases h
    exact ⟨hminimum _ hlow, hmaximum _ hhigh⟩
  · obtain ⟨size, -, h⟩ := Option.bind_eq_some_iff.1 h
    simp only at h
    split at h
    · cases h
    · cases h
      constructor
      · rcases hgiven : scale.minimum with _ | minimum
        · exact braceless_derivedMinimum size _
        · exact hminimum minimum hgiven
      · rcases hgiven : scale.maximum with _ | maximum
        · exact Braceless.length_text size
        · exact hmaximum maximum hgiven

/-- **A fluid size has braces only from its bounds.** -/
theorem braceless_compute? {scale : FluidScale}
    (hminimum : ∀ text ∈ scale.minimum, Braceless text)
    (hmaximum : ∀ text ∈ scale.maximum, Braceless text) {text : String}
    (h : scale.compute? = some text) : Braceless text := by
  rw [compute?] at h
  obtain ⟨⟨low, high⟩, hbounds, h⟩ := Option.bind_eq_some_iff.1 h
  obtain ⟨hlow, hhigh⟩ := braceless_bounds? hminimum hmaximum hbounds
  -- the bounds go in as texts; the five lengths only as numbers
  obtain ⟨_, -, h⟩ := Option.bind_eq_some_iff.1 h
  obtain ⟨_, -, h⟩ := Option.bind_eq_some_iff.1 h
  obtain ⟨_, -, h⟩ := Option.bind_eq_some_iff.1 h
  obtain ⟨_, -, h⟩ := Option.bind_eq_some_iff.1 h
  obtain ⟨_, -, h⟩ := Option.bind_eq_some_iff.1 h
  simp only at h
  split at h
  · cases h
  · cases h
    exact ((((((((((by decide : Braceless "clamp(").append hlow).append (by decide)).append
      (.length_text _)).append (by decide)).append (.length_text _)).append (by decide)).append
      (.layout_text _ _)).append (by decide)).append hhigh).append (by decide)

/-- A raw size without braces stands in where there is no fluid one. -/
theorem braceless_getD_compute? {scale : FluidScale}
    (hminimum : ∀ text ∈ scale.minimum, Braceless text)
    (hmaximum : ∀ text ∈ scale.maximum, Braceless text) {raw : String} (hraw : Braceless raw) :
    Braceless (scale.compute?.getD raw) := by
  rcases hcompute : scale.compute? with _ | text
  · exact hraw
  · exact braceless_compute? hminimum hmaximum hcompute

end FluidScale

/-- **A font size has no braces but those of its text and of the bounds that its preset gives.** -/
theorem braceless_fontSizeCss? {size : Json} {fluid : Option Json} {options : FluidOptions}
    {text : String} (h : fontSizeCss? size fluid options = some text)
    (hsize : ∀ raw, size.css? = some raw → Braceless raw)
    (hfluid : ∀ key bound, (fluid.bind (·.get? [key])).bind Json.css? = some bound →
      Braceless bound) : Braceless text := by
  obtain ⟨raw, hraw, h⟩ := Option.map_eq_some_iff.1 h
  rw [← h]
  refine iteInduction (motive := Braceless) (fun _ ↦ hsize raw hraw) fun _ ↦ ?_
  apply FluidScale.braceless_getD_compute?
  · exact hfluid "min"
  · exact hfluid "max"
  · exact hsize raw hraw

end GlobalStyles
