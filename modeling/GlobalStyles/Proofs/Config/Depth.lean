import GlobalStyles.Proofs.Config.Layers
import GlobalStyles.Proofs.Json.Traversal

/-!
# How deep a layer may nest

A layer is refused when a value of it stands below more keys than `ConfigError.maxDepth`. Whether
that is so is a matter of the user's layer alone: the base is only written into, and the first value
that is too deep ends the merging.

The path of the error is the first one in the order of the layer's keys. To see this, the outcome of
laying entries over any base is compared with a search through the places that lie one key too deep
(`error?_overlayValue`); the induction is on the number of keys that are left, and the entries of an
object are gone through with whatever was made so far.
-/

namespace GlobalStyles.Config

open Json

/-- The error of an outcome. -/
def error? {α : Type} : Except ConfigError α → Option ConfigError
  | .error error => some error
  | .ok _ => none

theorem error?_eq_some_iff {α : Type} {outcome : Except ConfigError α} {error : ConfigError} :
    error? outcome = some error ↔ outcome = .error error := by
  cases outcome <;> simp [error?]

theorem error?_map {α β : Type} (f : α → β) (outcome : Except ConfigError α) :
    error? (outcome.map f) = error? outcome := by
  cases outcome <;> rfl

/-- The error of the first of some places below `above` whose value would be laid over the base. -/
def errorAmong (above : List String) (places : List (List String × Json)) : Option ConfigError :=
  (places.find? fun place ↦ !asksForInheritedFont (above ++ place.1) place.2).map
    fun place ↦ .nestingTooDeep (above ++ place.1)

theorem errorAmong_append (above : List String) (places more : List (List String × Json)) :
    errorAmong above (places ++ more) = (errorAmong above places).or (errorAmong above more) := by
  rw [errorAmong, List.find?_append, Option.map_or]
  rfl

/-- One key more above the places is one key less in front of each of them. -/
theorem errorAmong_map_cons (above : List String) (key : String)
    (places : List (List String × Json)) :
    errorAmong above (places.map fun place ↦ (key :: place.1, place.2)) =
      errorAmong (above ++ [key]) places := by
  simp [errorAmong, List.find?_map, Function.comp_def]

/-! ### Laying values over values -/

/-- Entries are laid one after another, and the first that fails ends it. -/
theorem error?_overlayFields_cons (above : List String) (made : Fields) (key : String)
    (value : Json) (rest : Fields) :
    error? (overlayFields above made ((key, value) :: rest)) =
      match overlayValue (above ++ [key]) (Entries.get? made key) value with
      | .error error => some error
      | .ok laid => error? (overlayFields above (Entries.put made key laid) rest) := by
  rw [overlayFields, overlayValue]
  split
  · rfl
  · rcases overlay (above ++ [key]) (Entries.get? made key) value with error | laid <;> rfl

/-- If every value fails as its places say, so do entries, whatever they are written into. -/
theorem error?_overlayFields {above : List String} {count : Nat}
    (hvalue : ∀ key base value, error? (overlayValue (above ++ [key]) base value) =
      errorAmong (above ++ [key]) (placesAt count value)) (fields made : Fields) :
    error? (overlayFields above made fields) =
      errorAmong above (placesAt (count + 1) (.obj fields)) := by
  induction fields generalizing made with
  | nil =>
    rw [overlayFields_nil]
    rfl
  | cons entry rest ih =>
    obtain ⟨key, value⟩ := entry
    have hplaces : placesAt (count + 1) (.obj ((key, value) :: rest)) =
        ((placesAt count value).map fun place ↦ (key :: place.1, place.2)) ++
          placesAt (count + 1) (.obj rest) := rfl
    have hfirst := hvalue key (Entries.get? made key) value
    rw [error?_overlayFields_cons, hplaces, errorAmong_append, errorAmong_map_cons, ← hfirst]
    rcases overlayValue (above ++ [key]) (Entries.get? made key) value with error | laid
    · rfl
    · exact ih (Entries.put made key laid)

/-- Below too many keys nothing is laid. -/
theorem overlay_of_maxDepth_lt {above : List String} (h : ConfigError.maxDepth < above.length)
    (base : Option Json) (value : Json) :
    overlay above base value = .error (.nestingTooDeep above) := by
  cases value <;> simp only [overlay, if_pos h]

/-- What may still be laid over the base is laid, entry by entry. -/
theorem error?_overlay {above : List String} (h : above.length ≤ ConfigError.maxDepth)
    (base : Option Json) (value : Json) :
    error? (overlay above base value) =
      error? (overlayFields above ((base.map Json.entries).getD []) value.entries) := by
  cases value with
  | obj fields => rw [overlay, if_neg (Nat.not_lt.2 h), error?_map, entries]
  | _ => simp only [overlay, if_neg (Nat.not_lt.2 h), entries, overlayFields_nil, error?]

/-- A wish for the inherited typeface is a text, below which no place lies. -/
theorem entries_of_asksForInheritedFont {path : List String} {value : Json}
    (h : asksForInheritedFont path value = true) : value.entries = [] := by
  rw [(asksForInheritedFont_iff.1 h).2]
  rfl

/-- **A value fails as its places one key too deep say**, whatever it is laid over. -/
theorem error?_overlayValue {above : List String} {count : Nat}
    (h : above.length + count = ConfigError.maxDepth + 1) (base : Option Json) (value : Json) :
    error? (overlayValue above base value) = errorAmong above (placesAt count value) := by
  induction count generalizing above base value with
  | zero =>
    have hdeep : ConfigError.maxDepth < above.length := by omega
    rw [overlayValue, placesAt, errorAmong, List.find?_singleton, List.append_nil]
    cases hfont : asksForInheritedFont above value
    · rw [if_neg Bool.false_ne_true, overlay_of_maxDepth_lt hdeep]
      simp [error?]
    · simp [error?]
  | succ count ih =>
    have hplaces : placesAt (count + 1) value = placesAt (count + 1) (.obj value.entries) := rfl
    have hbelow : ∀ key base value, error? (overlayValue (above ++ [key]) base value) =
        errorAmong (above ++ [key]) (placesAt count value) := fun key base value ↦
      ih (by simp only [List.length_append, List.length_singleton]; omega) base value
    rw [hplaces, ← error?_overlayFields hbelow _ ((base.map Json.entries).getD []), overlayValue]
    split <;> rename_i hfont
    · rw [entries_of_asksForInheritedFont hfont, overlayFields_nil]
      rfl
    · exact error?_overlay (by omega) base value

/-! ### Layers -/

/-- A path of a layer that is one key too long: something stands at its end that has to be laid over
the base, because it does not ask for the inherited typeface. -/
def TooDeep (layer : Json) (path : List String) : Prop :=
  path.length = ConfigError.maxDepth + 1 ∧ ∃ value, layer.find? path = some value ∧
    ¬(["typography", "fontFamily"] <:+ path ∧ value = .str "default")

/-- A path that is too long, and the first of these in the order of the layer's keys. -/
def FirstTooDeep (layer : Json) (path : List String) : Prop :=
  TooDeep layer path ∧ ∀ other, TooDeep layer other → other ≠ path → layer.PartsBefore path other

theorem FirstTooDeep.unique {layer : Json} (h : layer.WellFormed) {path other : List String}
    (hpath : FirstTooDeep layer path) (hother : FirstTooDeep layer other) : path = other := by
  by_contra hne
  exact (hpath.2 other hother.1 (Ne.symm hne)).asymm h (hother.2 path hpath.1 hne)

section

variable {layer : Json} (h : layer.WellFormed) {path : List String}
include h

/-- A path is too deep when it leads one step beyond the limit, to a value that is not inherited. -/
theorem tooDeep_iff :
    TooDeep layer path ↔ ∃ value, (path, value) ∈ placesAt (ConfigError.maxDepth + 1) layer ∧
      asksForInheritedFont path value = false := by
  simp only [TooDeep, mem_placesAt_iff h, ← asksForInheritedFont_iff, Bool.not_eq_true, and_assoc,
    exists_and_left]

/-- What the search finds is the first path that is too long. -/
theorem firstTooDeep_of_errorAmong {error : ConfigError}
    (herror : errorAmong [] (placesAt (ConfigError.maxDepth + 1) layer) = some error) :
    ∃ path, error = .nestingTooDeep path ∧ FirstTooDeep layer path := by
  obtain ⟨⟨path, value⟩, hfound, rfl⟩ := Option.map_eq_some_iff.1 herror
  obtain ⟨hfont, before, after, hplaces, hbefore⟩ := List.find?_eq_some_iff_append.1 hfound
  have hordered := pairwise_placesAt h (ConfigError.maxDepth + 1)
  simp only [List.nil_append, Bool.not_eq_true', Bool.not_not] at hfont hbefore
  refine ⟨path, rfl, (tooDeep_iff h).2 ⟨value, by simp [hplaces], hfont⟩, fun other hother hne ↦ ?_⟩
  -- what stands before the found place asks for the inherited typeface
  obtain ⟨found, hmem, hno⟩ := (tooDeep_iff h).1 hother
  rw [hplaces] at hmem hordered
  have hafter := (List.pairwise_cons.1 (List.pairwise_append.1 hordered).2.1).1
  rcases List.mem_append.1 hmem with hfront | hback
  · exact absurd (hbefore _ hfront) (by simp [hno])
  · rcases List.mem_cons.1 hback with heq | hback
    · exact absurd (congrArg Prod.fst heq) hne
    · exact hafter _ hback

/-- Where a path is too long, the search finds one. -/
theorem exists_errorAmong (hdeep : TooDeep layer path) :
    ∃ error, errorAmong [] (placesAt (ConfigError.maxDepth + 1) layer) = some error := by
  obtain ⟨value, hmem, hfont⟩ := (tooDeep_iff h).1 hdeep
  rw [errorAmong, ← Option.isSome_iff_exists, Option.isSome_map, List.find?_isSome]
  exact ⟨(path, value), hmem, by simpa using hfont⟩

/-- The search through the places finds the first path that is too long. -/
theorem errorAmong_placesAt_eq_some_iff {error : ConfigError} :
    errorAmong [] (placesAt (ConfigError.maxDepth + 1) layer) = some error ↔
      ∃ path, error = .nestingTooDeep path ∧ FirstTooDeep layer path := by
  refine ⟨firstTooDeep_of_errorAmong h, ?_⟩
  rintro ⟨path, rfl, hfirst⟩
  obtain ⟨error, herror⟩ := exists_errorAmong h hfirst.1
  obtain ⟨other, rfl, hother⟩ := firstTooDeep_of_errorAmong h herror
  rw [herror, hfirst.unique h hother]

end

/-- The outcome of merging layers is decided by the places of the user's layer. -/
theorem error?_merge (base user : Json) :
    error? (merge base user) = errorAmong [] (placesAt (ConfigError.maxDepth + 1) user) := by
  rw [merge_eq_overlayValue]
  have hlength : ([] : List String).length + (ConfigError.maxDepth + 1) =
      ConfigError.maxDepth + 1 := Nat.zero_add _
  exact error?_overlayValue hlength (some base) (.obj user.entries)

/-- **A layer is refused exactly if it nests too deeply.** Merging fails if and only if something of
the user's layer, other than a wish for the inherited typeface, stands below one key more than a
layer may have. The error tells the first such path in the order of the layer's keys, and the limit.
The base has no part in it. -/
theorem merge_eq_error_iff {user : Json} (huser : user.WellFormed) (base : Json) :
    ((∃ error, merge base user = .error error) ↔ ∃ path, TooDeep user path) ∧
      (∀ error, merge base user = .error error ↔
        ∃ path, error = .nestingTooDeep path ∧ FirstTooDeep user path) ∧
      (∀ path, (ConfigError.nestingTooDeep path).message =
        "configuration is circular or nested too deeply at '" ++ ".".intercalate path ++
          "' (limit 64)") ∧
      ∀ other error, merge other user = .error error ↔ merge base user = .error error := by
  have herror (base : Json) (error : ConfigError) : merge base user = .error error ↔
      ∃ path, error = .nestingTooDeep path ∧ FirstTooDeep user path := by
    rw [← error?_eq_some_iff, error?_merge, errorAmong_placesAt_eq_some_iff huser]
  refine ⟨⟨?_, ?_⟩, herror base, fun path ↦ ?_, fun other error ↦ ?_⟩
  · rintro ⟨error, hfailed⟩
    obtain ⟨path, -, hfirst⟩ := (herror base error).1 hfailed
    exact ⟨path, hfirst.1⟩
  · rintro ⟨path, hdeep⟩
    obtain ⟨error, hfound⟩ := exists_errorAmong huser hdeep
    exact ⟨error, by rw [← error?_eq_some_iff, error?_merge, hfound]⟩
  · have hlimit : "' (limit " ++ (toString ConfigError.maxDepth ++ ")") = "' (limit 64)" := by
      decide +kernel
    have hmessage : (ConfigError.nestingTooDeep path).message =
        "configuration is circular or nested too deeply at '" ++ ".".intercalate path ++
          "' (limit " ++ toString ConfigError.maxDepth ++ ")" := rfl
    rw [hmessage, String.append_assoc, String.append_assoc, hlimit]
  · rw [herror other, herror base]

/-- A layer with a wish for the inherited typeface and a font size, each below 65 keys. -/
def deepLayer : Json :=
  (List.replicate 63 "a").foldr (fun key tree ↦ .obj [(key, tree)])
    (.obj [("typography", .obj [("fontFamily", .str "default"), ("fontSize", .str "1rem")])])

/-- The wish is let pass and the font size is refused. -/
theorem merge_eq_error_deepLayer :
    deepLayer.WellFormed ∧
      FirstTooDeep deepLayer (List.replicate 63 "a" ++ ["typography", "fontSize"]) := by
  have hwell : deepLayer.WellFormed := by
    simp [deepLayer, List.replicate, Json.WellFormed, Json.FieldsWellFormed]
  have hfailed : error? (merge .null deepLayer) =
      some (.nestingTooDeep (List.replicate 63 "a" ++ ["typography", "fontSize"])) := by
    decide +kernel
  obtain ⟨path, hpath, hfirst⟩ := ((merge_eq_error_iff hwell .null).2.1 _).1
    (error?_eq_some_iff.1 hfailed)
  rw [ConfigError.nestingTooDeep.inj hpath]
  exact ⟨hwell, hfirst⟩

end GlobalStyles.Config
