import GlobalStyles.Proofs.Text.Kebab
import GlobalStyles.Reference.Basic

/-!
# Encoding references

A token compiles to the `var()` of a custom property, in which the segments stand in kebab case
between double hyphens. The name can be taken apart again, since no segment in kebab case has a
hyphen at its end or before another one: splitting at double hyphens, found from the left, gives
back the segments, empty ones included (`splitDoubleHyphen_intercalate`). The namespace does not
matter, because it is known on both sides.

So a compiled token is read as what the token names, in kebab case, and two tokens compile to the
same text exactly when their segments are the same in kebab case (`parse?_compile`).
-/

namespace GlobalStyles.Reference

open Text (kebabCase HyphensInside hyphensInside_kebabCase)

/-! ### Tokens -/

/-- A text that is `ref:` or `var:` and some segments between bars. -/
structure IsToken (text : String) (segments : List String) : Prop where
  ne_nil : segments ≠ []
  bar_notMem : ∀ segment ∈ segments, '|' ∉ segment.toList
  text_eq : text = "ref:" ++ "|".intercalate segments ∨ text = "var:" ++ "|".intercalate segments

theorem IsToken.segments?_eq {text : String} {segments : List String} (h : IsToken text segments) :
    segments? text = some segments := by
  have hbody : ("ref:".toList.isPrefixOf? text.toList).or ("var:".toList.isPrefixOf? text.toList) =
      some ("|".intercalate segments).toList := by
    rcases h.text_eq with rfl | rfl
    · rw [List.isPrefixOf?_eq_some_iff_append_eq.2 String.toList_append.symm]
      rfl
    · rw [List.isPrefixOf?_eq_some_iff_append_eq.2 String.toList_append.symm, String.toList_append]
      rfl
  have hsplit : ("|".intercalate segments).toList.splitOn '|' = segments.map String.toList := by
    rw [String.toList_intercalate]
    refine List.splitOn_intercalate '|' ?_ (by simpa using h.ne_nil)
    simpa using h.bar_notMem
  rw [segments?, hbody, Option.map_some, hsplit, List.map_map]
  simp [Function.comp_def]

/-- The segments of a reference, its domain first. -/
def segments : Reference → List String
  | preset category slug => ["preset", category, slug]
  | custom path => "custom" :: path

/-- What segments name, if the path of a custom value is not empty. -/
theorem ofSegments?_segments {reference : Reference} (h : reference ≠ custom []) :
    ofSegments? reference.segments = some reference := by
  cases reference with
  | preset category slug => rfl
  | custom path =>
    rcases path with - | ⟨first, _ | ⟨second, _ | ⟨third, rest⟩⟩⟩
    · exact absurd rfl h
    · rfl
    · rfl
    · rfl

/-- Segments that name something are those of what they name. -/
theorem eq_segments_of_ofSegments? {segments : List String} {reference : Reference}
    (h : ofSegments? segments = some reference) :
    segments = reference.segments ∧ reference ≠ custom [] := by
  unfold ofSegments? at h
  split at h
  · split at h
    · rename_i hdomain
      cases h
      exact ⟨by rw [hdomain, Reference.segments], Reference.noConfusion⟩
    · split at h
      · rename_i hdomain
        cases h
        exact ⟨by rw [hdomain, Reference.segments], by simp⟩
      · cases h
  · split at h
    · rename_i hdomain
      cases h
      exact ⟨by rw [hdomain, Reference.segments], by simp⟩
    · cases h
  · cases h

/-- A reference with its category and slug, or its keys, in kebab case. -/
def kebab : Reference → Reference
  | preset category slug => preset (kebabCase category) (kebabCase slug)
  | custom path => custom (path.map kebabCase)

/-- Domains are in kebab case already. -/
theorem segments_kebab (reference : Reference) :
    reference.kebab.segments = reference.segments.map kebabCase := by
  have hpreset : kebabCase "preset" = "preset" := by decide +kernel
  have hcustom : kebabCase "custom" = "custom" := by decide +kernel
  cases reference with
  | preset category slug =>
    rw [segments, kebab, segments, List.map_cons, hpreset]
    rfl
  | custom path => rw [segments, kebab, segments, List.map_cons, hcustom]

theorem kebab_ne_custom_nil {reference : Reference} (h : reference ≠ custom []) :
    reference.kebab ≠ custom [] := by
  cases reference with
  | preset category slug => exact Reference.noConfusion
  | custom path =>
    intro hkebab
    rw [kebab, custom.injEq, List.map_eq_nil_iff] at hkebab
    exact h (congrArg custom hkebab)

/-! ### Splitting at double hyphens -/

/-- A character that does not begin a double hyphen belongs to the first part. -/
theorem splitDoubleHyphen_cons {c : Char} {rest : List Char}
    (h : c = '-' → rest.head? ≠ some '-') :
    splitDoubleHyphen (c :: rest) = (splitDoubleHyphen rest).modifyHead (c :: ·) := by
  rw [splitDoubleHyphen.eq_3]
  rintro rest' rfl rfl
  exact h rfl rfl

theorem splitDoubleHyphen_of_hyphensInside {part : List Char} (h : HyphensInside part) :
    splitDoubleHyphen part = [part] := by
  induction part with
  | nil => rfl
  | cons c part ih =>
    rw [splitDoubleHyphen_cons, ih h.2]
    · rfl
    · intro hc heq
      obtain ⟨d, hd, hne⟩ := h.1 hc
      rw [heq] at hd
      exact hne (Option.some.inj hd).symm

theorem splitDoubleHyphen_append {part : List Char} (h : HyphensInside part) (rest : List Char) :
    splitDoubleHyphen (part ++ '-' :: '-' :: rest) = part :: splitDoubleHyphen rest := by
  induction part with
  | nil => rfl
  | cons c part ih =>
    rw [List.cons_append, splitDoubleHyphen_cons, ih h.2]
    · rfl
    · intro hc heq
      obtain ⟨d, hd, hne⟩ := h.1 hc
      rw [List.head?_append, hd, Option.some_or] at heq
      exact hne (Option.some.inj heq)

/-- Splitting undoes joining, if no part has a hyphen at its end or before another one. -/
theorem splitDoubleHyphen_intercalate {parts : List (List Char)} (hne : parts ≠ [])
    (h : ∀ part ∈ parts, HyphensInside part) :
    splitDoubleHyphen (['-', '-'].intercalate parts) = parts := by
  induction parts with
  | nil => exact absurd rfl hne
  | cons part rest ih =>
    obtain ⟨hpart, hrest⟩ := List.forall_mem_cons.1 h
    rcases rest with - | ⟨next, rest⟩
    · rw [List.intercalate_singleton, splitDoubleHyphen_of_hyphensInside hpart]
    · rw [List.intercalate_cons_cons, List.append_assoc]
      exact (splitDoubleHyphen_append hpart _).trans
        (congrArg (part :: ·) (ih (List.cons_ne_nil _ _) hrest))

/-! ### Names of custom properties -/

/-- The name for some segments has their kebab case between double hyphens. -/
theorem propertyName_eq (space : String) {segments : List String} (hne : segments ≠ []) :
    propertyName space segments =
      "--" ++ space ++ "--" ++ "--".intercalate (segments.map kebabCase) := by
  have hfold (segments : List String) (name : String) :
      segments.foldl (fun name segment ↦ name ++ "--" ++ kebabCase segment) name =
        name ++ String.join (segments.map fun segment ↦ "--" ++ kebabCase segment) := by
    induction segments generalizing name with
    | nil => simp
    | cons segment rest ih =>
      rw [List.foldl_cons, ih, List.map_cons, String.join_cons]
      simp only [String.append_assoc]
  have hjoin : String.join (segments.map fun segment ↦ "--" ++ kebabCase segment) =
      "--" ++ "--".intercalate (segments.map kebabCase) := by
    induction segments with
    | nil => exact absurd rfl hne
    | cons segment rest ih =>
      rcases rest with - | ⟨next, rest⟩
      · simp
      · rw [List.map_cons, String.join_cons, ih (List.cons_ne_nil _ _)]
        simp only [List.map_cons, String.intercalate_cons_cons, String.append_assoc]
  rw [propertyName, hfold, hjoin, String.append_assoc, String.append_assoc, String.append_assoc]

/-- The `var()` for some segments is taken apart into their kebab case. -/
theorem variableSegments?_propertyName (space : String) {segments : List String}
    (hne : segments ≠ []) :
    variableSegments? ("var(" ++ propertyName space segments ++ ")") space =
      some (segments.map kebabCase) := by
  have hstart : ("var(--" ++ space ++ "--").toList ++
      (("--".intercalate (segments.map kebabCase)).toList ++ [')']) =
      ("var(" ++ propertyName space segments ++ ")").toList := by
    rw [propertyName_eq space hne]
    simp
  have hsplit : splitDoubleHyphen ("--".intercalate (segments.map kebabCase)).toList =
      (segments.map kebabCase).map String.toList := by
    rw [String.toList_intercalate]
    refine splitDoubleHyphen_intercalate (by simpa using hne) fun part hpart ↦ ?_
    simp only [List.map_map, List.mem_map, Function.comp_apply] at hpart
    obtain ⟨segment, -, rfl⟩ := hpart
    exact hyphensInside_kebabCase segment
  rw [variableSegments?, List.isPrefixOf?_eq_some_iff_append_eq.2 hstart]
  simp only [Option.bind_eq_bind, Option.bind_some, List.isSuffixOf?_eq_some_iff_append_eq.2 rfl,
    Option.pure_def, hsplit]
  simp [Function.comp_def]

/-- Two names are the same exactly when their segments are, in kebab case. -/
theorem propertyName_cons_eq_iff (space domain other : String) (segments others : List String) :
    propertyName space (domain :: segments) = propertyName space (other :: others) ↔
      kebabCase domain = kebabCase other ∧ segments.map kebabCase = others.map kebabCase := by
  have hne (first : String) (rest : List String) : first :: rest ≠ [] := List.cons_ne_nil _ _
  rw [← List.cons.injEq, ← List.map_cons, ← List.map_cons]
  constructor
  · intro heq
    have hread := variableSegments?_propertyName space (hne domain segments)
    rw [heq, variableSegments?_propertyName space (hne other others)] at hread
    exact (Option.some.inj hread).symm
  · intro heq
    rw [propertyName_eq space (hne _ _), propertyName_eq space (hne _ _), heq]

/-- A `var()` is no token. -/
theorem segments?_variable (rest : String) : segments? ("var(" ++ rest) = none := by
  rw [segments?, String.toList_append]
  rfl

/-- The compiled form of a token is read as its segments in kebab case. -/
theorem parse?_compile_of_segments? {text : String} {segments : List String}
    (h : segments? text = some segments) (space : String) :
    parse? (compile text space) space = ofSegments? (segments.map kebabCase) := by
  have hne : segments ≠ [] := by
    obtain ⟨body, -, rfl⟩ := Option.map_eq_some_iff.1 h
    simp
  have hcompile : compile text space = "var(" ++ propertyName space segments ++ ")" := by
    rw [compile, h]
  rw [parse?, hcompile, variableSegments?_propertyName space hne, String.append_assoc,
    segments?_variable]
  rfl

section

variable {text : String} {segments : List String} (h : IsToken text segments) (space : String)
include h

theorem compile_token : compile text space = "var(" ++ propertyName space segments ++ ")" := by
  rw [compile, h.segments?_eq]

/-- The compiled text gives back the segments in kebab case. -/
theorem variableSegments?_compile :
    variableSegments? (compile text space) space = some (segments.map kebabCase) := by
  rw [compile_token h, variableSegments?_propertyName space h.ne_nil]

theorem parse?_token : parse? text space = ofSegments? segments := by
  rw [parse?, h.segments?_eq]

theorem parse?_compile_token :
    parse? (compile text space) space = ofSegments? (segments.map kebabCase) :=
  parse?_compile_of_segments? h.segments?_eq space

end

/-! ### Tokens and their compiled form -/

/-- **Encoding and decoding references agree.** A token for a preset, or for a custom value with at
least one key, is read as what its segments name, and its compiled form as the same in kebab case.
And two tokens compile to the same text exactly when their segments are the same in kebab case. -/
theorem parse?_compile (space : String) :
    (∀ (text : String) (reference : Reference), reference ≠ custom [] →
      IsToken text reference.segments →
      parse? text space = some reference ∧
        parse? (compile text space) space = some reference.kebab) ∧
    ∀ (a b : String) (as bs : List String), IsToken a as → IsToken b bs →
      (compile a space = compile b space ↔ as.map kebabCase = bs.map kebabCase) := by
  constructor
  · intro text reference hne htoken
    have hkebab := kebab_ne_custom_nil hne
    constructor
    · rw [parse?_token htoken, ofSegments?_segments hne]
    · rw [parse?_compile_token htoken, ← segments_kebab, ofSegments?_segments hkebab]
  · intro a b as bs ha hb
    constructor
    · intro heq
      have hsegments := variableSegments?_compile ha space
      rw [heq, variableSegments?_compile hb space] at hsegments
      exact (Option.some.inj hsegments).symm
    · intro heq
      rw [compile_token ha, compile_token hb, propertyName_eq space ha.ne_nil,
        propertyName_eq space hb.ne_nil, heq]

/-- A preset without a slug, and a custom value with empty keys around one that falls into two
words, in a namespace with a double hyphen; the second token names the same in other letters. -/
theorem parse?_compile_empty_segments :
    parse? "ref:preset|fontSize|" "a--b" = some (preset "fontSize" "") ∧
      parse? (compile "ref:preset|fontSize|" "a--b") "a--b" = some (preset "font-size" "") ∧
      parse? (compile "var:custom||XLarge|" "a--b") "a--b" = some (custom ["", "x-large", ""]) ∧
      compile "var:custom||XLarge|" "a--b" = compile "ref:custom|-|x_large|" "a--b" := by
  have hpreset : IsToken "ref:preset|fontSize|" (preset "fontSize" "").segments :=
    ⟨by decide, by decide, .inl (by decide)⟩
  have hcustom : IsToken "var:custom||XLarge|" (custom ["", "XLarge", ""]).segments :=
    ⟨by decide, by decide, .inr (by decide)⟩
  have hother : IsToken "ref:custom|-|x_large|" ["custom", "-", "x_large", ""] :=
    ⟨by decide, by decide, .inl (by decide)⟩
  obtain ⟨hread, hsame⟩ := parse?_compile "a--b"
  obtain ⟨hparse, hcompiled⟩ := hread _ (preset "fontSize" "") (by decide) hpreset
  obtain ⟨-, hkeys⟩ := hread _ (custom ["", "XLarge", ""]) (by decide) hcustom
  have hpresetKebab : (preset "fontSize" "").kebab = preset "font-size" "" := by decide +kernel
  have hcustomKebab : (custom ["", "XLarge", ""]).kebab = custom ["", "x-large", ""] := by
    decide +kernel
  refine ⟨hparse, ?_, ?_, ?_⟩
  · rw [hcompiled, hpresetKebab]
  · rw [hkeys, hcustomKebab]
  · exact (hsame _ _ _ _ hcustom hother).2 (by decide +kernel)

end GlobalStyles.Reference
