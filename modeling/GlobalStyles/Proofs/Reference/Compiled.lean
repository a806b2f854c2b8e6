import GlobalStyles.Proofs.Preset.Declared
import GlobalStyles.Proofs.Reference.Following
import GlobalStyles.Proofs.Text.NormalForm

/-!
# What a compiled token resolves to

A token and the `var()` that it compiles to are looked up by different names: the token by its slug
or keys as they are written, the `var()` by the same in kebab case (`Reference.target?_compile`).
For a preset that makes no difference while kebab case does not change the slug a second time,
because look-ups of presets compare slugs in kebab case. The keys of a custom value are compared as
they are, so there it makes none while they are in kebab case already.

Where both names lead to the same value, everything after it is the same too, and so is what they
resolve to (`Reference.resolve_compile_eq`). Only on a cycle can they part, since it may come back
to the token and not to its compiled form.
-/

namespace GlobalStyles.Reference

open Text (kebabCase)

/-! ### Look-ups in kebab case -/

/-- Kebab case does not change which slug or keys a reference is looked up by. -/
def KeepsName : Reference → Prop
  | preset _ slug => kebabCase (kebabCase slug) = kebabCase slug
  | custom path => ∀ key ∈ path, kebabCase key = key

theorem keepsName_preset_of_isAscii (category : String) {slug : String} (h : Text.IsAscii slug) :
    (preset category slug).KeepsName :=
  Text.kebabCase_kebabCase h

/-- Presets are looked up by their slugs in kebab case. -/
theorem bySlug?_kebabCase {slug : String} (h : kebabCase (kebabCase slug) = kebabCase slug)
    (category : PresetCategory) (settings : Json) (scope : Option String) :
    Preset.bySlug? category settings scope (kebabCase slug) =
      Preset.bySlug? category settings scope slug := by
  have hslug : Preset.hasSlug (kebabCase slug) = Preset.hasSlug slug := by
    funext item
    rw [Preset.hasSlug, Preset.hasSlug, h]
  rw [Preset.bySlug?, Preset.bySlug?, hslug]

theorem lookUp?_kebab {settings found : Json} {scope : Option String} {reference : Reference}
    (hkeeps : reference.KeepsName) (h : lookUp? settings scope reference = some found) :
    lookUp? settings scope reference.kebab = some found := by
  cases reference with
  | preset segment slug =>
    obtain ⟨category, hcategory, hitem⟩ := Option.bind_eq_some_iff.1 h
    -- the segment of a category is in kebab case
    have hsegment : kebabCase segment = segment := by
      rw [← PresetCategory.eq_of_ofSegment? hcategory, category.kebabCase_segment]
    rw [kebab, hsegment, lookUp?, hcategory]
    show (Preset.bySlug? category settings scope (kebabCase slug)).bind _ = _
    rw [bySlug?_kebabCase hkeeps]
    exact hitem
  | custom path =>
    have hpath : path.map kebabCase = path :=
      List.map_congr_left hkeeps |>.trans (List.map_id path)
    rwa [kebab, hpath]

/-! ### A token and its compiled form -/

section

variable {tree found : Json} {scope : Option String} {space text : String} {reference : Reference}

theorem parse?_compile_kebab (htoken : (segments? text).isSome)
    (hparse : parse? text space = some reference) :
    parse? (compile text space) space = some reference.kebab := by
  obtain ⟨segments, hsegments⟩ := Option.isSome_iff_exists.1 htoken
  rw [parse?, hsegments] at hparse
  obtain ⟨rfl, hne⟩ := eq_segments_of_ofSegments? hparse
  rw [parse?_compile_of_segments? hsegments, ← segments_kebab,
    ofSegments?_segments (kebab_ne_custom_nil hne)]

/-- A compiled token is looked up by its name in kebab case. -/
theorem target?_compile (htoken : (segments? text).isSome)
    (hparse : parse? text space = some reference) :
    target? tree scope space (compile text space) =
      lookUp? ((tree.get? ["settings"]).getD .null) scope reference.kebab := by
  rw [target?, parse?_compile_kebab htoken hparse, Option.bind_some]

/-- Following a value meets a cycle: some value stands on its chain twice. -/
def MeetsCycle (tree : Json) (scope : Option String) (space : String) (value : Json) : Prop :=
  ∃ i j found, i < j ∧ after? (target? tree scope space) value i = some found ∧
    after? (target? tree scope space) value j = some found

/-- Without a cycle resolving comes to the end of the chain. -/
theorem step?_resolve_eq_none {value : Json} (h : ¬ MeetsCycle tree scope space value) :
    step? (target? tree scope space) (resolve tree scope value space) = none := by
  obtain ⟨n, hn, hstop⟩ := exists_firstStop tree scope value space
  obtain ⟨found, hfound, hend | ⟨i, hlt, hi⟩⟩ := hstop.stops
  · rwa [Option.some.inj (hn.symm.trans hfound)]
  · exact absurd ⟨i, n, found, hlt, hi, hfound⟩ h

theorem not_meetsCycle_of_after?_eq_none {value : Json} {n : Nat}
    (h : after? (target? tree scope space) value n = none) :
    ¬ MeetsCycle tree scope space value := by
  rintro ⟨i, j, found, hlt, hi, hj⟩
  have hsome := isSome_after?_of_eq hlt hi hj n
  rw [h] at hsome
  cases hsome

/-- **Where a token and its compiled form lead to the same value, they resolve to the same**, unless
a cycle is met. -/
theorem resolve_compile_eq (hfound : target? tree scope space text = some found)
    (hcompiled : target? tree scope space (compile text space) = some found)
    (hcycle : ¬ MeetsCycle tree scope space (.str text)) :
    resolve tree scope (.str (compile text space)) space =
      resolve tree scope (.str text) space := by
  have hend := step?_resolve_eq_none hcycle
  rw [resolve_str_eq_iff_of_target? hcompiled hend, ← resolve_str_eq_iff_of_target? hfound hend]

/-- **How a compiled token is resolved.** It is looked up as what the token names, in kebab case. So
it leads to the same value if kebab case keeps the name, as it does with every preset whose slug is
of ASCII; and wherever it does lead to the same value, it resolves to what the token resolves to,
unless a cycle is met. -/
theorem resolve_compile (htoken : (segments? text).isSome)
    (hfound : target? tree scope space text = some found) :
    ∃ reference, parse? text space = some reference ∧
      target? tree scope space (compile text space) =
        lookUp? ((tree.get? ["settings"]).getD .null) scope reference.kebab ∧
      (∀ category slug, reference = preset category slug → Text.IsAscii slug →
        reference.KeepsName) ∧
      (reference.KeepsName → target? tree scope space (compile text space) = some found) ∧
      (target? tree scope space (compile text space) = some found →
        ¬ MeetsCycle tree scope space (.str text) →
        resolve tree scope (.str (compile text space)) space =
          resolve tree scope (.str text) space) := by
  obtain ⟨reference, hparse, hlookUp⟩ := Option.bind_eq_some_iff.1 hfound
  have hcompile : target? tree scope space (compile text space) =
      lookUp? ((tree.get? ["settings"]).getD .null) scope reference.kebab :=
    target?_compile htoken hparse
  refine ⟨reference, hparse, hcompile, ?_, fun hkeeps ↦ ?_, resolve_compile_eq hfound⟩
  · rintro category slug rfl hascii
    exact keepsName_preset_of_isAscii category hascii
  · rw [hcompile, lookUp?_kebab hkeeps hlookUp]

end

/-- A preset with a slug in camel case, whose value is a custom value. -/
private def treeWithChain : Json :=
  .obj [("settings", .obj
    [("color", .obj [("palette", .obj [("theme", .arr
        [.obj [("slug", .str "warmInk2"), ("color", .str "ref:custom|ink")]])])]),
      ("custom", .obj [("ink", .str "#310")])])]

theorem resolve_compile_warm_ink :
    (segments? "var:preset|color|warmInk2").isSome ∧
      target? treeWithChain none "wp" "var:preset|color|warmInk2" = some (.str "ref:custom|ink") ∧
      compile "var:preset|color|warmInk2" "wp" = "var(--wp--preset--color--warm-ink-2)" ∧
      target? treeWithChain none "wp" "var(--wp--preset--color--warm-ink-2)" =
        some (.str "ref:custom|ink") ∧
      ¬ MeetsCycle treeWithChain none "wp" (.str "var:preset|color|warmInk2") ∧
      resolve treeWithChain none (.str "var:preset|color|warmInk2") "wp" = .str "#310" ∧
      resolve treeWithChain none (.str "var(--wp--preset--color--warm-ink-2)") "wp" =
        .str "#310" := by
  have htoken : (segments? "var:preset|color|warmInk2").isSome := by decide
  have hfound : target? treeWithChain none "wp" "var:preset|color|warmInk2" =
      some (.str "ref:custom|ink") := rfl
  have htext : compile "var:preset|color|warmInk2" "wp" =
      "var(--wp--preset--color--warm-ink-2)" := by decide +kernel
  have hcycle : ¬ MeetsCycle treeWithChain none "wp" (.str "var:preset|color|warmInk2") :=
    not_meetsCycle_of_after?_eq_none (n := 3) rfl
  have hresolve : resolve treeWithChain none (.str "var:preset|color|warmInk2") "wp" =
      .str "#310" := rfl
  obtain ⟨reference, hparse, -, hascii, hkeeps, hsame⟩ := resolve_compile htoken hfound
  obtain rfl : preset "color" "warmInk2" = reference := Option.some.inj hparse
  have hcompiled := hkeeps (hascii _ _ rfl (by decide))
  have hback := hsame hcompiled hcycle
  rw [htext] at hcompiled hback
  exact ⟨htoken, hfound, htext, hcompiled, hcycle, hresolve, hback.trans hresolve⟩

/-- A slug that kebab case changes twice, a key that is not in kebab case, and one that is another
key in kebab case. -/
private def treeWithNames : Json :=
  .obj [("settings", .obj
    [("color", .obj [("palette", .obj [("theme", .arr
        [.obj [("slug", .str "\u0130"), ("color", .str "#310")]])])]),
      ("custom", .obj [("lineHeight", .str "1.5"), ("fontScale", .str "2"),
        ("font-scale", .str "3")])])]

/-- **A token and its compiled form can part.** The compiled form of the first token names no custom
value, that of the second another one, and that of the third no preset. -/
theorem resolve_compile_ne :
    (target? treeWithNames none "wp" "ref:custom|lineHeight" = some (.str "1.5") ∧
      ¬ MeetsCycle treeWithNames none "wp" (.str "ref:custom|lineHeight") ∧
      compile "ref:custom|lineHeight" "wp" = "var(--wp--custom--line-height)" ∧
      target? treeWithNames none "wp" "var(--wp--custom--line-height)" = none ∧
      resolve treeWithNames none (.str "ref:custom|lineHeight") "wp" = .str "1.5" ∧
      resolve treeWithNames none (.str "var(--wp--custom--line-height)") "wp" =
        .str "var(--wp--custom--line-height)") ∧
    (target? treeWithNames none "wp" "ref:custom|fontScale" = some (.str "2") ∧
      compile "ref:custom|fontScale" "wp" = "var(--wp--custom--font-scale)" ∧
      target? treeWithNames none "wp" "var(--wp--custom--font-scale)" = some (.str "3")) ∧
    ((target? treeWithNames none "wp" "ref:preset|color|\u0130").isSome ∧
      compile "ref:preset|color|\u0130" "wp" = "var(--wp--preset--color--i\u0307)" ∧
      target? treeWithNames none "wp" "var(--wp--preset--color--i\u0307)" = none) :=
  ⟨⟨rfl, not_meetsCycle_of_after?_eq_none (n := 2) rfl, by decide +kernel, rfl, rfl, rfl⟩,
    ⟨rfl, by decide +kernel, rfl⟩, by decide +kernel⟩

end GlobalStyles.Reference
