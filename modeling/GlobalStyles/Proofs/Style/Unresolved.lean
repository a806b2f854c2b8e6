import GlobalStyles.Style.Context

/-!
# When a text is reported

A text is reported when it is a reference to a preset and no settings that are looked through define
that preset: those of the scope, if there are any, and those of the root. The look-up stops at the
first item that fits, and goes through the origins by priority; whether it finds one does not depend
on either (`Preset.isSome_bySlug?_iff`).
-/

namespace GlobalStyles

namespace Preset

/-- Some settings have an item of a category with a slug, compared in kebab case, in one of the
catalogs. -/
def Defines (settings : Json) (category : PresetCategory) (slug : String) : Prop :=
  ∃ origin, ∃ item ∈ category.catalog settings origin, hasSlug slug item = true

theorem isSome_bySlug?_iff (category : PresetCategory) (settings : Json) (scope : Option String)
    (slug : String) :
    (bySlug? category settings scope slug).isSome ↔
      ∃ source ∈ sources settings scope, Defines source category slug := by
  rw [bySlug?, List.find?_isSome]
  constructor
  · rintro ⟨item, hmem, hslug⟩
    obtain ⟨source, hsource, hmem⟩ := List.mem_flatMap.1 hmem
    obtain ⟨origin, -, hitem⟩ := List.mem_flatMap.1 hmem
    exact ⟨source, hsource, origin, item, hitem, hslug⟩
  · rintro ⟨source, hsource, origin, item, hitem, hslug⟩
    have horigin : origin ∈ Origin.byPriority := List.mem_reverse.2 origin.mem_all
    exact ⟨item, List.mem_flatMap.2 ⟨source, hsource, List.mem_flatMap.2 ⟨origin, horigin, hitem⟩⟩,
      hslug⟩

end Preset

namespace Reference

/-- A text is a reference to a preset that no settings of a list define. -/
def NamesNoPreset (sources : List Json) (space text : String) : Prop :=
  ∃ segment slug, parse? text space = some (.preset segment slug) ∧
    ∀ category, PresetCategory.ofSegment? segment = some category →
      ∀ source ∈ sources, ¬Preset.Defines source category slug

/-- **A text is taken for unresolved exactly when it names a preset that no settings define.** -/
theorem presetExists_eq_false_iff (settings : Json) (scope : Option String) (text space : String) :
    presetExists settings scope text space = false ↔
      NamesNoPreset (Preset.sources settings scope) space text := by
  rw [presetExists, NamesNoPreset]
  rcases parse? text space with _ | ⟨segment, slug⟩ | path
  · simp
  · simp only [Option.some.injEq, preset.injEq]
    rw [← Bool.not_eq_true]
    constructor
    · intro hmissing
      refine ⟨segment, slug, ⟨rfl, rfl⟩, fun category hcategory source hsource hdefines ↦ ?_⟩
      rw [hcategory, Option.bind_some, Preset.isSome_bySlug?_iff] at hmissing
      exact hmissing ⟨source, hsource, hdefines⟩
    · rintro ⟨_, _, ⟨rfl, rfl⟩, hnone⟩ hfound
      rcases hcategory : PresetCategory.ofSegment? segment with _ | category
      · rw [hcategory] at hfound
        cases hfound
      · rw [hcategory, Option.bind_some, Preset.isSome_bySlug?_iff] at hfound
        obtain ⟨source, hsource, hdefines⟩ := hfound
        exact hnone category hcategory source hsource hdefines
  · simp

end Reference

namespace StyleContext

/-- **A text is reported exactly when there are settings and it names no preset of them.** -/
theorem mem_reports_iff (ctx : StyleContext) (text : String) (diagnostic : Diagnostic) :
    diagnostic ∈ ctx.reports text ↔
      diagnostic = .unresolvedReference text ctx.scope ∧
        ∃ settings, ctx.settings? = some settings ∧
          Reference.NamesNoPreset (Preset.sources settings ctx.scope) ctx.space text := by
  simp only [← Reference.presetExists_eq_false_iff]
  rw [reports]
  rcases ctx.settings? with _ | settings
  · simp
  · rcases hparse : Reference.parse? text ctx.space with _ | ⟨segment, slug⟩ | path
    · simp [Reference.presetExists, hparse]
    · rcases hexists : Reference.presetExists settings ctx.scope text ctx.space <;>
        simp [hexists]
    · simp [Reference.presetExists, hparse]

end StyleContext

end GlobalStyles
