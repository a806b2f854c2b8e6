import GlobalStyles.Preset.Snap
import GlobalStyles.Proofs.Preset.Declared
import Mathlib.Data.List.Find

/-!
# Live presets

A value may stand in a category more than once: under several slugs, or under one slug in several
catalogs. An item that has it is live if the first item with its slug has it too
(`Preset.IsLive`), and a value can only be replaced by the token of an item that is live.

Snapping looks for such an item among those that have the value, but it looks at the first of them
only. If that one is live it is the one that the value snaps to, and if it is not the value stays,
whatever comes after it (`Reference.snap_eq_token_or_self`). So nothing is ever snapped to an item
that is not live, but a live item is missed behind one that is shadowed, or has no slug
(`Reference.snap_of_shadowed_first`).
-/

namespace GlobalStyles

namespace Json

theorem same_str_iff (value : Json) (text : String) :
    value.same (.str text) = true ↔ value = .str text := by
  cases value <;> simp [same]

end Json

namespace PresetCategory

/-- No value of a preset stands under the key of its slug. -/
theorem valueKey_ne_slug (category : PresetCategory) : category.valueKey ≠ "slug" := by
  cases category <;> decide

end PresetCategory

namespace Preset

/-- A member is the same as a string when it is that string. -/
theorem sameMember_some_str_iff (value : Option Json) (text : String) :
    sameMember value (some (.str text)) = true ↔ value = some (.str text) := by
  cases value with
  | none => simp [sameMember]
  | some value => simp [sameMember, Json.same_str_iff]

/-- The slug of an item is a string under its key. -/
theorem slug?_eq_some_iff (item : Json) (slug : String) :
    slug? item = some slug ↔ item.member? "slug" = some (.str slug) := by
  rw [slug?, Option.bind_eq_some_iff]
  constructor
  · rintro ⟨value, hmember, htext⟩
    cases value <;> cases htext
    exact hmember
  · exact fun h ↦ ⟨.str slug, h, rfl⟩

theorem member?_of_firstWith? {items : List Json} {key text : String} {item : Json}
    (h : firstWith? items key (.str text) = some item) : item.member? key = some (.str text) := by
  have hsame := List.find?_some h
  exact (sameMember_some_str_iff _ _).1 hsame

/-! ### Which items are live -/

section

variable (category : PresetCategory) (settings : Json) (scope : Option String) (value : String)

/-- An item with a value and a slug is live if the first item with the slug has the value. -/
structure IsLive (item : Json) (slug : String) : Prop where
  mem : item ∈ candidates category settings scope
  value_eq : item.member? category.valueKey = some (.str value)
  slug_eq : slug? item = some slug
  strongest_eq : (firstWith? (candidates category settings scope) "slug" (.str slug)).bind
    (·.member? category.valueKey) = some (.str value)

/-- The first item that has a value is live. -/
def FirstIsLive (slug : String) : Prop :=
  ∃ item, firstWith? (candidates category settings scope) category.valueKey (.str value) =
    some item ∧ IsLive category settings scope value item slug

variable {category settings scope value}

/-- Both kinds of look-up go through the same items. -/
theorem itemsAt_path (category : PresetCategory) (settings : Json) (scope : Option String) :
    itemsAt settings scope category.path = candidates category settings scope :=
  rfl

/-- Looking for the value finds the first item that has it, and only if it is live. -/
theorem slug?_findBy?_eq_some_iff {slug : String} :
    (findBy? settings scope category.path category.valueKey (.str value)).bind slug? = some slug ↔
      FirstIsLive category settings scope value slug := by
  rw [Option.bind_eq_some_iff, findBy?, itemsAt_path]
  refine exists_congr fun item ↦ ?_
  rw [Option.filter_eq_some_iff, and_assoc]
  refine and_congr_right fun hfirst ↦ ?_
  have hvalue : item.member? category.valueKey = some (.str value) := member?_of_firstWith? hfirst
  have hlive (hslug : slug? item = some slug) :
      ((category.valueKey == "slug") || sameMember
        ((firstWith? (candidates category settings scope) "slug"
          ((item.member? "slug").getD .null)).bind (·.member? category.valueKey))
        (item.member? category.valueKey)) = true ↔
      (firstWith? (candidates category settings scope) "slug" (.str slug)).bind
        (·.member? category.valueKey) = some (.str value) := by
    rw [(slug?_eq_some_iff _ _).1 hslug, Option.getD_some,
      beq_eq_false_iff_ne.2 category.valueKey_ne_slug, Bool.false_or, hvalue,
      sameMember_some_str_iff]
  constructor
  · rintro ⟨hsame, hslug⟩
    exact ⟨List.mem_of_find?_eq_some hfirst, hvalue, hslug, (hlive hslug).1 hsame⟩
  · exact fun h ↦ ⟨(hlive h.slug_eq).2 h.strongest_eq, h.slug_eq⟩

end

end Preset

/-! ### What a value snaps to -/

namespace Reference

open Preset (IsLive FirstIsLive)

section

variable {category : PresetCategory} {stylePath value : String}
  (hpath : PresetCategory.ofStylePath? stylePath = some category)
  (settings : Json) (scope : Option String)
include hpath

/-- A value is snapped to the first item that has it, if that is live. -/
theorem snap_of_firstIsLive {slug : String} (hne : value ≠ "")
    (h : FirstIsLive category settings scope value slug) :
    snap settings scope stylePath value = presetToken category slug := by
  rw [snap, if_neg hne, hpath]
  simp only [Preset.slug?_findBy?_eq_some_iff.2 h]
  rfl

theorem snap_of_not_firstIsLive (h : ∀ slug, ¬ FirstIsLive category settings scope value slug) :
    snap settings scope stylePath value = value := by
  rw [snap, hpath]
  split
  · rename_i hempty
    exact hempty.symm
  · simp only
    split
    · rename_i slug hslug
      exact absurd (Preset.slug?_findBy?_eq_some_iff.1 hslug) (h slug)
    · rfl

/-- **What a value snaps to.** The token of the first item that has the value, if this item is live,
and else the value itself; so it stays if no item is live. The token of a live item comes out
exactly if the first item is live, or the value is such a token from the start. -/
theorem snap_eq_token_or_self (hne : value ≠ "") :
    (∀ slug, FirstIsLive category settings scope value slug →
      snap settings scope stylePath value = presetToken category slug) ∧
    ((∀ slug, ¬ FirstIsLive category settings scope value slug) →
      snap settings scope stylePath value = value) ∧
    ((∀ item slug, ¬ IsLive category settings scope value item slug) →
      snap settings scope stylePath value = value) ∧
    ((∃ item slug, IsLive category settings scope value item slug ∧
        snap settings scope stylePath value = presetToken category slug) ↔
      (∃ slug, FirstIsLive category settings scope value slug) ∨
        ∃ item slug, IsLive category settings scope value item slug ∧
          value = presetToken category slug) := by
  have hsnaps (slug : String) (h : FirstIsLive category settings scope value slug) :=
    snap_of_firstIsLive hpath settings scope hne h
  have hstays (h : ∀ slug, ¬ FirstIsLive category settings scope value slug) :=
    snap_of_not_firstIsLive hpath settings scope h
  refine ⟨hsnaps, hstays, fun hnone ↦ hstays fun slug ⟨item, _, hlive⟩ ↦ hnone item slug hlive, ?_⟩
  constructor
  · rintro ⟨item, slug, hlive, hsnap⟩
    by_cases hfirst : ∃ slug, FirstIsLive category settings scope value slug
    · exact .inl hfirst
    · rw [hstays (not_exists.1 hfirst)] at hsnap
      exact .inr ⟨item, slug, hlive, hsnap⟩
  · intro htoken
    by_cases hfirst : ∃ slug, FirstIsLive category settings scope value slug
    · obtain ⟨slug, hfirst⟩ := hfirst
      obtain ⟨item, -, hlive⟩ := id hfirst
      exact ⟨item, slug, hlive, hsnaps slug hfirst⟩
    · obtain ⟨item, slug, hlive, htoken⟩ := htoken.resolve_left hfirst
      exact ⟨item, slug, hlive, (hstays (not_exists.1 hfirst)).trans htoken⟩

end

/-- A block with an ink of its own, under a slug that the root gives to another. -/
private def inksOfQuote : Json :=
  .obj [("color", .obj [("palette", .obj [("theme", .arr
      [.obj [("slug", .str "ink"), ("color", .str "#111")],
        .obj [("slug", .str "night"), ("color", .str "#222")]])])]),
    ("blocks", .obj [("core/quote", .obj [("color", .obj [("palette", .obj [("custom", .arr
      [.obj [("slug", .str "ink"), ("color", .str "#222")]])])])])])]

/-- In the block the value stands first under the slug of the block's ink, and the root's ink is
shadowed by it. -/
theorem snap_inks_of_quote :
    PresetCategory.ofStylePath? "color.text" = some .color ∧ "#222" ≠ "" ∧
      FirstIsLive .color inksOfQuote (some "core/quote") "#222" "ink" ∧
      snap inksOfQuote (some "core/quote") "color.text" "#222" = presetToken .color "ink" ∧
      (∀ item slug, ¬ IsLive .color inksOfQuote (some "core/quote") "#111" item slug) ∧
      snap inksOfQuote (some "core/quote") "color.text" "#111" = "#111" := by
  have hpath : PresetCategory.ofStylePath? "color.text" = some .color := by decide
  have hfirst : FirstIsLive .color inksOfQuote (some "core/quote") "#222" "ink" :=
    ⟨_, rfl, .head _, rfl, rfl, rfl⟩
  have hnone : ∀ item slug, ¬ IsLive .color inksOfQuote (some "core/quote") "#111" item slug := by
    intro item slug hlive
    have hmem : item ∈ [.obj [("slug", .str "ink"), ("color", .str "#222")],
        .obj [("slug", .str "ink"), ("color", .str "#111")],
        .obj [("slug", .str "night"), ("color", .str "#222")]] := hlive.mem
    have hother : "#222" ≠ "#111" := by decide
    simp only [List.mem_cons, List.not_mem_nil, or_false] at hmem
    rcases hmem with rfl | rfl | rfl
    · exact hother (Json.str.inj (Option.some.inj hlive.value_eq))
    · -- the slug stands first on the ink of the block
      obtain rfl : "ink" = slug := Option.some.inj hlive.slug_eq
      exact hother (Json.str.inj (Option.some.inj hlive.strongest_eq))
    · exact hother (Json.str.inj (Option.some.inj hlive.value_eq))
  have hne : "#222" ≠ "" := by decide
  exact ⟨hpath, hne, hfirst, (snap_eq_token_or_self hpath inksOfQuote (some "core/quote") hne).1 _
    hfirst, hnone, (snap_eq_token_or_self hpath inksOfQuote (some "core/quote") (by decide)).2.2.1
    hnone⟩

/-- A value under a slug that a stronger item has with another value, and under a slug of its
own. -/
private def shadowedInk : Json :=
  .obj [("color", .obj [("palette", .obj
    [("default", .arr [.obj [("slug", .str "night"), ("color", .str "#222")]]),
      ("theme", .arr [.obj [("slug", .str "ink"), ("color", .str "#222")]]),
      ("custom", .arr [.obj [("slug", .str "ink"), ("color", .str "#111")]])])])]

/-- A value of an item without a slug, and under a slug. -/
private def namelessInk : Json :=
  .obj [("color", .obj [("palette", .obj [("theme", .arr
    [.obj [("color", .str "#222")], .obj [("slug", .str "night"), ("color", .str "#222")]])])])]

/-- **Snapping misses live items.** Both values have a live item, and behind an item that is
shadowed or has no slug it is not found. -/
theorem snap_of_shadowed_first :
    (∀ slug, presetToken .color slug ≠ "#222") ∧
    ((∃ item, IsLive .color shadowedInk none "#222" item "night") ∧
      snap shadowedInk none "color.text" "#222" = "#222") ∧
    ((∃ item, IsLive .color namelessInk none "#222" item "night") ∧
      snap namelessInk none "color.text" "#222" = "#222") := by
  refine ⟨fun slug htoken ↦ ?_, ⟨⟨.obj [("slug", .str "night"), ("color", .str "#222")],
    .tail _ (.tail _ (.head _)), rfl, rfl, rfl⟩, by decide⟩,
    ⟨.obj [("slug", .str "night"), ("color", .str "#222")], .tail _ (.head _), rfl, rfl, rfl⟩,
    by decide⟩
  have hsegments := segments?_presetToken .color slug
  have hnone : segments? "#222" = none := by decide
  rw [htoken, hnone] at hsegments
  cases hsegments

end Reference

end GlobalStyles
