import GlobalStyles.Proofs.Preset.Liveness
import GlobalStyles.Proofs.Reference.Following

/-!
# What a snapped value resolves to

A value is snapped to the token of an item that has it, and the token is resolved by another look-up
than the one that found the item. Both go through the same items in the same order; but snapping
takes slugs to be the same if they are equal, and resolving if they are so in kebab case. A slug
with a bar does not even make a token that resolves.

So snapping gives the value back while every slug of the category stands for itself
(`Reference.resolve_snap_eq_iff`), and what it loses otherwise is told by the item that is met
first.
-/

namespace GlobalStyles

open Text (kebabCase)

namespace Preset

/-- Every slug of a category stands for itself: it has no bar, and no other slug is the same in
kebab case. -/
def SlugsStandAlone (category : PresetCategory) (settings : Json) (scope : Option String) : Prop :=
  ∀ item ∈ candidates category settings scope, ∀ slug, slug? item = some slug →
    '|' ∉ slug.toList ∧
      ∀ other ∈ candidates category settings scope, ∀ own, slug? other = some own →
        kebabCase own = kebabCase slug → own = slug

/-- Where every slug stands for itself, it does not matter how slugs are compared. -/
theorem SlugsStandAlone.bySlug?_eq {category : PresetCategory} {settings : Json}
    {scope : Option String} (h : SlugsStandAlone category settings scope) {slug : String}
    {item : Json} (hmem : item ∈ candidates category settings scope)
    (hslug : slug? item = some slug) :
    bySlug? category settings scope slug =
      firstWith? (candidates category settings scope) "slug" (.str slug) := by
  refine List.find?_congr fun other hother ↦ ?_
  rw [Bool.eq_iff_iff, hasSlug_iff, sameMember_some_str_iff, ← slug?_eq_some_iff]
  constructor
  · rintro ⟨own, hown, hsame⟩
    rw [hown, (h item hmem slug hslug).2 other hother own hown hsame]
  · exact fun hown ↦ ⟨slug, hown, rfl⟩

end Preset

namespace Reference

open Preset (FirstIsLive SlugsStandAlone slug? bySlug? candidates firstWith?)

variable {settings : Json} {scope : Option String} {stylePath value space : String}

/-! ### What a value is snapped to -/

/-- A value stays, or becomes the token for a slug whose first item, slugs compared as they are
written, has the value. -/
theorem snap_eq_or (settings : Json) (scope : Option String) (stylePath value : String) :
    snap settings scope stylePath value = value ∨
      ∃ category slug first, PresetCategory.ofStylePath? stylePath = some category ∧
        snap settings scope stylePath value = presetToken category slug ∧
        firstWith? (candidates category settings scope) "slug" (.str slug) = some first ∧
        first.member? category.valueKey = some (.str value) := by
  by_cases hne : value = ""
  · exact .inl (by rw [snap, if_pos hne, hne])
  rcases hpath : PresetCategory.ofStylePath? stylePath with _ | category
  · exact .inl (by rw [snap, if_neg hne, hpath])
  by_cases hfirst : ∃ slug, FirstIsLive category settings scope value slug
  · obtain ⟨slug, hfirst⟩ := hfirst
    obtain ⟨item, -, hlive⟩ := id hfirst
    obtain ⟨first, hstrongest, hsame⟩ := Option.bind_eq_some_iff.1 hlive.strongest_eq
    exact .inr ⟨category, slug, first, rfl, snap_of_firstIsLive hpath settings scope hne hfirst,
      hstrongest, hsame⟩
  · exact .inl (snap_of_not_firstIsLive hpath settings scope (not_exists.1 hfirst))

/-! ### What a token leads to -/

/-- A tree that is made of settings alone. -/
def treeOfSettings (settings : Json) : Json :=
  .obj [("settings", settings)]

theorem getD_get?_treeOfSettings (settings : Json) :
    ((treeOfSettings settings).get? ["settings"]).getD .null = settings := by
  cases settings <;> rfl

/-- The token for a slug without a bar leads to the value of the first item that has the slug in
kebab case. -/
theorem target?_presetToken {category : PresetCategory} {slug : String} (h : '|' ∉ slug.toList) :
    target? (treeOfSettings settings) scope space (presetToken category slug) =
      (bySlug? category settings scope slug).bind (·.member? category.valueKey) := by
  rw [target?, parse?_presetToken_of_notMem category space h, getD_get?_treeOfSettings,
    Option.bind_some, lookUp?_preset]

/-- A text that is no reference stays. -/
theorem resolve_of_parse?_eq_none (tree : Json) (scope : Option String)
    (h : parse? value space = none) : resolve tree scope (.str value) space = .str value :=
  (resolve_eq_iff (step?_eq_none tree scope h) _).2 ⟨0, rfl⟩

/-- A text resolves to one that is no reference exactly if what it leads to does. -/
theorem resolve_str_eq_iff {tree : Json} {text : String} (hne : text ≠ value)
    (h : parse? value space = none) :
    resolve tree scope (.str text) space = .str value ↔
      ∃ found, target? tree scope space text = some found ∧
        resolve tree scope found space = .str value := by
  rcases htarget : target? tree scope space text with _ | found
  · -- the text leads nowhere, so it stays
    have hend : step? (target? tree scope space) (.str text) = none := htarget
    have hstays : resolve tree scope (.str text) space = .str text :=
      (resolve_eq_iff hend _).2 ⟨0, rfl⟩
    simp [hstays, hne]
  · rw [resolve_str_eq_iff_of_target? htarget (step?_eq_none tree scope h)]
    simp

/-- A value was snapped to a slug without a bar, and the first item with that slug, slugs compared
in kebab case, has a value that resolves to it. -/
def LeadsBack (settings : Json) (scope : Option String) (stylePath value space : String) : Prop :=
  ∃ category slug found, PresetCategory.ofStylePath? stylePath = some category ∧
    snap settings scope stylePath value = presetToken category slug ∧ '|' ∉ slug.toList ∧
    (bySlug? category settings scope slug).bind (·.member? category.valueKey) = some found ∧
    resolve (treeOfSettings settings) scope found space = .str value

/-- A value that does not stay comes back exactly if the item that is met first leads back to
it. -/
theorem resolve_snap_iff_of_ne (h : parse? value space = none)
    (hne : snap settings scope stylePath value ≠ value) :
    resolve (treeOfSettings settings) scope (.str (snap settings scope stylePath value)) space =
        .str value ↔
      LeadsBack settings scope stylePath value space := by
  rw [resolve_str_eq_iff hne h]
  constructor
  · rintro ⟨found, hfound, hlast⟩
    obtain ⟨category, slug, -, hpath, htoken, -⟩ :=
      (snap_eq_or settings scope stylePath value).resolve_left hne
    rw [htoken] at hfound
    have hbar : '|' ∉ slug.toList := by
      intro hbar
      rw [target?, parse?_presetToken_of_mem category space hbar] at hfound
      cases hfound
    rw [target?_presetToken hbar] at hfound
    exact ⟨category, slug, found, hpath, htoken, hbar, hfound, hlast⟩
  · rintro ⟨category, slug, found, -, htoken, hbar, hfound, hlast⟩
    rw [← target?_presetToken hbar, ← htoken] at hfound
    exact ⟨found, hfound, hlast⟩

/-- Where every slug stands for itself, the item that is met first has the value. -/
theorem leadsBack_of_slugsStandAlone (h : parse? value space = none)
    (hne : snap settings scope stylePath value ≠ value)
    (halone : ∀ category, PresetCategory.ofStylePath? stylePath = some category →
      SlugsStandAlone category settings scope) :
    LeadsBack settings scope stylePath value space := by
  obtain ⟨category, slug, first, hpath, htoken, hfirst, hvalue⟩ :=
    (snap_eq_or settings scope stylePath value).resolve_left hne
  have hmem : first ∈ candidates category settings scope := List.mem_of_find?_eq_some hfirst
  have hslug := (Preset.slug?_eq_some_iff _ _).2 (Preset.member?_of_firstWith? hfirst)
  refine ⟨category, slug, .str value, hpath, htoken, (halone category hpath _ hmem _ hslug).1, ?_,
    resolve_of_parse?_eq_none _ scope h⟩
  rw [(halone category hpath).bySlug?_eq hmem hslug, hfirst, Option.bind_some, hvalue]

/-- **What a snapped value resolves to.** A text that is no reference comes back after snapping and
resolving exactly if snapping leaves it or the item that is met first leads back to it. It always
comes back while every slug of the category stands for itself. -/
theorem resolve_snap_eq_iff (h : parse? value space = none) (settings : Json)
    (scope : Option String) (stylePath : String) :
    (resolve (treeOfSettings settings) scope (.str (snap settings scope stylePath value)) space =
        .str value ↔
      snap settings scope stylePath value = value ∨
        LeadsBack settings scope stylePath value space) ∧
    ((∀ category, PresetCategory.ofStylePath? stylePath = some category →
        SlugsStandAlone category settings scope) →
      resolve (treeOfSettings settings) scope (.str (snap settings scope stylePath value)) space =
        .str value) := by
  by_cases hsame : snap settings scope stylePath value = value
  · have hback := resolve_of_parse?_eq_none (treeOfSettings settings) scope h
    rw [hsame]
    exact ⟨⟨fun _ ↦ .inl rfl, fun _ ↦ hback⟩, fun _ ↦ hback⟩
  · have hiff := resolve_snap_iff_of_ne h hsame
    refine ⟨by rw [hiff, or_iff_right hsame], fun halone ↦ ?_⟩
    exact hiff.2 (leadsBack_of_slugsStandAlone h hsame halone)

/-- Settings with one ink, written in camel case. -/
private def oneInk : Json :=
  .obj [("color", .obj [("palette", .obj [("theme", .arr
    [.obj [("slug", .str "white2black"), ("color", .str "#777")]])])])]

theorem resolve_snap_one_ink :
    parse? "#777" "wp" = none ∧ SlugsStandAlone .color oneInk none ∧
      snap oneInk none "color.background" "#777" = "ref:preset|color|white2black" ∧
      resolve (treeOfSettings oneInk) none (.str "ref:preset|color|white2black") "wp" =
        .str "#777" := by
  have hparse : parse? "#777" "wp" = none := by decide
  have halone : SlugsStandAlone .color oneInk none := by
    have hslug : ∀ item ∈ candidates .color oneInk none, ∀ slug, slug? item = some slug →
        slug = "white2black" := by
      intro item hitem slug hslug
      obtain rfl : item = .obj [("slug", .str "white2black"), ("color", .str "#777")] :=
        List.mem_singleton.1 hitem
      exact (Option.some.inj hslug).symm
    intro item hitem slug hown
    obtain rfl := hslug item hitem slug hown
    exact ⟨by decide, fun other hother own hown _ ↦ hslug other hother own hown⟩
  have hsnap : snap oneInk none "color.background" "#777" = "ref:preset|color|white2black" := by
    decide
  refine ⟨hparse, halone, hsnap, ?_⟩
  rw [← hsnap]
  refine (resolve_snap_eq_iff hparse oneInk none "color.background").2 fun category hpath ↦ ?_
  obtain rfl : PresetCategory.color = category := Option.some.inj hpath
  exact halone

/-- Settings with two slugs that are the same in kebab case, and one with a bar. -/
private def twinInks : Json :=
  .obj [("color", .obj [("palette", .obj
    [("theme", .arr
      [.obj [("slug", .str "foo-bar"), ("color", .str "#222")],
        .obj [("slug", .str "a|b"), ("color", .str "#333")]]),
      ("custom", .arr [.obj [("slug", .str "fooBar"), ("color", .str "#111")]])])])]

/-- **Snapping can lose a value.** The token for the first ink leads to its twin, and the token for
the second one, with a bar in its slug, leads nowhere. -/
theorem resolve_snap_ne_twin_inks :
    (parse? "#222" "wp" = none ∧
      snap twinInks none "color.text" "#222" = "ref:preset|color|foo-bar" ∧
      resolve (treeOfSettings twinInks) none (.str (snap twinInks none "color.text" "#222")) "wp" =
        .str "#111") ∧
    (parse? "#333" "wp" = none ∧
      snap twinInks none "color.text" "#333" = "ref:preset|color|a|b" ∧
      resolve (treeOfSettings twinInks) none (.str (snap twinInks none "color.text" "#333")) "wp" =
        .str "ref:preset|color|a|b") :=
  ⟨⟨by decide, by decide, by rfl⟩, ⟨by decide, by decide, by rfl⟩⟩

end Reference

end GlobalStyles
