import GlobalStyles.Config.Variation
import GlobalStyles.Proofs.Config.Depth

/-!
# What applying a variation leaves as it is

A variation is laid over the branch `styles`, so nothing beside that branch changes. The map of the
variations is part of the branch. A variation is shaped like styles and may have a map of its own,
and this is laid over the map with everything else: the map stays as it is exactly if the
variation's own one only repeats what it has (`Config.applyVariation_keeps_variations_iff`).

While the map stays, so does everything that is addressed through it: each variation has the same
content, it can be applied if it could be before, because whether a layer is refused is not a matter
of the base, and the one that was applied leaves the tree when it is applied again.
-/

namespace GlobalStyles.Config

open Json

variable {tree result : Json} {name : String}

/-- The branch of the styles, as a base for layers. -/
theorem getD_get?_styles (tree : Json) :
    (tree.get? ["styles"]).getD .null = tree.child "styles" := by
  rw [get?_eq_down, down_cons, down_nil]
  split <;> rename_i hnull
  · rw [(isNull_eq_true_iff _).1 hnull, Option.getD_none]
  · rfl

/-- Applying a variation succeeds with the tree whose styles are what the variation merges to. -/
theorem applyVariation_eq_ok_iff :
    applyVariation tree name = .ok result ↔ ∃ variation styles,
      variation? tree name = some variation ∧
        merge (tree.child "styles") variation = .ok styles ∧
        result = tree.set ["styles"] styles := by
  rw [applyVariation, getD_get?_styles]
  rcases variation? tree name with _ | variation
  · simp
  · rcases hmerge : merge (tree.child "styles") variation with error | styles <;>
      simp [hmerge, bind, Except.bind, pure, Except.pure, eq_comm]

/-- A variation is looked up in the map of the variations. -/
theorem variation?_eq_bind (tree : Json) (name : String) :
    variation? tree name = (tree.find? ["styles", "variations"]).bind (·.get? [name]) := by
  have happend := find?_append tree ["styles", "variations"] [name]
  rw [List.cons_append, List.cons_append, List.nil_append] at happend
  rw [variation?, get?, happend]
  rcases tree.find? ["styles", "variations"] with _ | map <;> rfl

/-- The map of the variations after new styles were put in. -/
theorem find?_variations_set (tree styles : Json) :
    (tree.set ["styles"] styles).find? ["styles", "variations"] = styles.member? "variations" := by
  rw [find?_cons, Json.set, member?_obj, Entries.get?_put_self, Option.bind_some, find?_cons,
    set_nil]
  rcases styles.member? "variations" with _ | map <;> rfl

/-- A layer that merges into one base merges into every base. -/
theorem exists_merge {base user merged : Json} (h : merge base user = .ok merged) (other : Json) :
    ∃ made, merge other user = .ok made := by
  have herror : error? (merge other user) = none := by
    rw [error?_merge, ← error?_merge base, h]
    rfl
  rcases hmade : merge other user with error | made
  · rw [hmade] at herror
    cases herror
  · exact ⟨made, rfl⟩

/-- The variation's own map is laid over the map of the variations. -/
theorem overlayMember_variations {base variation styles : Json} (hvariation : variation.WellFormed)
    (h : merge base variation = .ok styles) :
    overlayMember ["variations"] (base.member? "variations") (variation.member? "variations") =
      .ok (styles.member? "variations") := by
  rw [merge_eq_overlayValue] at h
  obtain ⟨made, hmade, rfl⟩ := overlayValue_obj h
  exact overlayMember_get? (nodup_keys_entries hvariation) hmade "variations"

/-- What is laid over a member leaves it exactly if there is nothing or it repeats the member. -/
theorem eq_of_overlayMember_iff {path : List String} {map : Json} {user merged : Option Json}
    (huser : ∀ own ∈ user, own.WellFormed) (h : overlayMember path (some map) user = .ok merged) :
    merged = some map ↔ ∀ own ∈ user, Repeats path own map := by
  rcases user with _ | own
  · cases h
    simp
  · obtain ⟨laid, hlaid, rfl⟩ := overlayMember_some.1 h
    have hown := huser own rfl
    constructor
    · rintro heq _ ⟨⟩
      cases heq
      exact repeats_of_overlayValue hown hlaid
    · intro hrepeats
      rw [overlayValue_of_repeats hown (hrepeats own rfl) hlaid] at hlaid
      rw [Except.ok.inj hlaid]

/-- A tree with a variation has a map of variations. -/
theorem exists_variations {variation : Json} (h : variation? tree name = some variation) :
    ∃ map, tree.find? ["styles", "variations"] = some map ∧
      (tree.child "styles").member? "variations" = some map := by
  rw [variation?_eq_bind] at h
  obtain ⟨map, hmap, -⟩ := Option.bind_eq_some_iff.1 h
  refine ⟨map, hmap, ?_⟩
  rw [find?_cons_cons, find?_cons] at hmap
  obtain ⟨found, hfound, hend⟩ := Option.bind_eq_some_iff.1 hmap
  rw [hfound, ← hend, find?_nil]

/-- The map of the variations stays exactly if the variation's own map repeats it. -/
theorem find?_variations_applyVariation_iff (htree : tree.WellFormed)
    (h : applyVariation tree name = .ok result) :
    result.find? ["styles", "variations"] = tree.find? ["styles", "variations"] ↔
      ∀ own map, (variation? tree name).bind (·.member? "variations") = some own →
        tree.find? ["styles", "variations"] = some map → Repeats ["variations"] own map := by
  obtain ⟨variation, styles, hvariation, hmerge, rfl⟩ := applyVariation_eq_ok_iff.1 h
  obtain ⟨map, hmap, hmember⟩ := exists_variations hvariation
  have hwell : variation.WellFormed := wellFormed_of_get? htree hvariation
  have hlaid := overlayMember_variations hwell hmerge
  rw [hmember] at hlaid
  have hown : ∀ own ∈ variation.member? "variations", own.WellFormed := fun own hown ↦
    (fieldsWellFormed_entries hwell).of_get? hown
  rw [find?_variations_set, hmap, eq_of_overlayMember_iff hown hlaid, hvariation]
  simp

/-- A variation that is still there, with the content it had, changes nothing when it is applied
again. -/
theorem applyVariation_again (htree : tree.WellFormed) (h : applyVariation tree name = .ok result)
    (hsame : variation? result name = variation? tree name) :
    applyVariation result name = .ok result := by
  obtain ⟨variation, styles, hvariation, hmerge, rfl⟩ := applyVariation_eq_ok_iff.1 h
  have hwell : variation.WellFormed := wellFormed_of_get? htree hvariation
  have hchild : (tree.set ["styles"] styles).child "styles" = styles := by
    rw [child_set_cons, if_pos rfl, set_nil]
  have hagain : merge styles variation = .ok styles := by
    rw [merge_eq_overlayValue] at hmerge ⊢
    exact overlayValue_self (wellFormed_obj_entries hwell) hmerge
  refine applyVariation_eq_ok_iff.2 ⟨variation, styles, hsame.trans hvariation, ?_, ?_⟩
  · rw [hchild, hagain]
  · simp only [Json.set, entries, Entries.put_put_self]

/-- **What applying a variation keeps.** Everything beside the styles stays, in its place. The map
of the variations stays exactly if the variation has none of its own or one that only repeats it.
While the map stays, every variation has the content it had and can be applied if it could be
before. A variation that has the content it had leaves the tree when it is applied again. -/
theorem applyVariation_keeps (htree : tree.WellFormed)
    (h : applyVariation tree name = .ok result) :
    (Entries.keys result.entries = Entries.keys tree.entries ∧
      ∀ key, key ≠ "styles" → result.member? key = tree.member? key) ∧
    (result.find? ["styles", "variations"] = tree.find? ["styles", "variations"] ↔
      ∀ own map, (variation? tree name).bind (·.member? "variations") = some own →
        tree.find? ["styles", "variations"] = some map → Repeats ["variations"] own map) ∧
    (result.find? ["styles", "variations"] = tree.find? ["styles", "variations"] →
      ∀ other, variation? result other = variation? tree other ∧
        ((∃ applied, applyVariation tree other = .ok applied) →
          ∃ applied, applyVariation result other = .ok applied)) ∧
    (variation? result name = variation? tree name → applyVariation result name = .ok result) := by
  refine ⟨⟨?_, fun key hkey ↦ ?_⟩, find?_variations_applyVariation_iff htree h,
    fun hkept other ↦ ?_, applyVariation_again htree h⟩
  · obtain ⟨variation, styles, hvariation, -, rfl⟩ := applyVariation_eq_ok_iff.1 h
    obtain ⟨map, -, hmember⟩ := exists_variations hvariation
    have hstyles : tree.child "styles" ≠ .null := by
      intro hnull
      rw [hnull] at hmember
      cases hmember
    rw [Json.set, entries, Entries.keys_put, if_pos (mem_keys_of_child_ne_null hstyles)]
  · obtain ⟨variation, styles, -, -, rfl⟩ := applyVariation_eq_ok_iff.1 h
    exact Entries.get?_put_of_ne _ _ hkey
  · have hsame : variation? result other = variation? tree other := by
      rw [variation?_eq_bind, variation?_eq_bind, hkept]
    refine ⟨hsame, ?_⟩
    rintro ⟨applied, happlied⟩
    obtain ⟨variation, styles, hvariation, hmerge, -⟩ := applyVariation_eq_ok_iff.1 happlied
    obtain ⟨made, hmade⟩ := exists_merge hmerge (result.child "styles")
    exact ⟨_, applyVariation_eq_ok_iff.2 ⟨variation, made, hsame.trans hvariation, hmade, rfl⟩⟩

/-- A dark variation, which may have a map of its own, and a light one. -/
def darkAndLight (own : Json) : Json :=
  .obj
    [("dark", .obj [("color", .obj [("text", .str "white")]), ("variations", own)]),
      ("light", .obj [("color", .obj [("text", .str "navy")])])]

/-- Styles with these variations. -/
def treeWithVariations (own : Json) : Json :=
  .obj
    [("title", .str "Ink"),
      ("styles", .obj
        [("color", .obj [("text", .str "black")]), ("variations", darkAndLight own)]),
      ("settings", .obj [])]

/-- The map of the dark variation repeats that there is a light one. -/
theorem applyVariation_keeps_light :
    let tree := treeWithVariations (.obj [("light", .obj [])])
    ∃ result, tree.WellFormed ∧ applyVariation tree "dark" = .ok result ∧
      Entries.keys result.entries = ["title", "styles", "settings"] ∧
      result.find? ["styles", "color", "text"] = some (.str "white") ∧
      variation? result "light" = some (.obj [("color", .obj [("text", .str "navy")])]) ∧
      (∃ applied, applyVariation result "light" = .ok applied) ∧
      applyVariation result "dark" = .ok result := by
  intro tree
  have hwell : tree.WellFormed := by
    simp [tree, treeWithVariations, darkAndLight, Json.WellFormed, Json.FieldsWellFormed]
  obtain ⟨result, h⟩ : ∃ result, applyVariation tree "dark" = .ok result := ⟨_, rfl⟩
  obtain ⟨⟨hkeys, -⟩, hiff, hkept, hagain⟩ := applyVariation_keeps hwell h
  have hrepeats : Repeats ["variations"] (.obj [("light", .obj [])])
      (darkAndLight (.obj [("light", .obj [])])) := by
    have hown : (Json.obj [("light", .obj [])]).WellFormed := by
      simp [Json.WellFormed, Json.FieldsWellFormed]
    have hlaid : overlayValue ["variations"] (some (darkAndLight (.obj [("light", .obj [])])))
        (.obj [("light", .obj [])]) = .ok (darkAndLight (.obj [("light", .obj [])])) := by rfl
    exact repeats_of_overlayValue hown hlaid
  have hmap := hiff.2 fun own map hown hmap ↦ by
    cases hown
    cases hmap
    exact hrepeats
  obtain ⟨hlight, happly⟩ := hkept hmap "light"
  refine ⟨result, hwell, h, hkeys, ?_, hlight, happly ⟨_, rfl⟩, hagain (hkept hmap "dark").1⟩
  cases h
  rfl

/-- Applied, a dark variation with a map of its own changes the light one and itself. -/
theorem applyVariation_changes_variations :
    let tree := treeWithVariations (.obj
      [("dark", .obj [("color", .obj [("text", .str "gray")])]),
        ("light", .obj [("color", .obj [("text", .str "silver")])])])
    ∃ result, tree.WellFormed ∧ applyVariation tree "dark" = .ok result ∧
      result.find? ["styles", "variations"] ≠ tree.find? ["styles", "variations"] ∧
      variation? result "light" ≠ variation? tree "light" ∧
      applyVariation result "dark" ≠ .ok result := by
  intro tree
  have hwell : tree.WellFormed := by
    simp [tree, treeWithVariations, darkAndLight, Json.WellFormed, Json.FieldsWellFormed]
  obtain ⟨result, h⟩ : ∃ result, applyVariation tree "dark" = .ok result := ⟨_, rfl⟩
  have hlight : variation? result "light" ≠ variation? tree "light" := by
    intro heq
    have htext := congrArg (·.bind fun styles ↦ (styles.get? ["color", "text"]).bind text?) heq
    cases h
    have hcolors : some "silver" = some "navy" := htext
    simp at hcolors
  have hdark : applyVariation result "dark" ≠ .ok result := by
    intro hagain
    obtain ⟨_, styles, hvariation, hmerge, hresult⟩ := applyVariation_eq_ok_iff.1 hagain
    have htext := congrArg (fun tree ↦ (tree.get? ["styles", "color", "text"]).bind text?) hresult
    cases h
    cases hvariation
    cases hmerge
    have hcolors : some "white" = some "gray" := htext
    simp at hcolors
  refine ⟨result, hwell, h, fun hkept ↦ hlight ?_, hlight, hdark⟩
  rw [variation?_eq_bind, hkept, ← variation?_eq_bind]

end GlobalStyles.Config
