import GlobalStyles.Proofs.Entries
import GlobalStyles.Proofs.Style.Division

/-!
# Features lose nothing

Whatever features a registry sends to selectors of their own, the declarations of the parts and of
what is left of the styles are the declarations of the styles, each as often as before
(`FeaturePart.perm_declarations_take`).

`FeaturePart.Taken` is the invariant: these parts and what is left hold what the styles did. It is
reflexive and transitive, and one cut gives it, so every loop of the extraction adds its steps up
(`FeaturePart.CutByCut`). What is left stays well formed, without which a removed member could
uncover another one under the same key.
-/

namespace GlobalStyles.FeaturePart

open Json

variable {ctx : StyleContext}

/-- What parts say, one after another. -/
def written (ctx : StyleContext) (parts : List FeaturePart) : List Written :=
  parts.flatMap fun part ↦ ctx.written part.styles false

/-- These parts were taken out of styles and this is left: together they say what the styles do. -/
def Taken (ctx : StyleContext) (styles : Fields) (parts : List FeaturePart) (left : Fields) :
    Prop :=
  (written ctx parts ++ ctx.written (.obj left) false).Perm (ctx.written (.obj styles) false)

theorem Taken.refl (styles : Fields) : Taken ctx styles [] styles :=
  List.Perm.refl _

theorem Taken.trans {styles between left : Fields} {parts more : List FeaturePart}
    (h : Taken ctx styles parts between) (hmore : Taken ctx between more left) :
    Taken ctx styles (parts ++ more) left := by
  rw [Taken, written, List.flatMap_append, List.append_assoc]
  exact (List.Perm.append_left _ hmore).trans h

/-- A cut takes one part. -/
theorem Taken.of_divided {styles left : Fields} {part : FeaturePart}
    (h : Divided (obj styles) part.styles (obj left)) : Taken ctx styles [part] left := by
  rw [Taken, written, List.flatMap_singleton]
  exact ctx.perm_written_of_divided h

/-! ### What is left -/

theorem wellFormed_takeNamed (feature : String) (selectors : Entries String) {members : Fields}
    (h : (obj members).WellFormed) : (obj (takeNamed feature selectors members).2).WellFormed := by
  induction selectors generalizing members with
  | nil => exact h
  | cons entry rest ih =>
    obtain ⟨key, selector⟩ := entry
    rw [takeNamed]
    split
    · exact ih h
    · split
      · exact ih h
      · exact ih (wellFormed_obj_swapRemove h key)

theorem wellFormed_takeMembers (feature : String) {members : Fields} (h : (obj members).WellFormed)
    (selector : FeatureSelector) :
    (obj (takeMembers feature members selector).2.1).WellFormed := by
  cases selector with
  | whole selector => exact h
  | split selectors => exact wellFormed_takeNamed feature selectors h

/-- What a feature leaves of the styles is well formed. -/
theorem wellFormed_takeFeature {styles : Fields} (h : (obj styles).WellFormed) (feature : String)
    (selector : FeatureSelector) : (obj (takeFeature styles feature selector).2).WellFormed := by
  rw [takeFeature]
  split
  · rename_i members hget
    have hleft := wellFormed_takeMembers feature (h.2.of_get? hget) selector
    split
    · exact h
    · split <;> rename_i heq <;> rw [heq] at hleft
      · exact wellFormed_obj_swapRemove h feature
      · exact wellFormed_obj_put h hleft feature
  · exact h

/-- What all features leave of the styles is well formed. -/
theorem wellFormed_takeAll (features : Entries FeatureSelector) {styles : Fields}
    (h : (obj styles).WellFormed) : (obj (takeAll features styles).2).WellFormed := by
  induction features generalizing styles with
  | nil => exact h
  | cons entry rest ih => exact ih (wellFormed_takeFeature h entry.1 entry.2)

theorem take_of_not_isObject (features : Entries FeatureSelector) {styles : Json}
    (h : styles.isObject = false) : take features styles = ([], styles) := by
  cases styles with
  | obj fields => cases h
  | _ => rfl

/-- What features leave of well-formed styles is well formed. -/
theorem wellFormed_take (features : Entries FeatureSelector) {styles : Json}
    (h : styles.WellFormed) : (take features styles).2.WellFormed := by
  cases hobject : styles.isObject
  · rw [take_of_not_isObject features hobject]
    exact h
  · obtain ⟨fields, rfl⟩ := exists_obj hobject
    exact wellFormed_takeAll features h

/-- What is left of a feature keeps its place, so no key is new. -/
theorem keys_takeFeature_subset (styles : Fields) (feature : String) (selector : FeatureSelector) :
    Entries.keys (takeFeature styles feature selector).2 ⊆ Entries.keys styles := by
  rw [takeFeature]
  split
  · rename_i members hget
    split
    · exact List.Subset.refl _
    · split
      · exact List.map_subset _ (Entries.swapRemove_subset styles feature)
      · have hmem : feature ∈ Entries.keys styles :=
          (Entries.mem_keys_iff styles feature).2 (Option.isSome_of_eq_some hget)
        rw [Entries.keys_put, if_pos hmem]
        exact List.Subset.refl _
  · exact List.Subset.refl _

theorem keys_takeAll_subset (features : Entries FeatureSelector) (styles : Fields) :
    Entries.keys (takeAll features styles).2 ⊆ Entries.keys styles := by
  induction features generalizing styles with
  | nil => exact List.Subset.refl _
  | cons entry rest ih =>
    exact List.Subset.trans (ih (takeFeature styles entry.1 entry.2).2)
      (keys_takeFeature_subset styles entry.1 entry.2)

/-- What is left has no member that was not there before. -/
theorem keys_take_subset (features : Entries FeatureSelector) (styles : Json) :
    Entries.keys (take features styles).2.entries ⊆ Entries.keys styles.entries := by
  cases hobject : styles.isObject
  · rw [take_of_not_isObject features hobject]
    exact List.Subset.refl _
  · obtain ⟨fields, rfl⟩ := exists_obj hobject
    exact keys_takeAll_subset features fields

/-! ### Steps -/

/-- What holds of styles, the parts taken out of them and what is left, if it holds of nothing taken
out, of one cut, and of more taken out of what is left. Single members are cut off the categories
of which `divides` holds. -/
structure CutByCut (divides : String → Prop)
    (R : Fields → List FeaturePart → Fields → Prop) : Prop where
  refl (styles : Fields) : R styles [] styles
  trans {styles between left : Fields} {parts more : List FeaturePart} :
    R styles parts between → R between more left → R styles (parts ++ more) left
  /-- A whole category is one part. -/
  category {styles : Fields} (h : (Entries.keys styles).Nodup) (selector feature : String)
    (value : Json) :
    R (Entries.put styles feature value) [ofFeature selector feature value]
      (Entries.swapRemove styles feature)
  /-- A member of a category is one part. -/
  member (styles : Fields) {feature : String} (hfeature : divides feature) {members : Fields}
    (h : (Entries.keys members).Nodup) {key : String} {value : Json}
    (hget : Entries.get? members key = some value) (selector : String) :
    R (Entries.put styles feature (obj members))
      [ofFeature selector feature (obj [(key, value)])]
      (Entries.put styles feature (obj (Entries.swapRemove members key)))

namespace CutByCut

variable {divides : String → Prop} {R : Fields → List FeaturePart → Fields → Prop}
  (hR : CutByCut divides R)
include hR

/-- Named parts are cut off one by one. -/
theorem of_takeNamed (styles : Fields) {feature : String} (hfeature : divides feature)
    (selectors : Entries String) {members : Fields} (h : (obj members).WellFormed) :
    R (Entries.put styles feature (obj members)) (takeNamed feature selectors members).1
      (Entries.put styles feature (obj (takeNamed feature selectors members).2)) := by
  induction selectors generalizing members with
  | nil => exact hR.refl _
  | cons entry rest ih =>
    obtain ⟨key, selector⟩ := entry
    rw [takeNamed]
    split
    · -- `root` stands for what the other selectors leave, and is taken after them
      exact ih h
    · split
      · exact ih h
      · rename_i value hget
        exact hR.trans (hR.member styles hfeature h.1 hget selector)
          (ih (wellFormed_obj_swapRemove h key))

/-- The parts that a selector takes of a feature, whatever happens to its other members. -/
theorem of_takeMembers {styles : Fields} (h : (obj styles).WellFormed) {feature : String}
    {members : Fields} (hget : Entries.get? styles feature = some (obj members))
    {selector : FeatureSelector} (hselector : ∀ selectors, selector = .split selectors →
      divides feature) :
    R styles (takeMembers feature members selector).1
      (Entries.put styles feature (obj (takeMembers feature members selector).2.1)) := by
  have hsame : Entries.put styles feature (obj members) = styles := Entries.put_of_get? styles hget
  cases selector with
  | whole selector =>
    rw [takeMembers, hsame]
    exact hR.refl styles
  | split selectors =>
    have htaken := hR.of_takeNamed styles (hselector selectors rfl) selectors (h.2.of_get? hget)
    rwa [hsame] at htaken

/-- One feature is taken out, or nothing happens. -/
theorem of_takeFeature {styles : Fields} (h : (obj styles).WellFormed) {feature : String}
    {selector : FeatureSelector} (hselector : ∀ selectors, selector = .split selectors →
      divides feature) :
    R styles (takeFeature styles feature selector).1
      (takeFeature styles feature selector).2 := by
  rw [takeFeature]
  split
  · rename_i members hget
    split
    · exact hR.refl styles
    · have hmembers := hR.of_takeMembers h hget hselector
      -- with a selector for the rest, one more cut takes the whole category
      split <;> rename_i parts left rest heq <;> rw [heq] at hmembers
      · exact hR.trans hmembers (hR.category h.1 rest feature (obj left))
      · exact hmembers
  · exact hR.refl styles

/-- All features are taken out, one after another. -/
theorem of_takeAll {features : Entries FeatureSelector}
    (hfeatures : ∀ feature selectors, (feature, .split selectors) ∈ features → divides feature)
    {styles : Fields} (h : (obj styles).WellFormed) :
    R styles (takeAll features styles).1 (takeAll features styles).2 := by
  induction features generalizing styles with
  | nil => exact hR.refl styles
  | cons entry rest ih =>
    obtain ⟨feature, selector⟩ := entry
    have hfirst : R styles (takeFeature styles feature selector).1
        (takeFeature styles feature selector).2 := by
      refine hR.of_takeFeature h ?_
      rintro selectors rfl
      exact hfeatures feature selectors List.mem_cons_self
    have hrest := ih (fun feature selectors hmem ↦
        hfeatures feature selectors (List.mem_cons_of_mem _ hmem))
      (wellFormed_takeFeature h feature selector)
    exact hR.trans hfirst hrest

end CutByCut

/-- No background is cut through. -/
theorem cutByCut_taken (ctx : StyleContext) : CutByCut (· ≠ "background") (Taken ctx) where
  refl := .refl
  trans := .trans
  category h _ feature value := .of_divided (divided_category h feature value)
  member styles _ hfeature _ h _ _ hget _ := .of_divided (divided_member styles hfeature h hget)

/-! ### Groups -/

/-- The groups of parts are their declarations, gathered by selector. -/
theorem groups_eq_gather (ctx : StyleContext) (parts : List FeaturePart) :
    groups ctx parts = Entries.gather
      (parts.map fun part ↦ (part.selector, ctx.declarations part.styles false)) := by
  rw [Entries.gather, List.foldl_map]
  rfl

/-- Gathering by selector keeps every declaration of every part, each once. -/
theorem perm_flatMap_groups (ctx : StyleContext) (parts : List FeaturePart) :
    ((groups ctx parts).flatMap Prod.snd).Perm ((written ctx parts).map ctx.declare) := by
  rw [groups_eq_gather, written, List.map_flatMap]
  have hgathered := Entries.perm_flatMap_gather
    (parts.map fun part ↦ (part.selector, ctx.declarations part.styles false))
  rwa [List.flatMap_map] at hgathered

/-- Every selector has one group, and every group has a declaration. -/
theorem groups_spec (ctx : StyleContext) (parts : List FeaturePart) :
    (Entries.keys (groups ctx parts)).Nodup ∧ ∀ group ∈ groups ctx parts, group.2 ≠ [] := by
  rw [groups_eq_gather]
  exact Entries.gather_spec _

/-- A group has the selector of a part, and declarations of parts. -/
theorem of_mem_groups {ctx : StyleContext} {parts : List FeaturePart}
    {group : String × List Declaration} (h : group ∈ groups ctx parts) :
    (∃ part ∈ parts, part.selector = group.1) ∧
      ∀ declaration ∈ group.2, ∃ part ∈ parts,
        declaration ∈ ctx.declarations part.styles false := by
  rw [groups_eq_gather] at h
  constructor
  · have hkey := Entries.keys_gather_subset _ (List.mem_map_of_mem (f := Prod.fst) h)
    rw [List.map_map, List.mem_map] at hkey
    exact hkey
  · intro declaration hdeclaration
    have hgathered := List.mem_flatMap.2 ⟨group, h, hdeclaration⟩
    have hmem := (Entries.perm_flatMap_gather _).subset hgathered
    rw [List.flatMap_map, List.mem_flatMap] at hmem
    exact hmem

/-- The problems met in parts are those of the texts they say. -/
theorem diagnostics_eq (ctx : StyleContext) (parts : List FeaturePart) :
    diagnostics ctx parts = (written ctx parts).flatMap fun entry ↦ ctx.reports entry.text := by
  rw [diagnostics, written, List.flatMap_assoc]
  rfl

/-- Parts that features take and what is left hold what the styles do. -/
theorem perm_written_take {styles : Json} (h : styles.WellFormed)
    {features : Entries FeatureSelector}
    (hfeatures : ∀ selectors, ("background", .split selectors) ∉ features) (ctx : StyleContext) :
    (written ctx (take features styles).1 ++ ctx.written (take features styles).2 false).Perm
      (ctx.written styles false) := by
  cases hobject : styles.isObject
  · rw [take_of_not_isObject features hobject, written, List.flatMap_nil, List.nil_append]
  · obtain ⟨fields, rfl⟩ := exists_obj hobject
    refine (cutByCut_taken ctx).of_takeAll ?_ h
    rintro _ selectors hmem rfl
    exact hfeatures selectors hmem

/-- **Taking features apart neither loses nor duplicates a declaration.** For well-formed styles,
any features of which none splits the background, and any context: what the groups hold, followed by
what is left, is a permutation of what the styles hold, the problems reported are the same, each as
often, and the groups have different selectors and at least one declaration each. -/
theorem perm_declarations_take {styles : Json} (h : styles.WellFormed)
    {features : Entries FeatureSelector}
    (hfeatures : ∀ selectors, ("background", .split selectors) ∉ features) (ctx : StyleContext) :
    ((groups ctx (take features styles).1).flatMap Prod.snd ++
        ctx.declarations (take features styles).2 false).Perm (ctx.declarations styles false) ∧
      (diagnostics ctx (take features styles).1 ++
        ctx.diagnostics (take features styles).2 false).Perm (ctx.diagnostics styles false) ∧
      (Entries.keys (groups ctx (take features styles).1)).Nodup ∧
      ∀ group ∈ groups ctx (take features styles).1, group.2 ≠ [] := by
  have hwritten := perm_written_take h hfeatures ctx
  refine ⟨?_, ?_, groups_spec ctx _⟩
  · have hdeclared := hwritten.map ctx.declare
    rw [List.map_append] at hdeclared
    exact ((perm_flatMap_groups ctx _).append_right _).trans hdeclared
  · have hreported := hwritten.flatMap_right fun entry ↦ ctx.reports entry.text
    rw [List.flatMap_append, ← diagnostics_eq] at hreported
    exact hreported

/-- Styles of a card. -/
def cardStyles : Json :=
  .obj
    [("border", .obj [("color", .str "red"), ("style", .str "solid")]),
      ("color", .obj [("text", .str "navy")]),
      ("typography", .obj [("lineHeight", .str "1.5")]),
      ("background", .obj [("backgroundImage", .str "none")])]

/-- The colour of the border and the text go to the links of a card. Of the spacing there is
nothing to take. -/
def cardFeatures : Entries FeatureSelector :=
  [("spacing", .whole ".card"), ("border", .split [("root", ".card"), ("color", ".card a")]),
    ("typography", .whole ".card a")]

/-- Six declarations of a card in two groups and what is left. -/
theorem perm_declarations_take_card :
    cardStyles.WellFormed ∧ (∀ selectors, ("background", .split selectors) ∉ cardFeatures) ∧
      Entries.keys (groups (.standalone "app") (take cardFeatures cardStyles).1) =
        [".card a", ".card"] ∧
      ((groups (.standalone "app") (take cardFeatures cardStyles).1).flatMap Prod.snd ++
        (StyleContext.standalone "app").declarations (take cardFeatures cardStyles).2 false).Perm
        [⟨"border-color", "red"⟩, ⟨"border-style", "solid"⟩, ⟨"color", "navy"⟩,
          ⟨"line-height", "1.5"⟩, ⟨"background-image", "none"⟩, ⟨"background-size", "cover"⟩] := by
  have hwell : cardStyles.WellFormed := by
    simp [cardStyles, Json.WellFormed, Json.FieldsWellFormed]
  have hfeatures : ∀ selectors, ("background", .split selectors) ∉ cardFeatures := by
    simp [cardFeatures]
  have hdeclared : (StyleContext.standalone "app").declarations cardStyles false =
      [⟨"border-color", "red"⟩, ⟨"border-style", "solid"⟩, ⟨"color", "navy"⟩,
        ⟨"line-height", "1.5"⟩, ⟨"background-image", "none"⟩, ⟨"background-size", "cover"⟩] := by
    rfl
  refine ⟨hwell, hfeatures, by rfl, ?_⟩
  rw [← hdeclared]
  exact (perm_declarations_take hwell hfeatures (.standalone "app")).1

end GlobalStyles.FeaturePart
