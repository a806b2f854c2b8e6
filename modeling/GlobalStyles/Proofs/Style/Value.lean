import GlobalStyles.Proofs.Style.Properties
import Mathlib.Data.List.Nodup

/-!
# The value of a property

`StyleRule.table` gives the path of each property. Since no property is said twice, this can be
turned around: what is declared under a property is the text of what stands at its path, once the
defaults of a background are filled in, and there is no other declaration of it
(`StyleContext.filter_property_declarations`).

Four properties are left out, as their values come in more than one form: a shorthand gives way to
its sides, and a background image to its address.
-/

namespace GlobalStyles

/-- While no two members of a list have the same key, choosing a key chooses one member. -/
theorem filter_eq_singleton {α β : Type} [DecidableEq β] {f : α → β} {l : List α}
    (h : (l.map f).Nodup) {x : α} (hmem : x ∈ l) : l.filter (f · = f x) = [x] := by
  obtain ⟨before, after, rfl⟩ := List.append_of_mem hmem
  rw [List.map_append, List.map_cons, List.nodup_middle, List.nodup_cons, ← List.map_append] at h
  have hnone : ∀ l, l ⊆ before ++ after → l.filter (f · = f x) = [] := fun l hl ↦
    List.filter_eq_nil_iff.2 fun y hy heq ↦
      h.1 (of_decide_eq_true heq ▸ List.mem_map_of_mem (hl hy))
  rw [List.filter_append, List.filter_cons_of_pos (by simp),
    hnone before (List.subset_append_left _ _), hnone after (List.subset_append_right _ _),
    List.nil_append]

/-! ### Declarations and rules -/

namespace StyleContext

variable (ctx : StyleContext)

/-- A `null` has no text, so whether it counts as a value does not matter. -/
theorem bind_text?_get? (tree : Json) (path : List String) :
    (tree.get? path).bind ctx.text? = ctx.text? (tree.down path) := by
  rw [Json.get?_eq_down]
  cases tree.down path <;> rfl

/-- But for font sizes, a declaration is its text, compiled. -/
theorem declare_of_ne {property : String} (h : property ≠ "font-size") (text : String) :
    ctx.declare ⟨property, text⟩ = ⟨property, Reference.compile text ctx.space⟩ := by
  rw [declare]
  exact congrArg (Declaration.mk property) (if_neg h)

/-- A declaration is what a rule with a text says. -/
theorem mem_declarations_iff_exists_rule (styles : Json) (isRoot : Bool)
    (declaration : Declaration) :
    declaration ∈ ctx.declarations styles isRoot ↔
      ∃ rule ∈ ctx.rules styles isRoot, ∃ text, ctx.text? rule.value = some text ∧
        ctx.declare ⟨rule.property, text⟩ = declaration := by
  simp only [declarations, written, List.mem_map, List.mem_filterMap, Option.map_eq_some_iff]
  constructor
  · rintro ⟨_, ⟨rule, hrule, text, htext, rfl⟩, hdeclared⟩
    exact ⟨rule, hrule, text, htext, hdeclared⟩
  · rintro ⟨rule, hrule, text, htext, hdeclared⟩
    exact ⟨_, ⟨rule, hrule, text, htext, rfl⟩, hdeclared⟩

/-- Declarations can be chosen by the properties of their rules. -/
theorem filter_declarations (styles : Json) (isRoot : Bool) (p : String → Bool) :
    (ctx.declarations styles isRoot).filter (p ·.property) =
      (ctx.texts ((ctx.rules styles isRoot).filter (p ·.property))).map ctx.declare := by
  have htexts (rules : List StyleRule) :
      (ctx.texts rules).filter (p ·.property) = ctx.texts (rules.filter (p ·.property)) := by
    rw [texts, texts, List.filter_filterMap, List.filterMap_filter]
    refine List.filterMap_congr fun rule _ ↦ ?_
    rcases ctx.text? rule.value with _ | text
    · exact (ite_self none).symm
    · exact Option.filter_some
  rw [declarations, List.filter_map, ← htexts]
  rfl

end StyleContext

/-! ### The table, turned around -/

/-- The properties of a form whose value may come in another form. -/
def StyleForm.manyFormed : StyleForm → List String
  | single _ => []
  | sided property _ => [property]
  | image => ["background-image"]

/-- Shorthands, and the background image. -/
def StyleRule.manyFormed : List String :=
  StylePlace.all.flatMap (·.form.manyFormed)

/-- What stands at the path of a property is said of it. -/
theorem StylePlace.mem_rules {place : StylePlace} {property : String} {path : List String}
    (h : (property, path) ∈ place.propertyPaths) (hform : property ∉ place.form.manyFormed)
    {styles value : Json} (hvalue : styles.get? path = some value) :
    ⟨property, value⟩ ∈ place.rules styles := by
  obtain ⟨above, single | ⟨shorthand, sides⟩ | _⟩ := place
  · obtain ⟨rfl, rfl⟩ := Prod.mk.inj (List.mem_singleton.1 h)
    rw [rules_single, StyleRule.at?, hvalue]
    exact List.mem_singleton_self _
  · rcases List.mem_cons.1 h with heq | hmem
    · exact absurd (List.mem_singleton.2 (Prod.mk.inj heq).1) hform
    · obtain ⟨side, hside, heq⟩ := List.mem_map.1 hmem
      obtain ⟨rfl, rfl⟩ := Prod.mk.inj heq
      rw [Json.get?_append] at hvalue
      obtain ⟨box, hbox, hinner⟩ := Option.bind_eq_some_iff.1 hvalue
      have hobject : box.isObject = true := by
        by_contra hno
        rw [Json.get?_cons, Json.child_of_not_isObject (by simpa using hno),
          Json.get?_null] at hinner
        cases hinner
      rw [rules, hbox, Option.map_some, Option.getD_some, StyleForm.rules, if_pos hobject]
      refine List.mem_flatMap.2 ⟨side, hside, ?_⟩
      rw [StyleRule.at?, hinner]
      exact List.mem_singleton_self _
  · exact absurd (List.mem_singleton.2 (Prod.mk.inj (List.mem_singleton.1 h)).1) hform

section

variable {property : String} {path : List String} (h : (property, path) ∈ StyleRule.table)
  (hform : property ∉ StyleRule.manyFormed)
include h hform

/-- **A property is extracted exactly with the value at its path.** -/
theorem StyleRule.mem_extract_iff {styles value : Json} :
    ⟨property, value⟩ ∈ extract styles ↔ styles.get? path = some value := by
  constructor
  · intro hmem
    obtain ⟨other, hother, hvalue⟩ := exists_path_of_mem_extract hmem
    have hsame : (property, other) = (property, path) :=
      List.inj_on_of_nodup_map nodup_table hother h rfl
    have himage : property ≠ "background-image" := by
      rintro rfl
      exact hform (by decide)
    rw [valueAt?, if_neg himage, (Prod.mk.inj hsame).2] at hvalue
    exact hvalue
  · intro hvalue
    rw [← StylePlace.flatMap_propertyPaths_all] at h
    obtain ⟨place, hplace, hmem⟩ := List.mem_flatMap.1 h
    rw [extract_eq]
    exact List.mem_flatMap.2 ⟨place, hplace, StylePlace.mem_rules hmem
      (fun hmany ↦ hform (List.mem_flatMap.2 ⟨place, hplace, hmany⟩)) hvalue⟩

namespace StyleContext

variable {ctx : StyleContext} {isRoot : Bool}
  (hlayout : ∀ value, ctx.isLeftToLayout isRoot ⟨property, value⟩ = false)
include hlayout

/-- Nothing but the extraction gives a property of the table. -/
theorem mem_rules_iff {styles value : Json} :
    ⟨property, value⟩ ∈ ctx.rules styles isRoot ↔
      (withBackgroundDefaults styles isRoot).get? path = some value := by
  have hdirect : ⟨property, value⟩ ∉ (StyleProperty.all.filter (·.isDirect isRoot)).flatMap
      (·.rules styles ctx.space ctx.paddingAlign) := by
    intro hmem
    have hname := (ctx.map_property_direct_sublist styles isRoot).subset
      (List.mem_map_of_mem (f := StyleRule.property) hmem)
    have hdisjoint := (List.nodup_append.1 (nodup_properties ctx.space)).2.2
    exact hdisjoint _ hname _ (List.mem_map_of_mem (f := Prod.fst) h) rfl
  rw [rules, List.mem_append, or_iff_right hdirect, List.mem_filter, hlayout, Bool.not_false,
    and_iff_left rfl, StyleRule.mem_extract_iff h hform]

theorem mem_written_iff {styles : Json} {text : String} :
    ⟨property, text⟩ ∈ ctx.written styles isRoot ↔
      ((withBackgroundDefaults styles isRoot).get? path).bind ctx.text? = some text := by
  rw [written, List.mem_filterMap, Option.bind_eq_some_iff]
  constructor
  · rintro ⟨⟨_, value⟩, hmem, hsome⟩
    obtain ⟨_, htext, heq⟩ := Option.map_eq_some_iff.1 hsome
    cases heq
    exact ⟨value, (mem_rules_iff h hform hlayout).1 hmem, htext⟩
  · rintro ⟨value, hvalue, htext⟩
    exact ⟨_, (mem_rules_iff h hform hlayout).2 hvalue, by rw [htext]; rfl⟩

/-- **What is declared under a property is the text at its path**, and it is declared once. -/
theorem filter_property_declarations (styles : Json) :
    (ctx.declarations styles isRoot).filter (·.property = property) =
      ((((withBackgroundDefaults styles isRoot).get? path).bind ctx.text?).map
        fun text ↦ ctx.declare ⟨property, text⟩).toList := by
  have hmem (text : String) : ⟨property, text⟩ ∈ ctx.written styles isRoot ↔ _ :=
    mem_written_iff h hform hlayout
  rcases htext : ((withBackgroundDefaults styles isRoot).get? path).bind ctx.text? with _ | text
  · refine List.filter_eq_nil_iff.2 fun declaration hdeclared heq ↦ ?_
    obtain ⟨⟨_, text⟩, hwritten, rfl⟩ := List.mem_map.1 hdeclared
    obtain rfl : _ = property := of_decide_eq_true heq
    rw [(hmem text).1 hwritten] at htext
    cases htext
  · have hnodup := (ctx.map_property_declarations_sublist styles isRoot).nodup
      (nodup_properties ctx.space)
    exact filter_eq_singleton hnodup (List.mem_map_of_mem ((hmem text).2 htext))

theorem mem_declarations_iff {styles : Json} {value : String} :
    ⟨property, value⟩ ∈ ctx.declarations styles isRoot ↔
      (((withBackgroundDefaults styles isRoot).get? path).bind ctx.text?).map
        (fun text ↦ ctx.declare ⟨property, text⟩) = some ⟨property, value⟩ := by
  rw [← Option.mem_toList, ← filter_property_declarations h hform hlayout,
    List.mem_filter, and_iff_left (decide_eq_true rfl)]

omit hlayout in
/-- Away from the root nothing is left to the layout. -/
theorem filter_property_declarations_below (ctx : StyleContext) (styles : Json) :
    (ctx.declarations styles false).filter (·.property = property) =
      ((((withBackgroundDefaults styles false).get? path).bind ctx.text?).map
        fun text ↦ ctx.declare ⟨property, text⟩).toList :=
  filter_property_declarations h hform (fun _ ↦ rfl) styles

end StyleContext

end

end GlobalStyles
