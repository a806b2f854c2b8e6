import GlobalStyles.Layout.Gap
import GlobalStyles.Preset.CustomProperties
import GlobalStyles.Proofs.Style.Flat
import GlobalStyles.Proofs.Style.Norm
import GlobalStyles.Proofs.Style.Properties
import GlobalStyles.Proofs.Typography.Braceless

/-!
# Values and declarations without braces

Where no string and no key of a tree has a brace, no text that is made of its values has one: not
the `var()` of a reference, not a gap, and not a font size. The properties of styles are those of
two tables, so all declarations of a subtree are flat (`StyleContext.isFlat_of_mem_declarations`).
-/

namespace GlobalStyles

/-- Nothing that stands in a value has a brace, no string and no key. -/
def Json.Norm.braceless : Json.Norm where
  text := Braceless
  entry key _ := Braceless key

open Json (Norm)

/-- The defaults of a background have no brace. -/
theorem Norm.admitsDefaults_braceless : Norm.braceless.AdmitsDefaults where
  cover := (by decide : Braceless "cover")
  centred := (by decide : Braceless "50% 50%")
  address url hurl := ((by decide : Braceless "url( '").append hurl).append (by decide)
  background _ := (by decide : Braceless "background")
  backgroundSize _ := (by decide : Braceless "backgroundSize")
  backgroundPosition _ := (by decide : Braceless "backgroundPosition")

/-! ### Values -/

namespace Json.Meets

variable {tree : Json} (h : tree.Meets .braceless)
include h

/-- The text of a value without braces has none. -/
theorem css? {text : String} (hcss : tree.css? = some text) : Braceless text :=
  .css? hcss fun _ ↦ h.text

theorem css?_of_get? {path : List String} {text : String}
    (hcss : (tree.get? path).bind Json.css? = some text) : Braceless text := by
  obtain ⟨value, hget, hcss⟩ := Option.bind_eq_some_iff.1 hcss
  exact (h.of_get? hget).css? hcss

end Json.Meets

namespace Braceless

variable {space : String} (hspace : Braceless space)
include hspace

/-- A namespace is all that a name takes as it is. -/
theorem propertyName (segments : List String) :
    Braceless (Reference.propertyName space segments) := by
  rw [Reference.propertyName]
  refine List.foldlRecOn segments _ ((by decide : Braceless "--").append hspace) ?_
  intro name hname segment _
  exact (hname.append (by decide)).append (.kebabCase segment)

/-- A reference without braces is compiled to a text without braces, in a namespace without them. -/
theorem compile {value : String} (hvalue : Braceless value) :
    Braceless (Reference.compile value space) := by
  rw [Reference.compile]
  split
  · exact ((by decide : Braceless "var(").append (hspace.propertyName _)).append (by decide)
  · exact hvalue

/-- The gap of one direction, of a value without braces. -/
theorem gapSide? {value : Json} (h : value.Meets .braceless) {key text : String}
    (hside : GapSupport.side? value space key = some text) : Braceless text := by
  obtain ⟨raw, hraw, rfl⟩ := Option.map_eq_some_iff.1 hside
  exact hspace.compile (h.css?_of_get? hraw)

theorem gap? {value : Json} (h : value.Meets .braceless) {text : String}
    (hgap : GapSupport.css? value space = some text) : Braceless text := by
  unfold GapSupport.css? at hgap
  split at hgap
  · split at hgap <;> rename_i hrow hcolumn
    · cases hgap
      have hrow := hspace.gapSide? h hrow
      have hcolumn := hspace.gapSide? h hcolumn
      split
      · exact hrow
      · exact (hrow.append (by decide)).append hcolumn
    · cases hgap
      exact hspace.gapSide? h hrow
    · exact hspace.gapSide? h hgap
  · obtain ⟨raw, hraw, rfl⟩ := Option.map_eq_some_iff.1 hgap
    exact hspace.compile (h.css? (Option.filter_eq_some_iff.1 hraw).1)

end Braceless

/-! ### Properties -/

theorem StylePlace.braceless_property {place : StylePlace} (hplace : place ∈ all) {styles : Json}
    {rule : StyleRule} (h : rule ∈ place.rules styles) : Braceless rule.property := by
  have htable : ∀ place ∈ all, ∀ property ∈ place.form.properties, Braceless property := by
    decide +kernel
  exact htable place hplace _ ((place.map_property_sublist styles).subset (List.mem_map_of_mem h))

namespace StyleProperty

theorem braceless_name {property : StyleProperty} (hcss : Braceless property.cssName)
    {space : String} (hspace : Braceless space) : Braceless (property.name space) := by
  rw [name]
  split <;> rename_i hname
  · refine (((by decide : Braceless "--").append hspace).append (by decide)).append ?_
    refine .ofList fun c hc ↦ hcss c ?_
    rw [hname]
    exact List.mem_cons_of_mem _ (List.mem_cons_of_mem _ hc)
  · exact hcss

/-- The names of what is read straight from the inventory have no brace. -/
theorem braceless_property {property : StyleProperty} (hproperty : property ∈ all)
    {styles : Json} {space : String} (hspace : Braceless space) {paddingAlign : Bool}
    {rule : StyleRule} (h : rule ∈ property.rules styles space paddingAlign) :
    Braceless rule.property := by
  have htable : ∀ property ∈ all,
      Braceless property.cssName ∧ ∀ side ∈ property.sides, Braceless side.1 := by
    decide +kernel
  obtain ⟨hcss, hsides⟩ := htable property hproperty
  have hname := braceless_name hcss hspace
  rw [rules] at h
  rcases hget : styles.get? property.path with _ | value
  · rw [hget] at h
    cases h
  · rw [hget] at h
    simp only at h
    split at h
    · cases h
    · split at h
      · obtain ⟨side, hside, h⟩ := List.mem_filterMap.1 h
        obtain ⟨member, -, rfl⟩ := Option.map_eq_some_iff.1 h
        exact (hname.append (by decide)).append (hsides side hside)
      · split at h
        · rw [List.mem_singleton.1 h]
          exact hname
        · cases h

end StyleProperty

/-! ### Declarations -/

namespace StyleContext

/-- No brace stands in what is known beyond a subtree. -/
structure IsBraceless (ctx : StyleContext) : Prop where
  tree : ∀ tree ∈ ctx.tree, tree.Meets .braceless
  space : Braceless ctx.space

variable {ctx : StyleContext} (h : ctx.IsBraceless)
include h

/-- What a value without braces points at is a text of the tree, so it has none either. -/
theorem IsBraceless.text? {value : Json} (hvalue : value.Meets .braceless) {text : String}
    (htext : ctx.text? value = some text) : Braceless text := by
  obtain ⟨target, htarget, hcss⟩ := Option.bind_eq_some_iff.1 htext
  rw [target?] at htarget
  -- the value itself, what stands at the place it points at, or nothing
  split at htarget
  · cases htarget
    exact hvalue.css? hcss
  · obtain ⟨tree, htree, htarget⟩ := Option.bind_eq_some_iff.1 htarget
    obtain ⟨place, hplace, htarget⟩ := Option.bind_eq_some_iff.1 htarget
    split at htarget
    · cases htarget
    · cases htarget
      exact ((h.tree tree htree).of_get? hplace).css? hcss
  · cases htarget

/-- No property that a subtree declares has a brace. -/
theorem IsBraceless.property_of_mem_rules {styles : Json} {isRoot : Bool} {rule : StyleRule}
    (hrule : rule ∈ ctx.rules styles isRoot) : Braceless rule.property := by
  rw [rules, List.mem_append, StyleRule.extract_eq] at hrule
  -- only the first table has names with the namespace in them
  rcases hrule with hrule | hrule
  · obtain ⟨property, hproperty, hrule⟩ := List.mem_flatMap.1 hrule
    exact StyleProperty.braceless_property (List.mem_filter.1 hproperty).1 h.space hrule
  · obtain ⟨place, hplace, hrule⟩ := List.mem_flatMap.1 (List.mem_filter.1 hrule).1
    exact StylePlace.braceless_property hplace hrule

/-- What is declared of a text without braces has none: the text is compiled, and as a font size
perhaps made fluid, without bounds of its own. -/
theorem IsBraceless.isFlat_declare {written : Written} (hproperty : Braceless written.property)
    (htext : Braceless written.text) : (ctx.declare written).IsFlat := by
  have hcss := h.space.compile htext
  refine ⟨hproperty, ?_⟩
  simp only [declare]
  split
  · generalize hsize : fontSizeCss? _ _ _ = size
    rcases size with - | size
    · exact hcss
    · refine braceless_fontSizeCss? hsize (fun raw hraw ↦ ?_) fun key bound hbound ↦ ?_
      · cases hraw
        exact hcss
      · cases hbound
  · exact hcss

/-- **Every declaration of a subtree without braces is flat.** -/
theorem IsBraceless.isFlat_of_mem_declarations {styles : Json} (hstyles : styles.Meets .braceless)
    {isRoot : Bool} {declaration : Declaration}
    (hmem : declaration ∈ ctx.declarations styles isRoot) : declaration.IsFlat := by
  obtain ⟨written, hwritten, rfl⟩ := List.mem_map.1 hmem
  obtain ⟨rule, hrule, hsome⟩ := List.mem_filterMap.1 hwritten
  obtain ⟨text, htext, rfl⟩ := Option.map_eq_some_iff.1 hsome
  have hvalue := allMeet_rules Norm.admitsDefaults_braceless hstyles ctx isRoot rule hrule
  exact h.isFlat_declare (h.property_of_mem_rules hrule) (h.text? hvalue htext)

end StyleContext

end GlobalStyles
