import GlobalStyles.Proofs.Style.Value

/-!
# The padding of the root

With alignments that are aware of it, the padding of the root goes into custom properties, one for
each side, and the rules of the layout read all four. Without them it is declared as it is. The two
ways are meant to differ in the names only. They do, except that the custom properties leave out
what is not truthy: a side of zero is declared as it is, and there is no custom property of it
(`StyleContext.root_padding_agrees_iff`).
-/

namespace GlobalStyles

open Json

/-- The custom property of a side of the root's padding. -/
def sideVariable (space side : String) : String :=
  "--" ++ space ++ "--style--root--padding-" ++ side

/-- Whether a property is about padding, as it is or that of the root. -/
def isPaddingName (space property : String) : Bool :=
  "padding".toList.isPrefixOf property.toList ||
    ("--" ++ space ++ "--style--root--padding-").toList.isPrefixOf property.toList

theorem sideVariable_inj {space side other : String} :
    sideVariable space side = sideVariable space other ↔ side = other := by
  rw [sideVariable, sideVariable, String.append_right_inj]

theorem isPaddingName_sideVariable (space side : String) :
    isPaddingName space (sideVariable space side) = true := by
  rw [isPaddingName, sideVariable, Bool.or_eq_true, List.isPrefixOf_iff_prefix,
    List.isPrefixOf_iff_prefix]
  right
  rw [String.toList_append (t := side)]
  exact List.prefix_append _ _

theorem sideVariable_ne {space side property : String}
    (h : property.toList.take 2 ≠ ['-', '-']) : sideVariable space side ≠ property := by
  rintro rfl
  exact h (by simp [sideVariable])

/-- The sides of the padding stand in the table, and are not treated as a padding, a margin or a
font size is. -/
theorem StyleRule.padding_mem_table : ∀ side ∈ sides,
    ("padding-" ++ side, ["spacing", "padding", side]) ∈ table ∧
      "padding-" ++ side ∉ manyFormed ∧ "padding-" ++ side ≠ "padding" ∧
      "padding-" ++ side ≠ "margin" ∧ "padding-" ++ side ≠ "font-size" := by
  decide +kernel

/-- The padding is declared for its four sides only. -/
theorem StyleContext.mem_sides_of_mem_properties {space side : String}
    (h : "padding-" ++ side ∈ properties space) : side ∈ StyleRule.sides := by
  have htable : ∀ name ∈ "filter" :: StyleRule.table.map Prod.fst,
      "padding-".toList <+: name.toList → name ∈ StyleRule.sides.map ("padding-" ++ ·) := by
    decide +kernel
  have hprefix : "padding-".toList <+: ("padding-" ++ side).toList := by
    rw [String.toList_append]
    exact List.prefix_append _ _
  have hcustom : "padding-" ++ side ∉ ["", "-top", "-right", "-bottom", "-left"].map
      fun side ↦ "--" ++ space ++ "--style--root--padding" ++ side := by
    intro hmem
    obtain ⟨_, -, heq⟩ := List.mem_map.1 hmem
    have hhead := congrArg (·.toList.head?) heq
    simp at hhead
  rw [properties, List.cons_append, List.mem_cons, List.mem_append, or_iff_right hcustom,
    ← List.mem_cons] at h
  obtain ⟨found, hfound, heq⟩ := List.mem_map.1 (htable _ h hprefix)
  rwa [← (String.append_right_inj _).1 heq]

theorem StyleProperty.property_of_mem_duotone {styles : Json} {space : String}
    {paddingAlign : Bool} {rule : StyleRule} (h : rule ∈ duotone.rules styles space paddingAlign) :
    rule.property = "filter" := by
  rw [rules_duotone] at h
  split at h
  · rw [List.mem_singleton.1 h]
  · cases h

/-- Without alignments aware of the padding, no custom property is made of it. -/
theorem StyleProperty.rules_rootPadding_false (styles : Json) (space : String) :
    rootPadding.rules styles space false = [] := by
  rw [rules]
  rcases styles.get? rootPadding.path with _ | value
  · rfl
  · exact if_pos (by simp [rootPadding])

/-- What is read of the root's padding for custom properties: its truthy sides. -/
theorem StyleProperty.mem_rules_rootPadding_iff {styles padding : Json}
    (h : styles.get? ["spacing", "padding"] = some padding) (hobject : padding.isObject)
    (space : String) (rule : StyleRule) :
    rule ∈ rootPadding.rules styles space true ↔ ∃ side ∈ StyleRule.sides,
      (padding.child side).isTruthy ∧ ⟨sideVariable space side, padding.child side⟩ = rule := by
  have hname (side : String) : rootPadding.name space ++ "-" ++ side = sideVariable space side := by
    have hbare : rootPadding.name space = "--" ++ space ++ "--style--root--padding" :=
      (List.cons_eq_cons.1 (names_rootPadding space)).1.trans String.append_empty
    have hhyphen : "--style--root--padding-" = "--style--root--padding" ++ "-" := by rfl
    rw [hbare, sideVariable, hhyphen]
    simp only [String.append_assoc]
  have htext : padding.text? = none := by
    cases padding <;> first | rfl | cases hobject
  have hsides : rootPadding.sides = StyleRule.sides.map fun side ↦ (side, side) := rfl
  rw [rules, show rootPadding.path = ["spacing", "padding"] from rfl, h]
  simp only [htext, hobject]
  rw [if_neg (by decide), if_pos (by decide), hsides, List.filterMap_map, List.mem_filterMap]
  refine exists_congr fun side ↦ and_congr_right fun _ ↦ ?_
  rw [Function.comp_apply, filter_isTruthy_get?, down_cons, down_nil, hname]
  split <;> simp [*]

namespace StyleContext

/-- A context that minds the padding of the root, or does not. -/
def aligned (ctx : StyleContext) (on : Bool) : StyleContext :=
  { ctx with paddingAlign := on }

/-- The text of a side as it is declared. -/
def sideCss? (ctx : StyleContext) (padding : Json) (side : String) : Option String :=
  (ctx.text? (padding.child side)).map (Reference.compile · ctx.space)

section

variable {styles padding : Json} (h : styles.get? ["spacing", "padding"] = some padding)
  (hobject : padding.isObject) (ctx : StyleContext)
include h

/-- Without alignments every side with a text is declared. -/
theorem mem_unaligned_iff (side value : String) :
    ⟨"padding-" ++ side, value⟩ ∈ (ctx.aligned false).declarations styles true ↔
      side ∈ StyleRule.sides ∧ ctx.sideCss? padding side = some value := by
  by_cases hside : side ∈ StyleRule.sides
  · obtain ⟨hmem, hform, hpadding, hmargin, hsize⟩ := StyleRule.padding_mem_table side hside
    have hlayout : ∀ value, (ctx.aligned false).isLeftToLayout true ⟨"padding-" ++ side, value⟩ =
        false := fun value ↦ by
      simp [isLeftToLayout, aligned, hpadding, hmargin]
    have hget : styles.get? ["spacing", "padding", side] = padding.get? [side] := by
      rw [← Option.bind_some padding (·.get? [side]), ← h, ← get?_append]
      rfl
    rw [mem_declarations_iff hmem hform hlayout, and_iff_right hside, sideCss?]
    show ((styles.get? ["spacing", "padding", side]).bind ctx.text?).map _ = _ ↔ _
    rw [hget, bind_text?_get?, down_cons, down_nil]
    simp only [declare_of_ne _ hsize]
    rcases ctx.text? (padding.child side) with _ | text
    · simp
    · simp [aligned]
  · refine iff_of_false (fun hmem ↦ hside ?_) fun hmem ↦ hside hmem.1
    exact mem_sides_of_mem_properties
      (((ctx.aligned false).map_property_declarations_sublist styles true).subset
        (List.mem_map_of_mem (f := Declaration.property) hmem))

omit h in
/-- The rules of the root: the filter, the padding for custom properties, and what is extracted. -/
theorem rules_aligned (styles : Json) (on : Bool) : (ctx.aligned on).rules styles true =
    StyleProperty.duotone.rules styles ctx.space on ++
      (StyleProperty.rootPadding.rules styles ctx.space on ++
        (StyleRule.extract styles).filter
          fun rule ↦ !(ctx.aligned on).isLeftToLayout true rule) := by
  rw [rules, StyleProperty.filter_isDirect_true, List.flatMap_cons, List.flatMap_singleton,
    List.append_assoc]
  rfl

include hobject

/-- With alignments every side with a text is declared that is truthy. -/
theorem mem_aligned_iff (side value : String) :
    ⟨sideVariable ctx.space side, value⟩ ∈ (ctx.aligned true).declarations styles true ↔
      side ∈ StyleRule.sides ∧ (padding.child side).isTruthy ∧
        ctx.sideCss? padding side = some value := by
  have hdeclare (text : String) : (ctx.aligned true).declare ⟨sideVariable ctx.space side, text⟩ =
      ⟨sideVariable ctx.space side, Reference.compile text ctx.space⟩ :=
    declare_of_ne _ (sideVariable_ne (by decide)) text
  rw [mem_declarations_iff_exists_rule, rules_aligned]
  constructor
  · rintro ⟨⟨property, found⟩, hrule, text, htext, hdeclared⟩
    obtain rfl : property = sideVariable ctx.space side := congrArg Declaration.property hdeclared
    rw [List.mem_append, List.mem_append,
      StyleProperty.mem_rules_rootPadding_iff h hobject] at hrule
    rcases hrule with hduotone | ⟨other, hother, htruthy, heq⟩ | hextracted
    · exact absurd (StyleProperty.property_of_mem_duotone hduotone) (sideVariable_ne (by decide))
    · obtain ⟨hname, rfl⟩ := StyleRule.mk.inj heq
      obtain rfl := sideVariable_inj.1 hname
      have hvalue := congrArg Declaration.value ((hdeclare text).symm.trans hdeclared)
      exact ⟨hother, htruthy, Option.map_eq_some_iff.2 ⟨text, htext, hvalue⟩⟩
    · have hname := (StyleRule.map_property_extract_sublist styles).subset
        (List.mem_map_of_mem (f := StyleRule.property) (List.mem_filter.1 hextracted).1)
      exact absurd rfl (sideVariable_ne (take_ne_of_mem_table _ (List.mem_cons_of_mem _ hname)))
  · rintro ⟨hside, htruthy, hcss⟩
    obtain ⟨text, htext, rfl⟩ := Option.map_eq_some_iff.1 hcss
    refine ⟨⟨sideVariable ctx.space side, padding.child side⟩, ?_, text, htext, hdeclare text⟩
    rw [List.mem_append, List.mem_append, StyleProperty.mem_rules_rootPadding_iff h hobject]
    exact .inr (.inl ⟨side, hside, htruthy, rfl⟩)

/-- With alignments the padding itself is left to the layout. -/
theorem not_prefix_of_mem_aligned {declaration : Declaration}
    (hmem : declaration ∈ (ctx.aligned true).declarations styles true) :
    ¬"padding".toList <+: declaration.property.toList := by
  obtain ⟨rule, hrule, text, -, rfl⟩ := (mem_declarations_iff_exists_rule _ _ _ _).1 hmem
  show ¬"padding".toList <+: rule.property.toList
  rw [rules_aligned, List.mem_append, List.mem_append,
    StyleProperty.mem_rules_rootPadding_iff h hobject] at hrule
  rcases hrule with hduotone | ⟨side, -, -, rfl⟩ | hextracted
  · rw [StyleProperty.property_of_mem_duotone hduotone]
    decide
  · rintro ⟨rest, hrest⟩
    have hhead := congrArg List.head? hrest
    simp [sideVariable] at hhead
  · have hleft := (List.mem_filter.1 hextracted).2
    rw [Bool.not_eq_true', isLeftToLayout, Bool.true_and, Bool.or_eq_false_iff] at hleft
    rw [← List.isPrefixOf_iff_prefix, Bool.not_eq_true]
    exact hleft.2

/-- What is not about padding is the same in both ways. -/
theorem filter_rules_aligned :
    ((ctx.aligned true).rules styles true).filter (!isPaddingName ctx.space ·.property) =
      ((ctx.aligned false).rules styles true).filter (!isPaddingName ctx.space ·.property) := by
  have hpadding : (StyleProperty.rootPadding.rules styles ctx.space true).filter
      (!isPaddingName ctx.space ·.property) = [] := by
    refine List.filter_eq_nil_iff.2 fun rule hmem ↦ ?_
    obtain ⟨side, -, -, rfl⟩ := (StyleProperty.mem_rules_rootPadding_iff h hobject _ _).1 hmem
    rw [isPaddingName_sideVariable]
    decide
  rw [rules_aligned, rules_aligned, StyleProperty.rules_rootPadding_false, List.nil_append,
    List.filter_append, List.filter_append, List.filter_append, hpadding, List.nil_append,
    StyleProperty.rules_duotone, StyleProperty.rules_duotone, List.filter_filter,
    List.filter_filter]
  refine congrArg (_ ++ ·) (List.filter_congr fun rule _ ↦ ?_)
  cases hname : isPaddingName ctx.space rule.property
  · rw [isPaddingName, Bool.or_eq_false_iff] at hname
    simp only [isLeftToLayout, aligned, hname.1, Bool.and_false]
  · rfl

/-- **The padding of the root is declared alike in both ways, but for sides that are not truthy.**
With alignments there is a custom property of a side exactly if the side is truthy and is declared
without them, and then with the same value; no property of the padding itself is declared; and what
is not about padding is declared alike, in the same order. So all sides agree exactly if every side
with a text is truthy. -/
theorem root_padding_agrees_iff :
    (∀ side value,
        ⟨sideVariable ctx.space side, value⟩ ∈ (ctx.aligned true).declarations styles true ↔
          ⟨"padding-" ++ side, value⟩ ∈ (ctx.aligned false).declarations styles true ∧
            (padding.child side).isTruthy) ∧
      (∀ declaration ∈ (ctx.aligned true).declarations styles true,
        ¬"padding".toList <+: declaration.property.toList) ∧
      ((ctx.aligned true).declarations styles true).filter
          (fun declaration ↦ !isPaddingName ctx.space declaration.property) =
        ((ctx.aligned false).declarations styles true).filter
          (fun declaration ↦ !isPaddingName ctx.space declaration.property) ∧
      ((∀ side value,
          ⟨sideVariable ctx.space side, value⟩ ∈ (ctx.aligned true).declarations styles true ↔
            ⟨"padding-" ++ side, value⟩ ∈ (ctx.aligned false).declarations styles true) ↔
        ∀ side ∈ StyleRule.sides, (ctx.text? (padding.child side)).isSome →
          (padding.child side).isTruthy) := by
  have hsides (side value : String) :
      ⟨sideVariable ctx.space side, value⟩ ∈ (ctx.aligned true).declarations styles true ↔
        ⟨"padding-" ++ side, value⟩ ∈ (ctx.aligned false).declarations styles true ∧
          (padding.child side).isTruthy := by
    rw [mem_aligned_iff h hobject, mem_unaligned_iff h, and_assoc,
      and_comm (a := ctx.sideCss? padding side = some value)]
  refine ⟨hsides, ?_, ?_, fun hagree side hside htext ↦ ?_, fun htruthy side value ↦ ?_⟩
  · exact fun _ ↦ not_prefix_of_mem_aligned h hobject ctx
  · have hfilter (on : Bool) := (ctx.aligned on).filter_declarations styles true
      (!isPaddingName ctx.space ·)
    rw [hfilter, hfilter, filter_rules_aligned h hobject]
    rfl
  · obtain ⟨text, htext⟩ := Option.isSome_iff_exists.1 htext
    have hdeclared : ⟨"padding-" ++ side, Reference.compile text ctx.space⟩ ∈
        (ctx.aligned false).declarations styles true :=
      (mem_unaligned_iff h ctx _ _).2 ⟨hside, by rw [sideCss?, htext, Option.map_some]⟩
    exact ((hsides _ _).1 ((hagree _ _).2 hdeclared)).2
  · rw [hsides, and_iff_left_iff_imp, mem_unaligned_iff h]
    rintro ⟨hside, hcss⟩
    obtain ⟨text, htext, -⟩ := Option.map_eq_some_iff.1 hcss
    exact htruthy side hside (Option.isSome_of_eq_some htext)

end

/-- A padding on two sides, one of them as large as the other says. -/
def pagePadding : Json :=
  .obj
    [("right", .str "1em"), ("left", .obj [("ref", .str "styles.spacing.padding.right")])]

/-- Styles of a page. -/
def pageStyles : Json :=
  .obj
    [("spacing", .obj [("padding", pagePadding), ("margin", .str "0")]),
      ("color", .obj [("text", .str "navy")])]

/-- Each side of a page is declared in both ways, and so is the colour of its text. -/
theorem root_padding_agrees_page :
    let ctx := StyleContext.ofTree (.obj [("styles", pageStyles)]) "app"
    pageStyles.get? ["spacing", "padding"] = some pagePadding ∧ pagePadding.isObject ∧
      (ctx.aligned false).declarations pageStyles true =
        [⟨"color", "navy"⟩, ⟨"padding-right", "1em"⟩, ⟨"padding-left", "1em"⟩] ∧
      ⟨"--app--style--root--padding-left", "1em"⟩ ∈
        (ctx.aligned true).declarations pageStyles true ∧
      ((ctx.aligned true).declarations pageStyles true).filter
        (fun declaration ↦ !isPaddingName "app" declaration.property) = [⟨"color", "navy"⟩] := by
  intro ctx
  have hdeclared : (ctx.aligned false).declarations pageStyles true =
      [⟨"color", "navy"⟩, ⟨"padding-right", "1em"⟩, ⟨"padding-left", "1em"⟩] := by
    decide +kernel
  have hpadding : pageStyles.get? ["spacing", "padding"] = some pagePadding := by rfl
  obtain ⟨hsides, -, hothers, -⟩ := root_padding_agrees_iff hpadding (by rfl) ctx
  refine ⟨hpadding, by rfl, hdeclared, (hsides "left" "1em").2 ⟨?_, by rfl⟩, hothers.trans ?_⟩
  · rw [hdeclared]
    decide
  · rw [hdeclared]
    decide +kernel

/-- A side of zero is declared as it is, and has no custom property. -/
theorem root_padding_of_zero_is_lost :
    let styles : Json := .obj [("spacing", .obj [("padding",
      .obj [("top", .num (.int 0)), ("right", .str "1em")])])]
    let ctx := StyleContext.standalone "wp"
    (ctx.aligned false).declarations styles true =
        [⟨"padding-top", "0"⟩, ⟨"padding-right", "1em"⟩] ∧
      (ctx.aligned true).declarations styles true =
        [⟨"--wp--style--root--padding-right", "1em"⟩] :=
  ⟨by decide +kernel, by decide +kernel⟩

end StyleContext

end GlobalStyles
