import GlobalStyles.Layout.Rules
import Mathlib.Data.List.Basic

/-!
# Layouts without block gaps

While block gaps are off, the rules of a node are made of two parts, either of which goes through
the kinds one by one: the spacing rules of the kind `flex` with a fixed gap, and for the root the
base rules of every kind but `default` (`StyleNode.layoutRules_gapless`). So neither the styles of
the node, nor a kind named `default`, nor the spacing styles of a kind other than `flex` are ever
looked at.

Lists of kinds that differ only there are related by `LayoutKind.GaplessAlike`, and each part is the
same for related lists, because it has nothing for a kind that may be missing and does not tell the
kinds apart that may stand for each other. Where a rule comes from is said by
`StyleNode.IsGaplessRule`, and what it declares by `StyleNode.IsGaplessRule.declaration_origin`.

The variable of the gap is not set by these rules, but it is a name like any other: a template may
name it, and so may the gap that a block falls back to. Nothing else does.
-/

namespace GlobalStyles

/-- Going through what passes a test is going through everything, with nothing for the rest. -/
theorem flatMap_filter_eq {α β : Type} (p : α → Bool) (f : α → List β) (items : List α) :
    (items.filter p).flatMap f = items.flatMap fun item ↦ if p item then f item else [] := by
  induction items with
  | nil => rfl
  | cons item rest ih =>
    rw [List.filter_cons, List.flatMap_cons, ← ih]
    split
    · rw [List.flatMap_cons]
    · rw [List.nil_append]

namespace LayoutKind

/-! ### Kinds that differ only in gaps -/

/-- Two kinds that are the same, but for the spacing styles of a kind other than `flex`. -/
structure SameButSpacing (kind other : LayoutKind) : Prop where
  eq_with : other = { kind with spacingStyles := other.spacingStyles }
  flex : kind.name = flexName → other.spacingStyles = kind.spacingStyles

theorem SameButSpacing.refl (kind : LayoutKind) : SameButSpacing kind kind :=
  ⟨rfl, fun _ ↦ rfl⟩

/-- Two lists of kinds that differ in kinds named `default`, which may be missing in either of them,
and in the spacing styles of kinds other than `flex`. -/
inductive GaplessAlike : List LayoutKind → List LayoutKind → Prop
  | nil : GaplessAlike [] []
  | same {kind other : LayoutKind} {kinds others : List LayoutKind}
    (hsame : SameButSpacing kind other) (hrest : GaplessAlike kinds others) :
    GaplessAlike (kind :: kinds) (other :: others)
  | removed {kind : LayoutKind} {kinds others : List LayoutKind} (hname : kind.name = defaultName)
    (hrest : GaplessAlike kinds others) : GaplessAlike (kind :: kinds) others
  | added {other : LayoutKind} {kinds others : List LayoutKind} (hname : other.name = defaultName)
    (hrest : GaplessAlike kinds others) : GaplessAlike kinds (other :: others)

/-- **What is made of kinds one by one is the same of lists that differ only in gaps**, if it is
nothing for `default` and the same for kinds that are the same but for spacing. -/
theorem GaplessAlike.flatMap_eq {β : Type} {f : LayoutKind → List β}
    (hsame : ∀ kind other, SameButSpacing kind other → f kind = f other)
    (hdefault : ∀ kind, kind.name = defaultName → f kind = []) {kinds others : List LayoutKind}
    (h : GaplessAlike kinds others) : kinds.flatMap f = others.flatMap f := by
  induction h with
  | nil => rfl
  | same hkind _ ih => rw [List.flatMap_cons, List.flatMap_cons, hsame _ _ hkind, ih]
  | removed hname _ ih => rw [List.flatMap_cons, hdefault _ hname, List.nil_append, ih]
  | added hname _ ih => rw [List.flatMap_cons, hdefault _ hname, List.nil_append, ih]

end LayoutKind

namespace StyleNode

open LayoutKind (SameButSpacing GaplessAlike flexName defaultName)

/-! ### The two parts -/

section

variable (node : StyleNode) (fallback : Bool)

/-- The gap of a node while block gaps are off. -/
def fixedGap? : Option String :=
  if node.isRoot then some GapSupport.rootFallback
  else if fallback then node.fallbackGap
  else none

/-- The selector of a spacing rule while block gaps are off. -/
def whereSelector (target : String) : String :=
  ":where(" ++ (if node.isRoot then target else Selector.append node.selector target) ++ ")"

/-- The spacing rules of a kind while block gaps are off. -/
def flexRules (gap : String) (kind : LayoutKind) : List Rule :=
  if kind.name = flexName then
    kind.spacingStyles.flatMap fun style ↦
      Rule.make .spaced (node.whereSelector (kind.target style)) (style.spacing gap)
  else []

/-- The base rules of a kind while block gaps are off. -/
def namedBaseRules (kind : LayoutKind) : List Rule :=
  if kind.name = defaultName then [] else baseRules kind

variable {node fallback}

theorem gap?_gapless (space : String) :
    node.gap? ⟨false, fallback⟩ space = node.fixedGap? fallback := by
  cases hroot : node.isRoot <;> cases fallback <;> simp [gap?, fixedGap?, hroot]

/-- Such a gap is that of the root, or what the registry has for a block. -/
theorem fixedGap?_eq_some {gap : String} (h : node.fixedGap? fallback = some gap) :
    gap = GapSupport.rootFallback ∨
      node.isRoot = false ∧ fallback = true ∧ node.fallbackGap = some gap := by
  rw [fixedGap?] at h
  split at h <;> rename_i hroot
  · exact .inl (Option.some.inj h).symm
  · split at h <;> rename_i hfallback
    · exact .inr ⟨Bool.not_eq_true _ ▸ hroot, hfallback, h⟩
    · cases h

theorem spacingSelector_gapless (target : String) :
    node.spacingSelector false target = node.whereSelector target := by
  cases hroot : node.isRoot <;> simp [spacingSelector, whereSelector, hroot]

theorem spacingRules_gapless (kinds : List LayoutKind) (gap : String) :
    node.spacingRules (kinds.filter (·.name != defaultName)) false gap =
      kinds.flatMap (node.flexRules gap) := by
  have hnames : flexName ≠ defaultName := by decide
  rw [spacingRules, List.filter_filter, flatMap_filter_eq]
  refine List.flatMap_congr fun kind _ ↦ ?_
  by_cases hflex : kind.name = flexName
  · simp [flexRules, hflex, hnames, spacingSelector_gapless]
  · simp [flexRules, hflex]

theorem flatMap_baseRules_gapless (kinds : List LayoutKind) :
    (kinds.filter (·.name != defaultName)).flatMap baseRules = kinds.flatMap namedBaseRules := by
  rw [flatMap_filter_eq]
  refine List.flatMap_congr fun kind _ ↦ ?_
  by_cases hdefault : kind.name = defaultName <;> simp [namedBaseRules, hdefault]

/-- **The rules of a node while block gaps are off.** -/
theorem layoutRules_gapless (kinds : List LayoutKind) (space : String) :
    node.layoutRules kinds ⟨false, fallback⟩ space =
      if !node.isRoot && !node.hasLayoutSupport then []
      else
        (node.fixedGap? fallback).toList.flatMap (fun gap ↦ kinds.flatMap (node.flexRules gap)) ++
          if node.isRoot then kinds.flatMap namedBaseRules else [] := by
  have hguard : ((!node.isRoot && !node.hasLayoutSupport) || kinds.isEmpty) = true ↔
      (!node.isRoot && !node.hasLayoutSupport) = true ∨ kinds = [] := by
    rw [Bool.or_eq_true, List.isEmpty_iff]
  simp only [layoutRules, Bool.false_or, gap?_gapless, spacingRules_gapless, Bool.and_false,
    flatMap_baseRules_gapless, Bool.false_eq_true, if_false, List.append_nil]
  by_cases hsupport : (!node.isRoot && !node.hasLayoutSupport) = true
  · rw [if_pos (hguard.2 (.inl hsupport)), if_pos hsupport]
  · rw [if_neg hsupport]
    rcases eq_or_ne kinds [] with rfl | hne
    · rw [if_pos (hguard.2 (.inr rfl))]
      simp
    · rw [if_neg fun h ↦ (hguard.1 h).elim hsupport hne]
      cases node.fixedGap? fallback <;> simp

end

/-! ### What the rules depend on -/

/-- The spacing styles of a kind are looked at only if it is `flex`. -/
theorem flexRules_congr (node : StyleNode) (gap : String) {kind other : LayoutKind}
    (h : SameButSpacing kind other) : node.flexRules gap kind = node.flexRules gap other := by
  rw [flexRules, flexRules, h.eq_with]
  by_cases hflex : kind.name = flexName
  · rw [if_pos hflex, if_pos hflex, h.flex hflex]
  · rw [if_neg hflex, if_neg hflex]

/-- The base rules of a kind do not look at its spacing styles. -/
theorem namedBaseRules_congr {kind other : LayoutKind} (h : SameButSpacing kind other) :
    namedBaseRules kind = namedBaseRules other := by
  rw [h.eq_with]
  rfl

theorem flexRules_default (node : StyleNode) (gap : String) {kind : LayoutKind}
    (h : kind.name = defaultName) : node.flexRules gap kind = [] := by
  rw [flexRules, if_neg]
  rw [h]
  decide

/-- Lists of kinds that differ only in gaps have the same rules, whatever the styles of the node. -/
theorem layoutRules_eq_of_gaplessAlike {kinds others : List LayoutKind}
    (h : GaplessAlike kinds others) (node : StyleNode) (styles : Json) (fallback : Bool)
    (space other : String) :
    { node with styles := styles }.layoutRules others ⟨false, fallback⟩ other =
      node.layoutRules kinds ⟨false, fallback⟩ space := by
  have hflex (gap : String) : kinds.flatMap (node.flexRules gap) =
      others.flatMap (node.flexRules gap) :=
    h.flatMap_eq (fun _ _ ↦ node.flexRules_congr gap) fun _ ↦ node.flexRules_default gap
  have hbase : kinds.flatMap namedBaseRules = others.flatMap namedBaseRules :=
    h.flatMap_eq (fun _ _ ↦ namedBaseRules_congr) fun _ hname ↦ if_pos hname
  rw [layoutRules_gapless, layoutRules_gapless, hbase, funext hflex]
  rfl

/-! ### Where the rules come from -/

/-- A template that a node has rules of while block gaps are off: for the root a base style of a kind
other than `default`, and for every node a spacing style of the kind `flex`. -/
inductive IsGaplessTemplate (node : StyleNode) (kinds : List LayoutKind) (style : LayoutStyle) :
    Prop
  | base {kind : LayoutKind} (hkind : kind ∈ kinds) (hname : kind.name ≠ defaultName)
    (hroot : node.isRoot = true) (hstyle : style ∈ kind.baseStyles)
  | spacing {kind : LayoutKind} (hkind : kind ∈ kinds) (hname : kind.name = flexName)
    (hstyle : style ∈ kind.spacingStyles)

/-- A rule of a node while block gaps are off: for the root a base rule of a kind other than
`default`, or a spacing rule of the kind `flex` for a fixed gap, wrapped in `:where()`. -/
inductive IsGaplessRule (node : StyleNode) (kinds : List LayoutKind) (fallback : Bool)
    (rule : Rule) : Prop
  | base {kind : LayoutKind} (hkind : kind ∈ kinds) (hname : kind.name ≠ defaultName)
    (hroot : node.isRoot = true) (hrule : rule ∈ baseRules kind)
  | spacing {kind : LayoutKind} {style : LayoutStyle} {gap : String} (hkind : kind ∈ kinds)
    (hname : kind.name = flexName) (hstyle : style ∈ kind.spacingStyles)
    (hgap : node.fixedGap? fallback = some gap)
    (hrule : rule ∈ Rule.make .spaced (node.whereSelector (kind.target style)) (style.spacing gap))

/-- Every rule of a node is one of these. -/
theorem isGaplessRule_of_mem {node : StyleNode} {kinds : List LayoutKind} {fallback : Bool}
    {space : String} {rule : Rule} (h : rule ∈ node.layoutRules kinds ⟨false, fallback⟩ space) :
    node.IsGaplessRule kinds fallback rule := by
  rw [layoutRules_gapless] at h
  split at h
  · cases h
  · rcases List.mem_append.1 h with hspacing | hbase
    · obtain ⟨gap, hgap, hrule⟩ := List.mem_flatMap.1 hspacing
      obtain ⟨kind, hkind, hrule⟩ := List.mem_flatMap.1 hrule
      rw [flexRules] at hrule
      split at hrule <;> rename_i hname
      · obtain ⟨style, hstyle, hrule⟩ := List.mem_flatMap.1 hrule
        exact .spacing hkind hname hstyle (Option.mem_toList.1 hgap) hrule
      · cases hrule
    · split at hbase <;> rename_i hroot
      · obtain ⟨kind, hkind, hrule⟩ := List.mem_flatMap.1 hbase
        rw [namedBaseRules] at hrule
        split at hrule <;> rename_i hname
        · cases hrule
        · exact .base hkind hname hroot hrule
      · cases hbase

/-- The base rules of a kind stand below the root. They are its display mode and its base styles. -/
theorem eq_of_mem_baseRules {kind : LayoutKind} {rule : Rule} (h : rule ∈ baseRules kind) :
    ∃ target, rule.selector = rootSelector ++ " " ++ target ∧
      ((∃ mode ∈ LayoutKind.displayModes, rule.declarations = [⟨"display", mode⟩]) ∨
        ∃ style ∈ kind.baseStyles, rule.declarations = style.base) := by
  rcases List.mem_append.1 h with hmode | hstyle
  · obtain ⟨mode, hmode, hrule⟩ := List.mem_flatMap.1 hmode
    obtain ⟨-, hknown⟩ := Option.filter_eq_some_iff.1 (Option.mem_toList.1 hmode)
    rw [(Rule.mem_make_iff.1 hrule).2]
    have hdot : " ." = " " ++ "." := by decide
    exact ⟨"." ++ kind.className, by simp only [hdot, String.append_assoc],
      .inl ⟨mode, List.contains_iff_mem.1 hknown, rfl⟩⟩
  · obtain ⟨style, hstyle, hrule⟩ := List.mem_flatMap.1 hstyle
    rw [(Rule.mem_make_iff.1 hrule).2]
    exact ⟨kind.target style, rfl, .inr ⟨style, hstyle, rfl⟩⟩

namespace IsGaplessRule

variable {node : StyleNode} {kinds : List LayoutKind} {fallback : Bool} {rule : Rule}
  (h : node.IsGaplessRule kinds fallback rule)
include h

/-- No rule is on the root itself. -/
theorem selector_ne : rule.selector ≠ rootSelector := by
  intro hroot
  cases h with
  | base _ _ _ hrule =>
    obtain ⟨target, hselector, -⟩ := eq_of_mem_baseRules hrule
    have hlength := congrArg (List.length ∘ String.toList) (hselector.symm.trans hroot)
    simp [String.toList_append] at hlength
  | spacing _ _ _ _ hrule =>
    rw [(Rule.mem_make_iff.1 hrule).2] at hroot
    have hfirst := congrArg (List.head? ∘ String.toList) hroot
    simp [whereSelector, rootSelector, String.toList_append] at hfirst

/-- What is declared is a display mode, or an entry of a template: with the text of its value, or
with the gap in its place. -/
theorem declaration_origin {declaration : Declaration} (hmem : declaration ∈ rule.declarations) :
    (∃ mode ∈ LayoutKind.displayModes, declaration = ⟨"display", mode⟩) ∨
      ∃ style, node.IsGaplessTemplate kinds style ∧ ∃ entry ∈ style.rules,
        entry.1 = declaration.property ∧
          (entry.2.css? = some declaration.value ∨
            node.fixedGap? fallback = some declaration.value) := by
  cases h with
  | base hkind hname hroot hrule =>
    obtain ⟨-, -, ⟨mode, hmode, hown⟩ | ⟨style, hstyle, hown⟩⟩ := eq_of_mem_baseRules hrule
    · rw [hown, List.mem_singleton] at hmem
      exact .inl ⟨mode, hmode, hmem⟩
    · rw [hown] at hmem
      obtain ⟨entry, hentry, hmade⟩ := List.mem_filterMap.1 hmem
      obtain ⟨value, hvalue, rfl⟩ := Option.map_eq_some_iff.1 hmade
      exact .inr ⟨style, .base hkind hname hroot hstyle, entry, hentry, rfl, .inl hvalue⟩
  | @spacing kind style gap hkind hname hstyle hgap hrule =>
    rw [(Rule.mem_make_iff.1 hrule).2] at hmem
    obtain ⟨⟨property, value⟩, hentry, rfl⟩ := List.mem_map.1 hmem
    refine .inr ⟨style, .spacing hkind hname hstyle, _, hentry, rfl, ?_⟩
    show value.css? = some ((value.css?.filter (· ≠ "")).getD gap) ∨
      node.fixedGap? fallback = some ((value.css?.filter (· ≠ "")).getD gap)
    rcases hvalue : value.css?.filter (· ≠ "") with _ | text
    · exact .inr hgap
    · exact .inl (Option.filter_eq_some_iff.1 hvalue).1

end IsGaplessRule

/-! ### The name of the gap -/

/-- The variable that holds the gap of the root while block gaps are on. -/
def gapVariable (space : String) : String :=
  "--" ++ space ++ "--style--block-gap"

/-- A text names the variable of the gap. -/
def NamesGap (space text : String) : Prop :=
  (gapVariable space).toList <:+: text.toList

instance (space text : String) : Decidable (NamesGap space text) :=
  inferInstanceAs (Decidable (_ <:+: _))

/-- The name does not fit into short texts, whatever the namespace. -/
theorem not_namesGap_of_length_lt {space text : String} (h : text.toList.length < 20) :
    ¬NamesGap space text := by
  intro hnames
  have hlength := hnames.length_le
  simp only [gapVariable, String.toList_append, List.length_append] at hlength
  have hends : "--".toList.length + "--style--block-gap".toList.length = 20 := by decide
  omega

namespace IsGaplessRule

variable {node : StyleNode} {kinds : List LayoutKind} {fallback : Bool} {rule : Rule}
  (h : node.IsGaplessRule kinds fallback rule) {declaration : Declaration}
  (hmem : declaration ∈ rule.declarations) {space : String}
include h hmem

/-- A property that names the gap is one of a template. -/
theorem exists_template_of_namesGap_property (hnames : NamesGap space declaration.property) :
    ∃ style, node.IsGaplessTemplate kinds style ∧
      declaration.property ∈ style.rules.map Prod.fst := by
  obtain ⟨mode, -, rfl⟩ | ⟨style, hstyle, entry, hentry, hproperty, -⟩ := h.declaration_origin hmem
  · exact absurd hnames (not_namesGap_of_length_lt (by decide : "display".toList.length < 20))
  · exact ⟨style, hstyle, List.mem_map.2 ⟨entry, hentry, hproperty⟩⟩

/-- A value that names the gap is one of a template, or the gap that a block falls back to. -/
theorem exists_template_of_namesGap_value (hnames : NamesGap space declaration.value) :
    (∃ style, node.IsGaplessTemplate kinds style ∧ ∃ entry ∈ style.rules,
        entry.1 = declaration.property ∧ entry.2.css? = some declaration.value) ∨
      node.isRoot = false ∧ fallback = true ∧ node.fallbackGap = some declaration.value := by
  have hmodes : ∀ mode ∈ LayoutKind.displayModes, mode.toList.length < 20 := by decide
  have hroot : GapSupport.rootFallback.toList.length < 20 := by decide
  obtain ⟨mode, hmode, rfl⟩ | ⟨style, hstyle, entry, hentry, hproperty, hvalue | hgap⟩ :=
    h.declaration_origin hmem
  · exact absurd hnames (not_namesGap_of_length_lt (hmodes mode hmode))
  · exact .inl ⟨style, hstyle, entry, hentry, hproperty, hvalue⟩
  · obtain hfixed | hfallback := fixedGap?_eq_some hgap
    · exact absurd hnames (not_namesGap_of_length_lt (hfixed ▸ hroot))
    · exact .inr hfallback

end IsGaplessRule

/-- **Without block gaps, layouts do not depend on gaps.** A node has the same rules, and so the
same text, with any other styles, under any other namespace, and for any list of kinds that differs
in kinds named `default` and in the spacing styles of kinds other than `flex`. No rule is of a kind
named `default`, every spacing rule is wrapped in `:where()`, and the rule that sets the variable of
the gap on the root is not there. A declaration names this variable only where a template that the
node has rules of names it itself, in the property or in the value, or where the gap that a block
falls back to does. -/
theorem layoutRules_without_gaps {kinds others : List LayoutKind} (h : GaplessAlike kinds others)
    (node : StyleNode) (fallback : Bool) (space : String) :
    let rules := node.layoutRules kinds ⟨false, fallback⟩ space
    (∀ styles other,
        { node with styles := styles }.layoutRules others ⟨false, fallback⟩ other = rules) ∧
      (∀ rule ∈ rules, node.IsGaplessRule kinds fallback rule) ∧
      (∀ gap, ∀ rule ∈ gapProperty gap space, rule ∉ rules) ∧
      ∀ rule ∈ rules, ∀ declaration ∈ rule.declarations,
        (NamesGap space declaration.property →
          ∃ style, node.IsGaplessTemplate kinds style ∧
            declaration.property ∈ style.rules.map Prod.fst) ∧
        (NamesGap space declaration.value →
          (∃ style, node.IsGaplessTemplate kinds style ∧ ∃ entry ∈ style.rules,
              entry.1 = declaration.property ∧ entry.2.css? = some declaration.value) ∨
            node.isRoot = false ∧ fallback = true ∧ node.fallbackGap = some declaration.value) := by
  intro rules
  refine ⟨fun styles ↦ layoutRules_eq_of_gaplessAlike h node styles fallback space,
    fun rule hrule ↦ isGaplessRule_of_mem hrule, fun gap rule hgap hrule ↦ ?_,
    fun rule hrule declaration hmem ↦ ?_⟩
  · exact (isGaplessRule_of_mem hrule).selector_ne ((Rule.mem_make_iff.1 hgap).2 ▸ rfl)
  · have horigin : node.IsGaplessRule kinds fallback rule := isGaplessRule_of_mem hrule
    exact ⟨horigin.exists_template_of_namesGap_property hmem,
      horigin.exists_template_of_namesGap_value hmem⟩

/-- The kinds `default`, `flex` and `grid`, each with a spacing style. -/
private def usualKinds : List LayoutKind :=
  [⟨"default", "flow", "is-layout-flow", none,
      [⟨" > .alignleft", [("float", .str "left")]⟩],
      [⟨" > * + *", [("margin-block-start", .null)]⟩]⟩,
    ⟨"flex", "flex", "is-layout-flex", some "flex", [], [⟨"", [("gap", .null)]⟩]⟩,
    ⟨"grid", "grid", "is-layout-grid", some "grid", [], [⟨"", [("gap", .null)]⟩]⟩]

/-- The kinds `flex` and `grid`, the latter with another spacing style, and `default` twice. -/
private def otherKinds : List LayoutKind :=
  [⟨"flex", "flex", "is-layout-flex", some "flex", [], [⟨"", [("gap", .null)]⟩]⟩,
    ⟨"default", "", "is-layout-flow", some "block", [], []⟩,
    ⟨"grid", "grid", "is-layout-grid", some "grid", [], [⟨" > *", [("margin", .str "1em")]⟩]⟩,
    ⟨"default", "", "", none, [], [⟨"", [("gap", .null)]⟩]⟩]

/-- A root with a gap of its own, and one without. -/
theorem layoutRules_without_gaps_root :
    GaplessAlike usualKinds otherKinds ∧
      Rule.textOfAll ((plain .root rootSelector (.obj [("spacing", .obj
          [("blockGap", .str "24px")])])).layoutRules otherKinds ⟨false, true⟩ "ns") =
        Rule.textOfAll ((plain .root rootSelector .null).layoutRules usualKinds ⟨false, true⟩
          "wp") ∧
      Rule.textOfAll ((plain .root rootSelector .null).layoutRules usualKinds ⟨false, true⟩ "wp") =
        ":where(.is-layout-flex) \x7b gap: 0.5em; \x7d" ++
          "body .is-layout-flex \x7b display:flex; \x7d" ++
          "body .is-layout-grid \x7b display:grid; \x7d" := by
  have halike : GaplessAlike usualKinds otherKinds :=
    .removed rfl (.same (.refl _) (.added rfl
      (.same ⟨rfl, fun hname ↦ absurd hname (by decide)⟩ (.added rfl .nil))))
  have hrules := (layoutRules_without_gaps halike (plain .root rootSelector .null) true "wp").1
  exact ⟨halike, congrArg Rule.textOfAll (hrules _ "ns"), by decide +kernel⟩

/-- Containers that give the variable of the gap a value of their own, and containers with a
gap. -/
private def namingKinds : List LayoutKind :=
  [⟨"flow", "flow", "is-layout-flow", none, [⟨"", [("--wp--style--block-gap", .str "1em")]⟩], []⟩,
    ⟨"flex", "flex", "is-layout-flex", none, [], [⟨"", [("gap", .null)]⟩]⟩]

/-- A block whose gap is that of the root, where there is one. -/
private def groupNode : StyleNode :=
  { plain (.block "core/group") ".group" .null with
    hasLayoutSupport := true, fallbackGap := some "var(--wp--style--block-gap, 1em)" }

/-- While block gaps are off, a root sets the variable of the gap because a template does, and a
block reads it because its gap does. -/
theorem layoutRules_naming_gap :
    let ofRoot := Rule.textOfAll
      ((plain .root rootSelector .null).layoutRules namingKinds ⟨false, true⟩ "wp")
    let ofGroup := Rule.textOfAll (groupNode.layoutRules namingKinds ⟨false, true⟩ "wp")
    (ofRoot = ":where(.is-layout-flex) \x7b gap: 0.5em; \x7d" ++
        "body .is-layout-flow \x7b --wp--style--block-gap: 1em; \x7d" ∧
      NamesGap "wp" ofRoot) ∧
      (ofGroup = ":where(.group.is-layout-flex) \x7b " ++
        "gap: var(--wp--style--block-gap, 1em); \x7d" ∧
      NamesGap "wp" ofGroup) := by
  decide +kernel

end StyleNode

end GlobalStyles
