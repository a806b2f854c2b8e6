import GlobalStyles.Proofs.Style.Feature
import GlobalStyles.Stylesheet.Node

/-!
# Rules as they were written

The rules of a style node come from several of its subtrees: what features take, the variations, the
filter, the node's own styles and its pseudo-selectors. In a rule, a text no longer shows how it was
written: a token has become a `var()`, and a font size perhaps a `clamp()`. A `WrittenRule` keeps
its entries as written, and the rules of a node are its written rules, compiled
(`StyleNode.rules_eq`).

Written rules and reports are made of the same lists, one for each subtree. So an entry stands in
some rule exactly when some subtree says it (`StyleNode.mem_entries_writtenRules_iff`), and that is
when its text is looked at for reports (`StyleNode.styleDiagnostics_eq`).
-/

namespace GlobalStyles

/-- A rule before its texts are compiled. -/
structure WrittenRule where
  selector : String
  entries : List Written
  shape : RuleShape

namespace WrittenRule

/-- The rule of a written rule. -/
def compile (ctx : StyleContext) (rule : WrittenRule) : Rule :=
  ⟨rule.selector, rule.entries.map ctx.declare, rule.shape⟩

/-- The written rule of some entries; none of no entries. -/
def make (shape : RuleShape) (selector : String) (entries : List Written) : List WrittenRule :=
  if entries.isEmpty then [] else [⟨selector, entries, shape⟩]

/-- Making a rule and compiling it can be done in either order. -/
theorem map_compile_make (ctx : StyleContext) (shape : RuleShape) (selector : String)
    (entries : List Written) :
    (make shape selector entries).map (compile ctx) =
      Rule.make shape selector (entries.map ctx.declare) := by
  rw [make, Rule.make, List.isEmpty_map]
  split <;> rfl

theorem entries_ne_nil_of_mem_make {shape : RuleShape} {selector : String} {entries : List Written}
    {rule : WrittenRule} (h : rule ∈ make shape selector entries) : rule.entries ≠ [] := by
  rw [make] at h
  split at h <;> rename_i hempty
  · cases h
  · rw [List.mem_singleton.1 h]
    simpa using hempty

theorem flatMap_entries_make (shape : RuleShape) (selector : String) (entries : List Written) :
    (make shape selector entries).flatMap WrittenRule.entries = entries := by
  rw [make]
  split <;> rename_i hempty
  · exact (List.isEmpty_iff.1 hempty).symm
  · exact List.flatMap_singleton _ _

end WrittenRule

/-! ### Groups -/

namespace FeaturePart

/-- What parts say, gathered by selector. -/
def writtenGroups (ctx : StyleContext) (parts : List FeaturePart) : Entries (List Written) :=
  Entries.gather (parts.map fun part ↦ (part.selector, ctx.written part.styles false))

/-- Groups are gathered before or after their texts are compiled. -/
theorem groups_eq_map_writtenGroups (ctx : StyleContext) (parts : List FeaturePart) :
    groups ctx parts = (writtenGroups ctx parts).map (Prod.map id (List.map ctx.declare)) := by
  rw [groups_eq_gather, writtenGroups, ← Entries.gather_map, List.map_map]
  rfl

/-- The groups hold what the parts say. -/
theorem perm_flatMap_writtenGroups (ctx : StyleContext) (parts : List FeaturePart) :
    ((writtenGroups ctx parts).flatMap Prod.snd).Perm (written ctx parts) := by
  have hgathered := Entries.perm_flatMap_gather
    (parts.map fun part ↦ (part.selector, ctx.written part.styles false))
  rwa [List.flatMap_map] at hgathered

/-- The written rules of parts: one for each selector, under a name made of it. -/
def writtenRules (ctx : StyleContext) (name : String → String) (parts : List FeaturePart) :
    List WrittenRule :=
  (writtenGroups ctx parts).flatMap fun group ↦
    WrittenRule.make .unterminated (name group.1) group.2

/-- The rules of features are their written rules, compiled. -/
theorem map_compile_writtenRules (ctx : StyleContext) (name : String → String)
    (parts : List FeaturePart) :
    (writtenRules ctx name parts).map (WrittenRule.compile ctx) =
      (groups ctx parts).flatMap fun group ↦ Rule.make .unterminated (name group.1) group.2 := by
  simp only [writtenRules, List.map_flatMap, WrittenRule.map_compile_make,
    groups_eq_map_writtenGroups, List.flatMap_map]
  rfl

theorem perm_entries_writtenRules (ctx : StyleContext) (name : String → String)
    (parts : List FeaturePart) :
    ((writtenRules ctx name parts).flatMap WrittenRule.entries).Perm (written ctx parts) := by
  rw [writtenRules, List.flatMap_assoc]
  simp only [WrittenRule.flatMap_entries_make]
  exact perm_flatMap_writtenGroups ctx parts

end FeaturePart

/-! ### Variations -/

namespace VariationParts

/-- The written rules of a variation. -/
def writtenRules (ctx : StyleContext) (parts : VariationParts) : List WrittenRule :=
  FeaturePart.writtenRules ctx (Selector.withVariation parts.name) parts.features ++
    WrittenRule.make .unterminated parts.selector (ctx.written parts.own false)

/-- What a variation says. -/
def written (ctx : StyleContext) (parts : VariationParts) : List Written :=
  FeaturePart.written ctx parts.features ++ ctx.written parts.own false

/-- The rules of a variation are its written rules, compiled. -/
theorem map_compile_writtenRules (ctx : StyleContext) (parts : VariationParts) :
    (parts.writtenRules ctx).map (WrittenRule.compile ctx) = parts.rules ctx := by
  rw [writtenRules, List.map_append, FeaturePart.map_compile_writtenRules,
    WrittenRule.map_compile_make]
  rfl

theorem perm_entries_writtenRules (ctx : StyleContext) (parts : VariationParts) :
    ((parts.writtenRules ctx).flatMap WrittenRule.entries).Perm (parts.written ctx) := by
  rw [writtenRules, List.flatMap_append, WrittenRule.flatMap_entries_make]
  exact (FeaturePart.perm_entries_writtenRules ctx _ _).append_right _

/-- The problems met in a variation are those of the texts it says. -/
theorem diagnostics_eq (ctx : StyleContext) (parts : VariationParts) :
    parts.diagnostics ctx = (parts.written ctx).flatMap fun entry ↦ ctx.reports entry.text := by
  rw [diagnostics, written, List.flatMap_append, FeaturePart.diagnostics_eq]
  rfl

end VariationParts

/-! ### Nodes -/

namespace NodeParts

/-- The written rules that come before the layout rules of a node. -/
def rulesBefore (ctx : StyleContext) (parts : NodeParts) : List WrittenRule :=
  FeaturePart.writtenRules ctx id parts.features ++
    parts.variations.flatMap (VariationParts.writtenRules ctx) ++
    parts.duotone.toList.flatMap fun entry ↦
      WrittenRule.make .terminated entry.1 (ctx.written entry.2 false)

/-- The written rules that come after the layout rules of a node. -/
def rulesAfter (ctx : StyleContext) (node : StyleNode) (parts : NodeParts) : List WrittenRule :=
  WrittenRule.make .terminated node.selector (ctx.written parts.own node.isRoot) ++
    parts.pseudo.flatMap fun entry ↦
      WrittenRule.make .terminated (Selector.append node.selector entry.1)
        (ctx.written entry.2 false)

/-- What a node says, part by part. -/
def written (ctx : StyleContext) (node : StyleNode) (parts : NodeParts) : List Written :=
  FeaturePart.written ctx parts.features ++
    parts.variations.flatMap (VariationParts.written ctx) ++
    parts.duotone.toList.flatMap (fun entry ↦ ctx.written entry.2 false) ++
    ctx.written parts.own node.isRoot ++
    parts.pseudo.flatMap fun entry ↦ ctx.written entry.2 false

end NodeParts

namespace StyleNode

variable (node : StyleNode) (ctx : StyleContext) (variationStyles : Bool)

/-- The written rules of a node. -/
def writtenRules : List WrittenRule :=
  let parts := NodeParts.ofNode node variationStyles
  parts.rulesBefore ctx ++ parts.rulesAfter ctx node

/-- What a node says. -/
def written : List Written :=
  (NodeParts.ofNode node variationStyles).written ctx node

/-- **The rules of a node are its written rules, compiled, with the layout rules among them.** -/
theorem rules_eq (layout : List Rule) :
    node.rules ctx variationStyles layout =
      ((NodeParts.ofNode node variationStyles).rulesBefore ctx).map
          (WrittenRule.compile ctx) ++ layout ++
        ((NodeParts.ofNode node variationStyles).rulesAfter ctx node).map
          (WrittenRule.compile ctx) := by
  simp only [rules, NodeParts.rulesBefore, NodeParts.rulesAfter, List.map_append,
    List.map_flatMap, FeaturePart.map_compile_writtenRules,
    VariationParts.map_compile_writtenRules, WrittenRule.map_compile_make, List.append_assoc]
  rfl

/-- A rule of a node is a layout rule or a written rule, compiled. -/
theorem mem_rules_iff (layout : List Rule) (rule : Rule) :
    rule ∈ node.rules ctx variationStyles layout ↔
      rule ∈ layout ∨ ∃ written ∈ node.writtenRules ctx variationStyles,
        written.compile ctx = rule := by
  rw [rules_eq, writtenRules, List.mem_append, List.mem_append, List.mem_map, List.mem_map]
  constructor
  · rintro ((⟨written, hmem, heq⟩ | hlayout) | ⟨written, hmem, heq⟩)
    · exact .inr ⟨written, List.mem_append_left _ hmem, heq⟩
    · exact .inl hlayout
    · exact .inr ⟨written, List.mem_append_right _ hmem, heq⟩
  · rintro (hlayout | ⟨written, hmem, heq⟩)
    · exact .inl (.inr hlayout)
    · rcases List.mem_append.1 hmem with hmem | hmem
      · exact .inl (.inl ⟨written, hmem, heq⟩)
      · exact .inr ⟨written, hmem, heq⟩

/-- The written rules hold what the node says, each entry once. -/
theorem perm_entries_writtenRules :
    ((node.writtenRules ctx variationStyles).flatMap WrittenRule.entries).Perm
      (node.written ctx variationStyles) := by
  simp only [writtenRules, NodeParts.rulesBefore, NodeParts.rulesAfter, List.flatMap_append,
    List.flatMap_assoc, WrittenRule.flatMap_entries_make]
  have hfeatures := FeaturePart.perm_entries_writtenRules ctx id
    (NodeParts.ofNode node variationStyles).features
  have hvariations := List.Perm.flatMap_left (NodeParts.ofNode node variationStyles).variations
    fun variation _ ↦ VariationParts.perm_entries_writtenRules ctx variation
  rw [← List.append_assoc]
  exact (((hfeatures.append hvariations).append_right _).append_right _).append_right _

/-- An entry stands in a rule of a node exactly when a subtree of the node says it. -/
theorem mem_entries_writtenRules_iff (entry : Written) :
    (∃ rule ∈ node.writtenRules ctx variationStyles, entry ∈ rule.entries) ↔
      entry ∈ node.written ctx variationStyles := by
  rw [← (node.perm_entries_writtenRules ctx variationStyles).mem_iff, List.mem_flatMap]

/-- The reports of a node are those of what it says, in order. -/
theorem styleDiagnostics_eq :
    node.styleDiagnostics ctx variationStyles =
      (node.written ctx variationStyles).flatMap fun entry ↦ ctx.reports entry.text := by
  simp only [styleDiagnostics, written, NodeParts.written, List.flatMap_append,
    List.flatMap_assoc, FeaturePart.diagnostics_eq, ← VariationParts.diagnostics_eq]
  rfl

end StyleNode

end GlobalStyles
