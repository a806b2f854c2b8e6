import GlobalStyles.Proofs.Text.Braceless
import GlobalStyles.Style.Rule

/-!
# Flat stylesheets

A flat rule is a selector with a body between braces, where neither has a brace of its own and the
body says something; a flat sheet is a text of such rules, one after another. In it the braces
alternate and the last character closes the last rule.

Rules are spaced in four ways, and each way ends its last declaration differently. None of that
shows in the shape: a rule that has a declaration, and no brace in its texts, is flat
(`Rule.IsFlat.isFlatRule_text`). A colon stands in every body, so no body is blank.
-/

namespace GlobalStyles

/-! ### Texts -/

/-- A text is `S{B}`, without a brace in `S` or `B`, and `B` is not blank. -/
def IsFlatRule (text : String) : Prop :=
  ∃ selector body : String, text = selector ++ "\x7b" ++ body ++ "\x7d" ∧
    Braceless selector ∧ Braceless body ∧ ∃ c ∈ body.toList, Text.isBlank c = false

/-- A text is flat rules, one after another. -/
def IsFlatSheet (css : String) : Prop :=
  ∃ rules : List String, css = String.join rules ∧ ∀ rule ∈ rules, IsFlatRule rule

/-- Of the braces of a text, the first opens, the next one closes, and so on to the last, which
closes: none opens while another is open. -/
def BracesAlternate (s : List Char) : Prop :=
  ∃ pairs : Nat, s.filter Text.isBrace = (List.replicate pairs ['\x7b', '\x7d']).flatten

theorem Braceless.filter_isBrace {text : String} (h : Braceless text) :
    text.toList.filter Text.isBrace = [] :=
  List.filter_eq_nil_iff.2 fun c hc ↦ by rw [h c hc]; exact Bool.false_ne_true

/-- A flat rule has one brace that opens it and one that closes it. -/
theorem IsFlatRule.filter_isBrace {text : String} (h : IsFlatRule text) :
    text.toList.filter Text.isBrace = ['\x7b', '\x7d'] := by
  obtain ⟨selector, body, rfl, hselector, hbody, -⟩ := h
  -- the braces of the rule are the two around its body
  simp only [String.toList_append, List.filter_append, hselector.filter_isBrace,
    hbody.filter_isBrace, List.nil_append, List.append_nil]
  rfl

namespace IsFlatSheet

/-- **The braces of a flat sheet balance, and no rule stands in another.** -/
theorem bracesAlternate {css : String} (h : IsFlatSheet css) : BracesAlternate css.toList := by
  obtain ⟨rules, rfl, hrules⟩ := h
  refine ⟨rules.length, ?_⟩
  rw [String.toList_join]
  induction rules with
  | nil => rfl
  | cons rule rest ih =>
    obtain ⟨hrule, hrest⟩ := List.forall_mem_cons.1 hrules
    rw [List.flatMap_cons, List.filter_append, hrule.filter_isBrace, ih hrest, List.length_cons,
      List.replicate_succ, List.flatten_cons]

/-- **Nothing follows the last rule of a flat sheet.** -/
theorem getLast?_eq {css : String} (h : IsFlatSheet css) :
    ∀ c ∈ css.toList.getLast?, c = '\x7d' := by
  obtain ⟨rules, rfl, hrules⟩ := h
  rcases rules.eq_nil_or_concat' with rfl | ⟨front, last, rfl⟩
  · intro c hc
    cases hc
  · obtain ⟨selector, body, rfl, -⟩ := hrules last (by simp)
    intro c hc
    simp only [String.toList_join, List.flatMap_append, String.toList_append, List.flatMap_cons,
      List.flatMap_nil, List.append_nil, ← List.append_assoc] at hc
    rw [show "\x7d".toList = ['\x7d'] from rfl, List.getLast?_concat] at hc
    exact (Option.mem_some_iff.1 hc).symm

end IsFlatSheet

/-! ### Bodies -/

/-- A text without braces that is not blank, because a colon stands in it. -/
structure IsBody (text : String) : Prop where
  braceless : Braceless text
  colon : ':' ∈ text.toList

namespace IsBody

variable {text : String} (h : IsBody text) {other : String} (hother : Braceless other)
include h hother

/-- Text without braces before a body belongs to it. -/
theorem append_left : IsBody (other ++ text) where
  braceless := hother.append h.braceless
  colon := by
    rw [String.toList_append]
    exact List.mem_append_right _ h.colon

/-- Text without braces behind a body belongs to it. -/
theorem append_right : IsBody (text ++ other) where
  braceless := h.braceless.append hother
  colon := by
    rw [String.toList_append]
    exact List.mem_append_left _ h.colon

end IsBody

/-- Bodies with a separator between them are a body. -/
theorem IsBody.intercalate {separator : String} (hseparator : Braceless separator)
    {parts : List String} (hne : parts ≠ []) (hparts : ∀ part ∈ parts, IsBody part) :
    IsBody (separator.intercalate parts) where
  braceless := .intercalate hseparator fun part hmem ↦ (hparts part hmem).braceless
  colon := by
    obtain ⟨part, hmem⟩ := List.exists_mem_of_ne_nil _ hne
    rw [String.toList_intercalate]
    exact Text.subset_intercalate _ (List.mem_map_of_mem hmem) (hparts part hmem).colon

/-! ### Rules -/

/-- The texts of a declaration have no brace. -/
structure Declaration.IsFlat (declaration : Declaration) : Prop where
  property : Braceless declaration.property
  value : Braceless declaration.value

namespace Declaration.IsFlat

variable {declaration : Declaration} (h : declaration.IsFlat)
include h

/-- A flat declaration is a body: its property is not blank. -/
theorem isBody_text : IsBody declaration.text :=
  have hcolon : IsBody ": " := ⟨by decide, by decide⟩
  (hcolon.append_left h.property).append_right h.value

theorem isBody_tightText : IsBody declaration.tightText :=
  have hcolon : IsBody ":" := ⟨by decide, by decide⟩
  (hcolon.append_left h.property).append_right h.value

end Declaration.IsFlat

/-- A rule says something, and none of its texts has a brace. -/
structure Rule.IsFlat (rule : Rule) : Prop where
  selector : Braceless rule.selector
  declarations : ∀ declaration ∈ rule.declarations, declaration.IsFlat
  ne_nil : rule.declarations ≠ []

namespace Rule.IsFlat

variable {rule : Rule} (h : rule.IsFlat)
include h

/-- However they are written, the declarations of a rule are a body. -/
theorem isBody_intercalate {separator : String} (hseparator : Braceless separator)
    {write : Declaration → String} (hwrite : ∀ d : Declaration, d.IsFlat → IsBody (write d)) :
    IsBody (separator.intercalate (rule.declarations.map write)) := by
  refine .intercalate hseparator (by simp [h.ne_nil]) fun text hmem ↦ ?_
  obtain ⟨declaration, hdeclaration, rfl⟩ := List.mem_map.1 hmem
  exact hwrite declaration (h.declarations declaration hdeclaration)

/-- What stands between the braces has none and is not blank, however the rule is spaced. -/
theorem isBody_body : IsBody rule.body := by
  have htext (d : Declaration) (hd : d.IsFlat) : IsBody d.text := hd.isBody_text
  have htight (d : Declaration) (hd : d.IsFlat) : IsBody d.tightText := hd.isBody_tightText
  rw [body]
  cases rule.shape with
  | terminated => exact (h.isBody_intercalate (by decide) htext).append_right (by decide)
  | unterminated => exact h.isBody_intercalate (by decide) htext
  | spaced =>
    have hinner := h.isBody_intercalate (by decide : Braceless "; ") htext
    exact (hinner.append_left (by decide)).append_right (by decide)
  | tight =>
    have hinner := h.isBody_intercalate (by decide : Braceless ";") htight
    exact (hinner.append_left (by decide)).append_right (by decide)

/-- **A rule that says something without a brace has a flat text.** -/
theorem isFlatRule_text : IsFlatRule rule.text := by
  have hgap : Braceless rule.gap := by
    rw [gap]
    cases rule.shape <;> decide
  have hbody := h.isBody_body
  exact ⟨rule.selector ++ rule.gap, rule.body, rfl, h.selector.append hgap, hbody.braceless,
    ':', hbody.colon, by decide⟩

end Rule.IsFlat

/-! ### Lists of rules -/

namespace Rule

/-- Every rule of a list is flat. -/
def AllFlat (rules : List Rule) : Prop :=
  ∀ rule ∈ rules, rule.IsFlat

/-- **The text of flat rules is a flat sheet.** -/
theorem AllFlat.isFlatSheet {rules : List Rule} (h : AllFlat rules) :
    IsFlatSheet (textOfAll rules) := by
  refine ⟨rules.map text, rfl, fun rule hmem ↦ ?_⟩
  obtain ⟨own, hown, rfl⟩ := List.mem_map.1 hmem
  exact (h own hown).isFlatRule_text

theorem allFlat_nil : AllFlat [] :=
  fun _ hmem ↦ absurd hmem List.not_mem_nil

theorem AllFlat.append {a b : List Rule} (ha : AllFlat a) (hb : AllFlat b) : AllFlat (a ++ b) :=
  fun rule hmem ↦ (List.mem_append.1 hmem).elim (ha rule) (hb rule)

/-- Rules from several sources are flat if those of each are. -/
theorem AllFlat.flatMap {α : Type} {sources : List α} {rules : α → List Rule}
    (h : ∀ source ∈ sources, AllFlat (rules source)) : AllFlat (sources.flatMap rules) := by
  intro rule hmem
  obtain ⟨source, hsource, hmem⟩ := List.mem_flatMap.1 hmem
  exact h source hsource rule hmem

/-- A rule that is made of texts without braces is flat, since no rule is made of nothing. -/
theorem allFlat_make {selector : String} (hselector : Braceless selector)
    {declarations : List Declaration} (h : ∀ declaration ∈ declarations, declaration.IsFlat)
    (shape : RuleShape) : AllFlat (make shape selector declarations) := by
  intro rule hmem
  obtain ⟨hne, rfl⟩ := mem_make_iff.1 hmem
  exact ⟨hselector, h, hne⟩

end Rule

end GlobalStyles
