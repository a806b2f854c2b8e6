import GlobalStyles.Nesting
import GlobalStyles.Proofs.Text.Blank
import Mathlib.Data.List.Basic

/-!
# Nested author CSS, piece by piece

A nested text is a sequence of runs of declarations and of rules that begin with `&`, with blanks
around them, where no run stands beside another (`MadeOf`). The text is split at `&` and not parsed,
so what matters is how the pieces lie between two `&`: first there may be a run, and then comes one
rule after the other, each with the run or the blanks behind it. `NestedText` is this form of a
text, and every sequence of pieces has it (`MadeOf.exists_nestedText`).

The part of a rule has a brace in it. So it is taken for the rule alone, and a run behind the rule
comes out as it is, without the selector of the scope (`expand_text`). The runs that lose their
selector that way can be counted by their closing braces (`count_flatMap_pieces`): the rules are the
ones that the pieces ask for exactly if no run stands behind a rule (`MadeOf.expand_eq_iff`).
-/

namespace GlobalStyles.Nesting

open Text (IsBlankText)

/-! ### Pieces -/

/-- A text without `&` and without braces. -/
def IsPlain (s : List Char) : Prop :=
  ∀ c ∈ s, c ≠ '&' ∧ c ≠ '\x7b' ∧ c ≠ '\x7d'

instance (s : List Char) : Decidable (IsPlain s) :=
  List.decidableBAll _ _

theorem IsPlain.append {a b : List Char} (ha : IsPlain a) (hb : IsPlain b) : IsPlain (a ++ b) :=
  List.forall_mem_append.2 ⟨ha, hb⟩

theorem IsPlain.of_isBlankText {s : List Char} (h : IsBlankText s) : IsPlain s := by
  intro c hc
  have hblank := h c hc
  refine ⟨?_, ?_, ?_⟩ <;> rintro rfl <;> exact absurd hblank (by decide)

/-- A run of declarations, without the blanks at its ends, or a nested rule. -/
inductive Piece
  | run (declarations : List Char)
  | rule (suffix body : List Char)

/-- Whether a piece is a run. -/
def Piece.isRun : Piece → Bool
  | run _ => true
  | rule _ _ => false

/-- The rule of a piece for a selector. -/
def Piece.expansion (selector : String) : Piece → List Char
  | run declarations => selector.toList ++ '\x7b' :: declarations ++ ['\x7d']
  | rule suffix body =>
    (Selector.append selector (String.ofList suffix)).toList ++ '\x7b' :: body ++ ['\x7d']

/-- A text that is made of pieces, in their order, with blanks before, between and behind them. A
run is not blank, and no run follows on a run. -/
inductive MadeOf : List Char → List Piece → Prop
  | nil : MadeOf [] []
  | blanks {blanks text : List Char} {pieces : List Piece} (hblanks : IsBlankText blanks)
    (hrest : MadeOf text pieces) : MadeOf (blanks ++ text) pieces
  | run {declarations text : List Char} {pieces : List Piece} (hplain : IsPlain declarations)
    (hrun : ¬IsBlankText declarations) (hnext : ∀ next ∈ pieces.head?, next.isRun = false)
    (hrest : MadeOf text pieces) :
    MadeOf (declarations ++ text) (.run (Text.trim declarations) :: pieces)
  | rule {suffix body text : List Char} {pieces : List Piece} (hsuffix : IsPlain suffix)
    (hbody : IsPlain body) (hrest : MadeOf text pieces) :
    MadeOf ('&' :: (suffix ++ '\x7b' :: (body ++ '\x7d' :: text))) (.rule suffix body :: pieces)

/-! ### What lies between two `&` -/

/-- The piece of a text without rules: its run, or nothing if it is blank. -/
def runs (s : List Char) : List Piece :=
  if IsBlankText s then [] else [.run (Text.trim s)]

/-- A nested rule with what stands behind it up to the next one, which is a run or blank. -/
structure NestedRule where
  suffix : List Char
  body : List Char
  behind : List Char
  suffix_plain : IsPlain suffix
  body_plain : IsPlain body
  behind_plain : IsPlain behind

/-- A text of nested rules, with what stands before the first one, which is a run or blank. -/
structure NestedText where
  first : List Char
  rules : List NestedRule
  first_plain : IsPlain first

namespace NestedRule

/-- The text of a rule and of what stands behind it, from behind its `&`. -/
def part (rule : NestedRule) : List Char :=
  rule.suffix ++ '\x7b' :: (rule.body ++ '\x7d' :: rule.behind)

def pieces (rule : NestedRule) : List Piece :=
  .rule rule.suffix rule.body :: runs rule.behind

/-- What becomes of a rule and of what stands behind it: the rule for the selector, and then the
rest as it is. -/
def expansion (selector : String) (rule : NestedRule) : List Char :=
  (Piece.rule rule.suffix rule.body).expansion selector ++ Text.trimEnd rule.behind

theorem notMem_part (rule : NestedRule) : '&' ∉ rule.part := by
  have hsuffix : '&' ∉ rule.suffix := fun h ↦ (rule.suffix_plain _ h).1 rfl
  have hbody : '&' ∉ rule.body := fun h ↦ (rule.body_plain _ h).1 rfl
  have hbehind : '&' ∉ rule.behind := fun h ↦ (rule.behind_plain _ h).1 rfl
  simp [part, hsuffix, hbody, hbehind]

end NestedRule

namespace NestedText

def text (t : NestedText) : List Char :=
  t.first ++ t.rules.flatMap fun rule ↦ '&' :: rule.part

def pieces (t : NestedText) : List Piece :=
  runs t.first ++ t.rules.flatMap NestedRule.pieces

/-- What becomes of a text: the rule of the run that comes first, if there is one, and then what
becomes of the rules. -/
def expansion (selector : String) (t : NestedText) : List Char :=
  (runs t.first).flatMap (Piece.expansion selector) ++
    t.rules.flatMap (NestedRule.expansion selector)

end NestedText

theorem runs_of_isBlankText {s : List Char} (h : IsBlankText s) : runs s = [] :=
  if_pos h

theorem runs_of_not_isBlankText {s : List Char} (h : ¬IsBlankText s) :
    runs s = [.run (Text.trim s)] :=
  if_neg h

/-- Blanks around a run do not show in its piece. -/
theorem runs_append {a b : List Char} (ha : IsBlankText a) (hb : IsBlankText b) (s : List Char) :
    runs (a ++ (s ++ b)) = runs s := by
  have hiff : IsBlankText (a ++ (s ++ b)) ↔ IsBlankText s := by
    rw [← Text.trim_eq_nil_iff, Text.trim_append_of_isBlankText ha hb, Text.trim_eq_nil_iff]
  rw [runs, runs, Text.trim_append_of_isBlankText ha hb]
  exact if_congr hiff rfl rfl

/-- What stands before the first rule is blank if no run comes first. -/
theorem NestedText.isBlankText_first {t : NestedText}
    (h : ∀ next ∈ t.pieces.head?, next.isRun = false) : IsBlankText t.first := by
  by_contra hfirst
  have hrun := h (.run (Text.trim t.first)) (by
    rw [pieces, runs_of_not_isBlankText hfirst]
    rfl)
  exact Bool.noConfusion hrun

/-- **Every sequence of pieces is a text of nested rules.** -/
theorem MadeOf.exists_nestedText {text : List Char} {pieces : List Piece} (h : MadeOf text pieces) :
    ∃ t : NestedText, t.text = text ∧ t.pieces = pieces := by
  induction h with
  | nil => exact ⟨⟨[], [], by decide⟩, rfl, rfl⟩
  | @blanks blanks _ _ hblanks _ ih =>
    obtain ⟨t, rfl, rfl⟩ := ih
    refine ⟨⟨blanks ++ t.first, t.rules, (IsPlain.of_isBlankText hblanks).append t.first_plain⟩,
      List.append_assoc .., ?_⟩
    have hruns := runs_append hblanks (b := []) (by decide) t.first
    rw [List.append_nil] at hruns
    rw [NestedText.pieces, hruns, NestedText.pieces]
  | @run declarations _ _ hplain hrun hnext _ ih =>
    obtain ⟨t, rfl, rfl⟩ := ih
    have hfirst := NestedText.isBlankText_first hnext
    refine ⟨⟨declarations ++ t.first, t.rules, hplain.append t.first_plain⟩,
      List.append_assoc .., ?_⟩
    have hruns := runs_append (a := []) (by decide) hfirst declarations
    rw [List.nil_append] at hruns
    rw [NestedText.pieces, hruns, NestedText.pieces, runs_of_isBlankText hfirst,
      runs_of_not_isBlankText hrun]
    rfl
  | @rule suffix body _ _ hsuffix hbody _ ih =>
    obtain ⟨t, rfl, rfl⟩ := ih
    refine ⟨⟨[], ⟨suffix, body, t.first, hsuffix, hbody, t.first_plain⟩ :: t.rules, by decide⟩,
      ?_, ?_⟩
    · simp [NestedText.text, NestedRule.part]
    · have hruns : runs [] = [] := runs_of_isBlankText (by decide)
      rw [NestedText.pieces, hruns, List.flatMap_cons]
      rfl

/-! ### The rules of the parts -/

section

variable (selector : String)

/-- What stands before the first rule becomes the rule of its run. -/
theorem expandPart_of_isPlain {part : List Char} (h : IsPlain part) :
    expandPart selector part = (runs part).flatMap (Piece.expansion selector) := by
  have hbody : part.dropWhile (· != '\x7b') = [] :=
    List.dropWhile_eq_nil_iff.2 fun c hc ↦ bne_iff_ne.2 (h c hc).2.1
  rw [expandPart, hbody]
  by_cases hblank : IsBlankText part
  · simp [runs_of_isBlankText hblank, (Text.trim_eq_nil_iff part).2 hblank]
  · simp [runs_of_not_isBlankText hblank, (Text.trim_eq_nil_iff part).not.2 hblank,
      Piece.expansion]

/-- **A run behind a rule is printed with the rule, as it is.** -/
theorem expandPart_part (rule : NestedRule) :
    expandPart selector rule.part = rule.expansion selector := by
  have hsuffix : ∀ c ∈ rule.suffix, (c != '\x7b') = true :=
    fun c hc ↦ bne_iff_ne.2 (rule.suffix_plain c hc).2.1
  have hopen : rule.part.takeWhile (· != '\x7b') = rule.suffix := by
    rw [NestedRule.part, List.takeWhile_append_of_pos hsuffix]
    simp
  have hbody : rule.part.dropWhile (· != '\x7b') =
      '\x7b' :: (rule.body ++ '\x7d' :: rule.behind) := by
    rw [NestedRule.part, List.dropWhile_append_of_pos hsuffix]
    simp
  have hclose : ¬IsBlankText ('\x7d' :: rule.behind) :=
    fun h ↦ absurd (h _ List.mem_cons_self) (by decide)
  rw [expandPart, hopen, hbody, if_neg (by simp), Text.trimEnd_cons (by decide),
    Text.trimEnd_append_of_not_isBlankText hclose, Text.trimEnd_cons (by decide)]
  simp [NestedRule.expansion, Piece.expansion]

theorem splitOn_append_rules {first : List Char} (hfirst : '&' ∉ first)
    (rules : List NestedRule) :
    (first ++ rules.flatMap fun rule ↦ '&' :: rule.part).splitOn '&' =
      first :: rules.map NestedRule.part := by
  induction rules generalizing first with
  | nil => simp [List.splitOn_eq_singleton hfirst]
  | cons rule rest ih =>
    rw [List.flatMap_cons, List.cons_append, List.splitOn_append_cons_self_of_not_mem hfirst,
      ih rule.notMem_part, List.map_cons]

/-- **What comes out of a text of nested rules.** -/
theorem expand_text (t : NestedText) :
    expand (String.ofList t.text) selector = String.ofList (t.expansion selector) := by
  have hfirst : '&' ∉ t.first := fun h ↦ (t.first_plain _ h).1 rfl
  rw [expand, String.toList_ofList, NestedText.text, splitOn_append_rules hfirst,
    List.flatMap_cons, expandPart_of_isPlain selector t.first_plain, List.flatMap_map]
  simp only [expandPart_part, NestedText.expansion]

/-! ### Runs without their selector -/

/-- A run that has lost its selector has lost the closing brace of its rule. -/
theorem count_expansion_pieces (rule : NestedRule) :
    (rule.pieces.flatMap (Piece.expansion selector)).count '\x7d' =
      (rule.expansion selector).count '\x7d' +
        if IsBlankText rule.behind then 0 else selector.toList.count '\x7d' + 1 := by
  have hplain : '\x7d' ∉ rule.behind := fun h ↦ (rule.behind_plain _ h).2.2 rfl
  have hbehind : (Text.trimEnd rule.behind).count '\x7d' = 0 :=
    List.count_eq_zero.2 fun h ↦ hplain (Text.trimEnd_subset _ h)
  have htrim : (Text.trim rule.behind).count '\x7d' = 0 :=
    List.count_eq_zero.2 fun h ↦ hplain (Text.trim_subset _ h)
  rw [NestedRule.pieces, List.flatMap_cons, NestedRule.expansion, List.count_append,
    List.count_append, hbehind, Nat.add_zero, Nat.add_left_cancel_iff]
  split
  case isTrue hblank => rw [runs_of_isBlankText hblank]; rfl
  case isFalse hblank =>
    rw [runs_of_not_isBlankText hblank]
    simp [Piece.expansion, htrim]

theorem count_flatMap_pieces (rules : List NestedRule) :
    (rules.flatMap fun rule ↦ rule.pieces.flatMap (Piece.expansion selector)).count '\x7d' =
      (rules.flatMap (NestedRule.expansion selector)).count '\x7d' +
        rules.countP (fun rule ↦ ¬IsBlankText rule.behind) *
          (selector.toList.count '\x7d' + 1) := by
  induction rules with
  | nil => simp
  | cons rule rest ih =>
    rw [List.flatMap_cons, List.flatMap_cons, List.count_append, List.count_append, ih,
      count_expansion_pieces, List.countP_cons]
    by_cases hblank : IsBlankText rule.behind <;> simp [hblank, Nat.add_mul] <;> omega

/-- The rules are those of the pieces exactly if only blanks stand behind the nested rules. -/
theorem NestedText.expand_eq_pieces_iff (t : NestedText) :
    expand (String.ofList t.text) selector =
        String.ofList (t.pieces.flatMap (Piece.expansion selector)) ↔
      ∀ rule ∈ t.rules, IsBlankText rule.behind := by
  rw [expand_text, String.ofList_inj, NestedText.expansion, NestedText.pieces,
    List.flatMap_append, List.flatMap_assoc, List.append_cancel_left_eq]
  constructor
  · intro h rule hrule
    have hcount := count_flatMap_pieces selector t.rules
    rw [← h, Nat.left_eq_add, Nat.mul_eq_zero, or_iff_left (Nat.succ_ne_zero _),
      List.countP_eq_zero] at hcount
    simpa using hcount rule hrule
  · intro h
    refine List.flatMap_congr fun rule hrule ↦ ?_
    rw [NestedRule.expansion, NestedRule.pieces, runs_of_isBlankText (h rule hrule),
      (Text.trimEnd_eq_nil_iff _).2 (h rule hrule)]
    simp

end

theorem forall_runs_iff (s : List Char) :
    (∀ piece ∈ runs s, piece.isRun = false) ↔ IsBlankText s := by
  by_cases h : IsBlankText s
  · simp [runs_of_isBlankText h, h]
  · simp [runs_of_not_isBlankText h, h, Piece.isRun]

theorem forall_flatMap_pieces_iff (rules : List NestedRule) :
    (∀ piece ∈ rules.flatMap NestedRule.pieces, piece.isRun = false) ↔
      ∀ rule ∈ rules, IsBlankText rule.behind := by
  induction rules with
  | nil => simp
  | cons rule rest ih =>
    rw [List.flatMap_cons, List.forall_mem_append, ih, List.forall_mem_cons, NestedRule.pieces,
      List.forall_mem_cons, forall_runs_iff, and_iff_right (show Piece.isRun _ = false from rfl)]

theorem forall_mem_tail_iff {pieces : List Piece}
    (h : ∀ first ∈ pieces.head?, first.isRun = false) :
    (∀ piece ∈ pieces.tail, piece.isRun = false) ↔ ∀ piece ∈ pieces, piece.isRun = false := by
  rcases pieces with _ | ⟨first, rest⟩
  · rfl
  · rw [List.forall_mem_cons, List.tail_cons, and_iff_right (h first rfl)]

/-- A run that is not the first piece stands behind a rule. -/
theorem NestedText.forall_tail_pieces_iff (t : NestedText) :
    (∀ piece ∈ t.pieces.tail, piece.isRun = false) ↔
      ∀ rule ∈ t.rules, IsBlankText rule.behind := by
  rw [← forall_flatMap_pieces_iff, NestedText.pieces]
  by_cases hfirst : IsBlankText t.first
  · rw [runs_of_isBlankText hfirst, List.nil_append]
    refine forall_mem_tail_iff ?_
    rcases t.rules with _ | ⟨rule, rest⟩
    · simp
    · simp [NestedRule.pieces, Piece.isRun]
  · rw [runs_of_not_isBlankText hfirst, List.singleton_append, List.tail_cons]

/-- **A nested text is expanded piece by piece exactly if no run stands behind a rule.** A run that
comes first becomes a rule for the selector, and so does every nested rule; what stands behind a
nested rule comes out as it is, but for the blanks at its end. -/
theorem MadeOf.expand_eq_iff {text : List Char} {pieces : List Piece} (h : MadeOf text pieces)
    (selector : String) :
    (∃ t : NestedText, t.text = text ∧ t.pieces = pieces ∧
        expand (String.ofList text) selector = String.ofList (t.expansion selector)) ∧
      (expand (String.ofList text) selector =
          String.ofList (pieces.flatMap (Piece.expansion selector)) ↔
        ∀ piece ∈ pieces.tail, piece.isRun = false) := by
  obtain ⟨t, rfl, rfl⟩ := h.exists_nestedText
  refine ⟨⟨t, rfl, rfl, expand_text selector t⟩, ?_⟩
  rw [t.expand_eq_pieces_iff, t.forall_tail_pieces_iff]

/-- A run that comes first becomes a rule of its own. -/
theorem expand_eq_of_run_first :
    MadeOf "color: red; &:hover\x7bcolor: blue;\x7d".toList
        [.run "color: red;".toList, .rule ":hover".toList "color: blue;".toList] ∧
      expand "color: red; &:hover\x7bcolor: blue;\x7d" ".q" =
        ".q\x7bcolor: red;\x7d.q:hover\x7bcolor: blue;\x7d" := by
  have hrule : MadeOf "&:hover\x7bcolor: blue;\x7d".toList
      [.rule ":hover".toList "color: blue;".toList] := by
    simpa using @MadeOf.rule ":hover".toList "color: blue;".toList _ _ (by decide +kernel)
      (by decide +kernel) .nil
  have hrun : MadeOf ("color: red; ".toList ++ "&:hover\x7bcolor: blue;\x7d".toList)
      [.run (Text.trim "color: red; ".toList), .rule ":hover".toList "color: blue;".toList] :=
    .run (by decide +kernel) (by decide +kernel) (by decide) hrule
  have htrim : Text.trim "color: red; ".toList = "color: red;".toList := by decide +kernel
  rw [← String.toList_append, htrim] at hrun
  exact ⟨hrun, ((hrun.expand_eq_iff ".q").2.2 (by decide)).trans (by decide +kernel)⟩

/-- **A run behind a rule loses its selector.** -/
theorem expand_ne_of_run_behind_rule :
    MadeOf "&:hover\x7bcolor: blue;\x7d color: red;".toList
        [.rule ":hover".toList "color: blue;".toList, .run "color: red;".toList] ∧
      expand "&:hover\x7bcolor: blue;\x7d color: red;" ".q" =
        ".q:hover\x7bcolor: blue;\x7d color: red;" ∧
      expand "&:hover\x7bcolor: blue;\x7d color: red;" ".q" ≠
        String.ofList ([.rule ":hover".toList "color: blue;".toList,
          .run "color: red;".toList].flatMap (Piece.expansion ".q")) := by
  have hrun : MadeOf (" color: red;".toList ++ []) [.run (Text.trim " color: red;".toList)] :=
    .run (by decide +kernel) (by decide +kernel) (by decide) .nil
  have htrim : Text.trim " color: red;".toList = "color: red;".toList := by decide +kernel
  rw [htrim] at hrun
  refine ⟨?_, by decide +kernel, by decide +kernel⟩
  simpa using @MadeOf.rule ":hover".toList "color: blue;".toList _ _ (by decide +kernel)
    (by decide +kernel) hrun

end GlobalStyles.Nesting
