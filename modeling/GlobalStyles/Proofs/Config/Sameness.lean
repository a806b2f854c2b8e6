import GlobalStyles.Config.Variation
import GlobalStyles.Proofs.Stylesheet.Branches
import GlobalStyles.Proofs.Stylesheet.KeyOrder

/-!
# Configurations that compare equal

Two configurations compare equal when their styles and their settings do, whatever else they hold
and in whatever order keys stand. Each of the two things that the comparison does not look at can
show in what is compiled: the order of blocks is the order of their rules, and a `ref` may point
outside the styles and the settings.

So configurations that compare equal compile to the same bundle up to order, as long as no `ref` of
the styles points at a text that only one of them has; and to one bundle if the two branches have
their keys in the same order (`compile_of_equal_configs`). Between the two configurations stands a
third one, with the branches of the first and everything else of the second (`Config.graft`): it has
the same branches as the first, and it is the second up to the order of keys.
-/

namespace GlobalStyles

open Json Stylesheet

/-! ### Numbers -/

/-- Integers that compare equal are equal. -/
theorem Json.numbersMatch_of_int {numbers others : List Number}
    (h : ∀ n ∈ numbers, ∃ value, n = .int value) : NumbersMatch numbers others := by
  intro m hm n _ hsame
  obtain ⟨value, rfl⟩ := h m hm
  cases n with
  | int other => rw [eq_of_beq hsame]
  | float _ => cases hsame

namespace Config

/-- The numbers in the styles and in the settings. -/
def numbers (tree : Json) : List Number :=
  (tree.child "styles").numbers ++ (tree.child "settings").numbers

/-! ### Branches that compare equal -/

variable {a b : Json}

/-- Equal configurations have equal styles and equal settings. -/
theorem same_child (h : same a b = true) {key : String} (hkey : key ∈ ["styles", "settings"]) :
    (a.child key).same (b.child key) = true := by
  have hbranch := List.all_eq_true.1 h key hkey
  simp only [get?_cons, get?_nil] at hbranch
  rcases ha : (a.child key).isNull <;> rcases hb : (b.child key).isNull <;>
    simp only [ha, hb, if_true, if_false, Bool.false_eq_true] at hbranch
  · exact hbranch
  · rw [(isNull_eq_true_iff _).1 ha, (isNull_eq_true_iff _).1 hb]
    rfl

/-- The numbers of a branch are among those that count. -/
theorem numbers_child_subset {key : String} (hkey : key ∈ ["styles", "settings"]) (tree : Json) :
    (tree.child key).numbers ⊆ numbers tree := by
  rcases List.mem_pair.1 hkey with rfl | rfl
  · exact List.subset_append_left _ _
  · exact List.subset_append_right _ _

/-- **The branches of equal configurations are the same up to order.** -/
theorem reordered_child (h : same a b = true) (ha : a.WellFormed) (hb : b.WellFormed)
    (hnumbers : NumbersMatch (numbers a) (numbers b)) {key : String}
    (hkey : key ∈ ["styles", "settings"]) : (a.child key).Reordered (b.child key) :=
  reordered_of_same (wellFormed_child ha key) (wellFormed_child hb key)
    (fun m hm n hn ↦ hnumbers m (numbers_child_subset hkey a hm) n (numbers_child_subset hkey b hn))
    (same_child h hkey)

/-! ### The branches of another configuration -/

/-- A tree with another value under a key, where it has one. -/
def exchange (key : String) (value tree : Json) : Json :=
  tree.modify (fun _ ↦ value) [key]

section

variable {key : String} {value tree : Json}

theorem child_exchange_of_ne {other : String} (h : other ≠ key) :
    (exchange key value tree).child other = tree.child other := by
  rw [child, child, exchange, member?_modify, if_neg h]

/-- Exchanging a branch for a well-formed one keeps a tree well formed. -/
theorem wellFormed_exchange (htree : tree.WellFormed) (hvalue : value.WellFormed) :
    (exchange key value tree).WellFormed := by
  rcases hmember : tree.member? key with _ | old
  · rwa [exchange, modify_of_member?_eq_none hmember]
  · rw [exchange, modify_of_member? hmember]
    exact wellFormed_obj_put (wellFormed_obj_entries htree) hvalue key

variable (h : value.Reordered (tree.child key))
include h

theorem child_exchange : (exchange key value tree).child key = value := by
  rw [child, exchange, member?_modify, if_pos rfl]
  rcases hmember : tree.member? key with _ | old
  · -- nothing stands under the key, and only `null` is `null` up to the order of keys
    rw [child, hmember] at h
    cases value with
    | null => rfl
    | _ => cases h
  · rfl

/-- An exchange of branches that are the same up to order is one of order. -/
theorem reordered_exchange (htree : tree.WellFormed) :
    (exchange key value tree).Reordered tree := by
  rcases hmember : tree.member? key with _ | old
  · rw [exchange, modify_of_member?_eq_none hmember]
  · rw [child, hmember] at h
    cases tree with
    | obj fields =>
      rw [exchange, modify_of_member? hmember]
      refine reordered_obj_of_get? (Entries.nodup_keys_put htree.1 _ _) htree.1 fun other ↦ ?_
      by_cases hother : other = key
      · rw [hother, Entries.get?_put_self]
        rw [member?_obj] at hmember
        rw [hmember]
        exact congrArg some h
      · rw [Entries.get?_put_of_ne _ _ hother]
        rfl
    | _ => cases hmember

end

/-- A configuration with the styles and the settings of another one. -/
def graft (source tree : Json) : Json :=
  exchange "settings" (source.child "settings") (exchange "styles" (source.child "styles") tree)

section

variable (h : same a b = true) (ha : a.WellFormed) (hb : b.WellFormed)
  (hnumbers : NumbersMatch (numbers a) (numbers b))
include h ha hb hnumbers

/-- The settings stay when the styles are exchanged. -/
theorem reordered_settings_exchange : (a.child "settings").Reordered
    ((exchange "styles" (a.child "styles") b).child "settings") := by
  rw [child_exchange_of_ne (by decide)]
  exact reordered_child h ha hb hnumbers (by decide)

theorem sameBranches_graft : SameBranches a (graft a b) where
  settings := (child_exchange (reordered_settings_exchange h ha hb hnumbers)).symm
  styles := by
    rw [graft, child_exchange_of_ne (by decide)]
    exact (child_exchange (reordered_child h ha hb hnumbers (by decide))).symm

/-- The graft differs from the tree below in order only. -/
theorem reordered_graft : (graft a b).Reordered b :=
  (reordered_exchange (reordered_settings_exchange h ha hb hnumbers)
      (wellFormed_exchange hb (wellFormed_child ha _))).trans
    (reordered_exchange (reordered_child h ha hb hnumbers (by decide)) hb)

end

theorem wellFormed_graft (ha : a.WellFormed) (hb : b.WellFormed) : (graft a b).WellFormed :=
  wellFormed_exchange (wellFormed_exchange hb (wellFormed_child ha _)) (wellFormed_child ha _)

/-- A place that says the same in both trees says it in the graft. -/
theorem samePlace_graft {place : String} (h : SamePlace a b place) :
    SamePlace a (graft a b) place := by
  by_cases hin : InBranches place
  · exact .inl hin
  · obtain ⟨key, path, hkeys⟩ := exists_placeKeys place
    have hkey := (inBranches_iff hkeys).not.1 hin
    rw [not_or] at hkey
    refine .inr ((h.resolve_left hin).trans ?_)
    rw [textAt?, textAt?, hkeys, get?_cons, get?_cons, graft, child_exchange_of_ne hkey.2,
      child_exchange_of_ne hkey.1]

end Config

/-- **Configurations that compare equal compile to the same bundle up to order**, and to one bundle
if their styles and settings have their keys in the same order. No `ref` of the styles may point at
a text that is another one in the other configuration, and where numbers that compare equal are not
equal, as the two zeros, nothing is said. -/
theorem compile_of_equal_configs {a b : Json} (h : Config.same a b = true) (ha : a.WellFormed)
    (hb : b.WellFormed) (hrefs : (a.child "styles").Meets (.refs (SamePlace a b)))
    (registry : Registry) (options : CompileOptions) :
    (NumbersMatch (Config.numbers a) (Config.numbers b) →
        (compile a registry options).SameUpToOrder (compile b registry options)) ∧
      (a.get? ["styles"] = b.get? ["styles"] → a.get? ["settings"] = b.get? ["settings"] →
        compile a registry options = compile b registry options) := by
  constructor
  · intro hnumbers
    rw [compile_of_sameBranches (Config.sameBranches_graft h ha hb hnumbers)
      (fun _ hplace ↦ Config.samePlace_graft hplace) hrefs registry options]
    exact compile_of_reordered (Config.reordered_graft h ha hb hnumbers)
      (Config.wellFormed_graft ha hb) hb registry options
  · intro hstyles hsettings
    have hread (tree : Json) (key : String) : tree.child key = (tree.get? [key]).getD null := by
      rw [get?_cons, get?_nil]
      split <;> rename_i hnull
      · exact (isNull_eq_true_iff _).1 hnull
      · rfl
    have hbranches : SameBranches a b :=
      ⟨⟨by rw [hread, hread, hsettings]⟩, by rw [hread, hread, hstyles]⟩
    exact compile_of_sameBranches hbranches (fun _ hplace ↦ hplace) hrefs registry options

/-- A configuration with a title and some blocks. -/
def titled (title : String) (blocks : Fields) : Json :=
  .obj
    [("title", .str title),
      ("styles", .obj [("color", .obj [("text", .str "red")]), ("blocks", .obj blocks)])]

/-- A card whose text has the colour that stands at a place. -/
def cardAt (place : String) : String × Json :=
  ("core/card", .obj
    [("color", .obj [("text", .obj [("ref", .str place)])]), ("css", .str "top: 0")])

/-- A note with high lines. -/
def tallNote : String × Json :=
  ("core/note", .obj
    [("typography", .obj [("lineHeight", .num (.int 2))]), ("css", .str "top: 1px")])

/-- A card in the colour of the styles, and a note after it. -/
def cardFirst (title : String) : Json :=
  titled title [cardAt "styles.color.text", tallNote]

/-- The same with the note before the card. -/
def noteFirst (title : String) : Json :=
  titled title [tallNote, cardAt "styles.color.text"]

/-- A card in the colour that the title names. -/
def cardOfTitle (title : String) : Json :=
  titled title [cardAt "title"]

/-- The registry of cards and notes. -/
def registryOfPapers : Registry :=
  [("core/card", .ofSelector ".card"), ("core/note", .ofSelector ".note")]

/-- A card in the colour of the styles is the same under every title, and before or after the
note. -/
theorem compile_of_equal_configs_card :
    Config.same (cardFirst "blue") (noteFirst "green") = true ∧
      (compile (cardFirst "blue") registryOfPapers .standard).SameUpToOrder
        (compile (noteFirst "green") registryOfPapers .standard) ∧
      compile (cardFirst "blue") registryOfPapers .standard =
        compile (cardFirst "green") registryOfPapers .standard := by
  have hturned : Config.same (cardFirst "blue") (noteFirst "green") = true := by decide
  have hrenamed : Config.same (cardFirst "blue") (cardFirst "green") = true := by decide
  have hwell (title : String) : (cardFirst title).WellFormed ∧ (noteFirst title).WellFormed := by
    simp [cardFirst, noteFirst, titled, cardAt, tallNote, Json.WellFormed, FieldsWellFormed]
  have hrefs (other : Json) :
      ((cardFirst "blue").child "styles").Meets (.refs (SamePlace (cardFirst "blue") other)) := by
    have hplace : SamePlace (cardFirst "blue") other "styles.color.text" :=
      .inl (by decide +kernel)
    generalize SamePlace (cardFirst "blue") other = places at hplace ⊢
    simp [cardFirst, titled, cardAt, tallNote, child, Entries.get?, Meets, FieldsMeet, Norm.refs,
      Json.text?, hplace]
  have hnumbers : NumbersMatch (Config.numbers (cardFirst "blue"))
      (Config.numbers (noteFirst "green")) :=
    numbersMatch_of_int fun n hn ↦ ⟨2, List.mem_singleton.1 hn⟩
  obtain ⟨horder, -⟩ := compile_of_equal_configs hturned (hwell "blue").1 (hwell "green").2
    (hrefs _) registryOfPapers .standard
  obtain ⟨-, hequal⟩ := compile_of_equal_configs hrenamed (hwell "blue").1 (hwell "green").1
    (hrefs _) registryOfPapers .standard
  exact ⟨hturned, horder hnumbers, hequal rfl rfl⟩

/-- **Configurations that compare equal need not compile equally.** The author's texts come in the
order of the blocks, and a card can have its colour from the title. -/
theorem compile_ne_of_equal_configs :
    (Config.same (cardFirst "blue") (noteFirst "blue") = true ∧
        compile (cardFirst "blue") registryOfPapers .standard ≠
          compile (noteFirst "blue") registryOfPapers .standard) ∧
      Config.same (cardOfTitle "blue") (cardOfTitle "green") = true ∧
        compile (cardOfTitle "blue") registryOfPapers .standard ≠
          compile (cardOfTitle "green") registryOfPapers .standard := by
  have hfirst : (compile (cardFirst "blue") registryOfPapers .standard).customCss =
      ".card\x7btop: 0\x7d.note\x7btop: 1px\x7d" := by
    decide +kernel
  have hsecond : (compile (noteFirst "blue") registryOfPapers .standard).customCss =
      ".note\x7btop: 1px\x7d.card\x7btop: 0\x7d" := by
    decide +kernel
  have hblue : (compile (cardOfTitle "blue") registryOfPapers .standard).styles.filter
      (fun rule ↦ rule.selector = ".card") =
        [⟨".card", [⟨"color", "blue"⟩], .terminated⟩] := by
    decide +kernel
  have hgreen : (compile (cardOfTitle "green") registryOfPapers .standard).styles.filter
      (fun rule ↦ rule.selector = ".card") =
        [⟨".card", [⟨"color", "green"⟩], .terminated⟩] := by
    decide +kernel
  refine ⟨⟨by decide, fun h ↦ ?_⟩, by decide, fun h ↦ ?_⟩
  · rw [h, hsecond] at hfirst
    revert hfirst
    decide
  · rw [h, hgreen] at hblue
    revert hblue
    decide

end GlobalStyles
