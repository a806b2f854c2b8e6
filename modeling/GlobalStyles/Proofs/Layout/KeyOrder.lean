import GlobalStyles.Layout.Rules
import GlobalStyles.Proofs.Json.Sameness

/-!
# Layout rules of reordered definitions

The order of keys shows twice in layout rules: the kinds come in the order in which they are
defined, and the declarations of a template in the order of its rules. Reading a kind does not
depend on it otherwise, so kinds that are read of reordered definitions are the same in some order,
up to the order of declarations (`LayoutKind.perm_all`), and so are their rules
(`StyleNode.perm_content_layoutRules`).
-/

namespace GlobalStyles

open Json

/-! ### Typed reading -/

namespace Decode

variable {β γ : Type}

theorem text?_inKeyOrder (value : Json) : text? value.inKeyOrder = text? value := by
  cases value <;> rfl

theorem nullable?_text?_inKeyOrder (value : Json) :
    nullable? text? value.inKeyOrder = nullable? text? value := by
  cases value <;> rfl

/-- Members are read in the order in which they stand. -/
theorem fields?_inKeyOrder (value : Json) :
    value.inKeyOrder.fields? = value.fields?.map fun fields ↦ (obj fields).inKeyOrder.entries := by
  cases value <;> rfl

/-- Reading turned items gives turned results, if it does so item by item. -/
theorem mapM_map_of_forall {α α' : Type} {turn : α → α'} {made : β → γ} {read : α → Option β}
    {other : α' → Option γ} (h : ∀ item, other (turn item) = (read item).map made)
    (items : List α) : (items.map turn).mapM other = (items.mapM read).map (List.map made) := by
  induction items with
  | nil => rfl
  | cons item rest ih =>
    rw [List.map_cons, List.mapM_cons, List.mapM_cons, h, ih]
    rcases read item with _ | first
    · rfl
    · rcases rest.mapM read with _ | others <;> rfl

/-- A list is read item by item, each in key order. -/
theorem list?_inKeyOrder {read : Json → Option β} {made : β → β}
    (h : ∀ value : Json, read value.inKeyOrder = (read value).map made) (value : Json) :
    list? read value.inKeyOrder = (list? read value).map (List.map made) := by
  cases value with
  | arr items =>
    rw [inKeyOrder, itemsInKeyOrder_eq]
    exact mapM_map_of_forall h items
  | _ => rfl

/-- A member or its default is read in either order. -/
theorem memberOr?_inKeyOrder {read : Json → Option β} {made : β → β}
    (h : ∀ value : Json, read value.inKeyOrder = (read value).map made) {default : β}
    (hdefault : made default = default) (member : Option Json) :
    memberOr? read default (member.map inKeyOrder) = (memberOr? read default member).map made := by
  cases member with
  | none => exact congrArg some hdefault.symm
  | some value => exact h value

theorem memberOr?_inKeyOrder_of_eq {read : Json → Option β}
    (h : ∀ value : Json, read value.inKeyOrder = read value) (default : β)
    (member : Option Json) :
    memberOr? read default (member.map inKeyOrder) = memberOr? read default member := by
  cases member with
  | none => rfl
  | some value => exact h value

/-- The value of the only entry, if there is one. -/
def once : Fields → Option (Option Json)
  | [] => some none
  | [entry] => some (some entry.2)
  | _ => none

theorem once_eq_none {entries : Fields} (h : 2 ≤ entries.length) : once entries = none := by
  rcases entries with _ | ⟨first, _ | ⟨second, rest⟩⟩
  · simp at h
  · simp at h
  · rfl

/-- Whether a key stands once does not depend on an order. -/
theorem once_perm {entries others : Fields} (h : entries.Perm others) :
    once entries = once others := by
  rcases entries with _ | ⟨first, _ | ⟨second, rest⟩⟩
  · rw [h.nil_eq]
  · rw [h.singleton_eq]
  · have hlength : 2 ≤ (first :: second :: rest).length := by simp
    rw [once_eq_none hlength, once_eq_none (h.length_eq ▸ hlength)]

/-- The entry that stands once, in key order. -/
theorem once_map (entries : Fields) :
    once (entries.map (Prod.map id inKeyOrder)) = (once entries).map (Option.map inKeyOrder) := by
  rcases entries with _ | ⟨first, _ | ⟨second, rest⟩⟩ <;> rfl

/-- A member of a record is the one entry with its key. -/
theorem member?_eq_once (fields : Fields) (key : String) :
    member? fields key = once (fields.filter fun entry ↦ entry.1 == key) := by
  rw [member?]
  generalize fields.filter (fun entry ↦ entry.1 == key) = entries
  rcases entries with _ | ⟨first, _ | ⟨second, rest⟩⟩ <;> rfl

/-- A record has the same members, in either of its two forms. -/
theorem record?_inKeyOrder (keys : List String) (value : Json) :
    record? keys value.inKeyOrder =
      (record? keys value).map (List.map (Option.map inKeyOrder)) := by
  have hobj (fields : Fields) : record? keys (.obj fields) = keys.mapM (member? fields) := by
    have hkeyed : (fields.map fun entry ↦ (some entry.1, entry.2)).mapM (keyed? some) =
        some fields := by
      have hread := @mapM_map_of_forall _ _ (String × Json) _ (fun entry ↦ (some entry.1, entry.2))
        id some (keyed? some) (fun _ ↦ rfl) fields
      have hall : fields.mapM some = some (fields.map id) := List.mapM_pure
      rw [hread, hall, Option.map_some, List.map_id, List.map_id]
    show ((fields.map fun entry ↦ (some entry.1, entry.2)).mapM (keyed? some)).bind _ = _
    rw [hkeyed]
    rfl
  cases value with
  | obj fields =>
    have hmember (key : String) :
        member? (Entries.sorted (fieldsInKeyOrder fields)) key =
          (member? fields key).map (Option.map inKeyOrder) := by
      rw [member?_eq_once, once_perm ((Entries.sorted_perm _).filter _), fieldsInKeyOrder_eq,
        List.filter_map, once_map, member?_eq_once]
      rfl
    have hread := @mapM_map_of_forall _ _ _ _ id _ _ _ hmember keys
    rw [inKeyOrder, hobj, hobj, ← hread, List.map_id]
  | arr items =>
    rw [inKeyOrder, itemsInKeyOrder_eq]
    simp only [record?, Viewed.view, List.length_map]
    split
    · simp only [Option.map_some, List.map_append, List.map_map, List.map_replicate,
        Option.map_none]
      rfl
    · rfl
  | _ => rfl

end Decode

/-! ### Kinds -/

namespace LayoutStyle

/-- A template with its rules in the order of their properties. -/
def inKeyOrder (style : LayoutStyle) : LayoutStyle :=
  { style with rules := (Json.obj style.rules).inKeyOrder.entries }

open Decode in
/-- **A template is read in either order**, and its rules come out in that order. -/
theorem decode?_inKeyOrder (value : Json) :
    decode? value.inKeyOrder = (decode? value).map inKeyOrder := by
  rw [decode?, decode?, record?_inKeyOrder]
  rcases record? ["selector", "rules"] value with _ | members
  · rfl
  · rcases members with _ | ⟨selector, _ | ⟨rules, _ | ⟨_, _⟩⟩⟩
    · rfl
    · rfl
    · have hselector := memberOr?_inKeyOrder_of_eq Decode.text?_inKeyOrder "" selector
      have hnil : (Json.obj []).inKeyOrder.entries = [] := List.mergeSort_nil
      have hrules := memberOr?_inKeyOrder fields?_inKeyOrder hnil rules
      simp only [Option.map_some, List.map_cons, List.map_nil, Option.bind_eq_bind,
        Option.bind_some, hselector, hrules]
      rcases memberOr? Decode.text? "" selector with _ | selector
      · rfl
      · rcases memberOr? Json.fields? [] rules with _ | rules <;> rfl
    · rfl

variable (style : LayoutStyle)

/-- A spacing style declares the same, in some order. -/
theorem perm_spacing_inKeyOrder (gap : String) :
    (style.inKeyOrder.spacing gap).Perm (style.spacing gap) := by
  have hperm := (perm_entries_inKeyOrder (.obj style.rules)).map
    fun entry ↦ Declaration.mk entry.1 ((entry.2.css?.filter (· ≠ "")).getD gap)
  rw [List.map_map] at hperm
  refine hperm.trans (.of_eq (List.map_congr_left fun entry _ ↦ ?_))
  simp only [Function.comp_apply, Prod.map_fst, Prod.map_snd, id, css?_inKeyOrder]

theorem perm_base_inKeyOrder : style.inKeyOrder.base.Perm style.base := by
  have hperm := (perm_entries_inKeyOrder (.obj style.rules)).filterMap
    fun entry ↦ entry.2.css?.map (Declaration.mk entry.1 ·)
  rw [List.filterMap_map] at hperm
  refine hperm.trans (.of_eq (List.filterMap_congr fun entry _ ↦ ?_))
  simp only [Function.comp_apply, Prod.map_fst, Prod.map_snd, id, css?_inKeyOrder]

end LayoutStyle

namespace LayoutKind

/-- A kind with the rules of its templates in the order of their properties. -/
def inKeyOrder (kind : LayoutKind) : LayoutKind :=
  { kind with
    baseStyles := kind.baseStyles.map LayoutStyle.inKeyOrder
    spacingStyles := kind.spacingStyles.map LayoutStyle.inKeyOrder }

open Decode in
/-- **A layout kind is read in either order**, with its templates in that order. -/
theorem decode?_inKeyOrder (value : Json) :
    decode? value.inKeyOrder = (decode? value).map inKeyOrder := by
  rw [decode?, decode?, record?_inKeyOrder]
  rcases record? memberKeys value with _ | members
  · rfl
  · rcases members with _ | ⟨name, _ | ⟨slug, _ | ⟨className, _ | ⟨displayMode, _ |
      ⟨baseStyles, _ | ⟨spacingStyles, _ | ⟨_, _⟩⟩⟩⟩⟩⟩⟩
    case some.cons.cons.cons.cons.cons.cons.nil =>
      have htext := memberOr?_inKeyOrder_of_eq Decode.text?_inKeyOrder ""
      have hmode := memberOr?_inKeyOrder_of_eq nullable?_text?_inKeyOrder none displayMode
      have hstyles := memberOr?_inKeyOrder (list?_inKeyOrder LayoutStyle.decode?_inKeyOrder)
        List.map_nil
      simp only [Option.map_some, List.map_cons, List.map_nil, Option.bind_eq_bind,
        Option.bind_some, htext, hmode, hstyles]
      rcases memberOr? Decode.text? "" name with _ | name
      · rfl
      rcases memberOr? Decode.text? "" slug with _ | slug
      · rfl
      rcases memberOr? Decode.text? "" className with _ | className
      · rfl
      rcases memberOr? (nullable? Decode.text?) none displayMode with _ | displayMode
      · rfl
      rcases memberOr? (list? LayoutStyle.decode?) [] baseStyles with _ | baseStyles
      · rfl
      rcases memberOr? (list? LayoutStyle.decode?) [] spacingStyles with _ | spacingStyles <;> rfl
    all_goals rfl

/-- The name of a kind does not depend on an order. -/
theorem ofMember?_inKeyOrder (key : String) (value : Json) :
    ofMember? (key, value.inKeyOrder) = (ofMember? (key, value)).map inKeyOrder := by
  rw [ofMember?, ofMember?, decode?_inKeyOrder, Option.map_map, Option.map_map]
  refine Option.map_congr fun kind _ ↦ ?_
  simp only [Function.comp_apply]
  show (if kind.name = "" then _ else _) = _
  split <;> rfl

/-- **Reordered definitions have the same kinds**, in some order. -/
theorem perm_all {a b : Json} (h : a.Reordered b) (ha : a.WellFormed) (hb : b.WellFormed) :
    ((all a).map inKeyOrder).Perm ((all b).map inKeyOrder) := by
  have hentries (tree : Json) :
      ((tree.get? ["settings", "layout", "definitions"]).map entries).getD [] =
        (((tree.child "settings").child "layout").child "definitions").entries := by
    rw [get?_cons, get?_cons, entries_get?]
  have hlayout := (h.child ha hb "settings").child (wellFormed_child ha _)
    (wellFormed_child hb _) "layout"
  have hwell {tree : Json} (htree : tree.WellFormed) :
      ((tree.child "settings").child "layout").WellFormed :=
    wellFormed_child (wellFormed_child htree _) _
  rw [all, all, hentries, hentries, List.map_filterMap, List.map_filterMap,
    List.filterMap_eq_flatMap_toList, List.filterMap_eq_flatMap_toList]
  refine (hlayout.child (hwell ha) (hwell hb) "definitions").perm_flatMap_entries
    (wellFormed_child (hwell ha) _) (wellFormed_child (hwell hb) _) fun key v w hvalue _ _ ↦ ?_
  rw [← ofMember?_inKeyOrder, ← ofMember?_inKeyOrder, hvalue.inKeyOrder_eq]

end LayoutKind

/-! ### Rules -/

/-- The order of its declarations does not show in the content of a rule. -/
theorem Rule.map_content_make {declarations others : List Declaration}
    (h : declarations.Perm others) (shape : RuleShape) (selector : String) :
    (make shape selector declarations).map content = (make shape selector others).map content := by
  rw [make, make, h.isEmpty_eq]
  split
  · rfl
  · simp only [List.map_cons, List.map_nil, content, Multiset.coe_eq_coe.2 h]

namespace StyleNode

variable (node : StyleNode)

/-- The spacing rules of a node say the same. -/
theorem map_content_spacingRules (kinds : List LayoutKind) (blockGap : Bool) (gap : String) :
    (node.spacingRules (kinds.map LayoutKind.inKeyOrder) blockGap gap).map Rule.content =
      (node.spacingRules kinds blockGap gap).map Rule.content := by
  rw [spacingRules, spacingRules, List.filter_map, List.flatMap_map, List.map_flatMap,
    List.map_flatMap]
  refine List.flatMap_congr fun kind _ ↦ ?_
  rw [LayoutKind.inKeyOrder, List.flatMap_map, List.map_flatMap, List.map_flatMap]
  exact List.flatMap_congr fun style _ ↦
    Rule.map_content_make (style.perm_spacing_inKeyOrder gap) _ _

theorem map_content_baseRules (kind : LayoutKind) :
    (baseRules kind.inKeyOrder).map Rule.content = (baseRules kind).map Rule.content := by
  have hstyles : ((kind.baseStyles.map LayoutStyle.inKeyOrder).flatMap fun style ↦
        Rule.make .spaced (rootSelector ++ " " ++ kind.target style) style.base).map Rule.content =
      (kind.baseStyles.flatMap fun style ↦
        Rule.make .spaced (rootSelector ++ " " ++ kind.target style) style.base).map
          Rule.content := by
    rw [List.flatMap_map, List.map_flatMap, List.map_flatMap]
    exact List.flatMap_congr fun style _ ↦ Rule.map_content_make style.perm_base_inKeyOrder _ _
  rw [baseRules, baseRules, List.map_append, List.map_append]
  exact congrArg _ hstyles

variable (gap : GapSupport) (space : String)

/-- **The layout rules of a node say the same** for kinds in key order. -/
theorem map_content_layoutRules (kinds : List LayoutKind) :
    (node.layoutRules (kinds.map LayoutKind.inKeyOrder) gap space).map Rule.content =
      (node.layoutRules kinds gap space).map Rule.content := by
  rw [layoutRules, layoutRules, List.isEmpty_map]
  split
  · rfl
  · simp only [List.filter_map, List.map_append]
    have hbase (chosen : List LayoutKind) :
        ((chosen.map LayoutKind.inKeyOrder).flatMap baseRules).map Rule.content =
          (chosen.flatMap baseRules).map Rule.content := by
      rw [List.flatMap_map, List.map_flatMap, List.map_flatMap]
      exact List.flatMap_congr fun kind _ ↦ map_content_baseRules kind
    congr 1
    · rcases node.gap? gap space with _ | value
      · rfl
      · simp only [List.map_append, map_content_spacingRules]
        rfl
    · split
      · exact hbase _
      · rfl

/-- Kinds in another order have their rules in another order. -/
theorem layoutRules_perm {kinds others : List LayoutKind} (h : kinds.Perm others) :
    (node.layoutRules kinds gap space).Perm (node.layoutRules others gap space) := by
  rw [layoutRules, layoutRules, h.isEmpty_eq]
  split
  · exact .nil
  · have hchosen := h.filter fun kind ↦ gap.blockGap || kind.name != LayoutKind.defaultName
    refine .append ?_ ?_
    · rcases node.gap? gap space with _ | value
      · exact .nil
      · exact ((hchosen.filter _).flatMap_right _).append_right _
    · split
      · exact hchosen.flatMap_right _
      · exact .nil

/-- **Kinds that are the same up to the order of keys have the same rules**, in some order. -/
theorem perm_content_layoutRules {kinds others : List LayoutKind}
    (h : (kinds.map LayoutKind.inKeyOrder).Perm (others.map LayoutKind.inKeyOrder)) :
    ((node.layoutRules kinds gap space).map Rule.content).Perm
      ((node.layoutRules others gap space).map Rule.content) := by
  rw [← map_content_layoutRules, ← map_content_layoutRules node gap space others]
  exact (layoutRules_perm node gap space h).map _

end StyleNode

end GlobalStyles
