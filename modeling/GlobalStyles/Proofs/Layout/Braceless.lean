import GlobalStyles.Layout.Rules
import GlobalStyles.Proofs.Style.Braceless

/-!
# Layout rules without braces

A layout kind is read from a tree, and its class, its display mode and its templates go into rules.
Reading makes nothing up: where the tree meets a norm, so does every part that is read of it. This
is stated for the readers of `Decode` one by one (`Decode.Reads`), and a kind follows as it is put
together from them. Its rules are then flat for every node whose selector and gap have no brace.
-/

namespace GlobalStyles

open Json (Norm)

/-! ### Typed reading -/

namespace Decode

variable {β : Type} {norm : Norm} {good : β → Prop} {read : Json → Option β}

/-- What is read of values that meet a norm is good. -/
def Reads (norm : Norm) (good : β → Prop) (read : Json → Option β) : Prop :=
  ∀ ⦃value : Json⦄ ⦃made : β⦄, value.Meets norm → read value = some made → good made

theorem reads_text? : Reads norm norm.text text? := by
  intro value made h hread
  cases value with
  | str text =>
    cases hread
    exact h
  | _ => cases hread

/-- Members that are read make an object that meets the norm. -/
theorem reads_fields? : Reads norm (fun fields ↦ (Json.obj fields).Meets norm) Json.fields? := by
  intro value made h hread
  cases value with
  | obj fields =>
    cases hread
    exact h
  | _ => cases hread

/-- What may be `null` is read as well as what may not. -/
theorem reads_nullable? (h : Reads norm good read) :
    Reads norm (fun made ↦ ∀ own ∈ made, good own) (nullable? read) := by
  intro value made hvalue hread own hown
  cases value with
  | null => cases hread; cases hown
  | _ =>
    obtain ⟨made, hmade, rfl⟩ := Option.map_eq_some_iff.1 hread
    cases hown
    exact h hvalue hmade

/-- All that is made of a list, one by one, is good, where each is. -/
theorem forall_mem_of_mapM {α : Type} {make : α → Option β} {sources : List α} {made : List β}
    (h : ∀ source ∈ sources, ∀ own, make source = some own → good own)
    (hmade : sources.mapM make = some made) : ∀ own ∈ made, good own := by
  induction sources generalizing made with
  | nil =>
    cases hmade
    exact List.forall_mem_nil _
  | cons source rest ih =>
    rw [List.mapM_cons] at hmade
    obtain ⟨first, hfirst, hmade⟩ := Option.bind_eq_some_iff.1 hmade
    obtain ⟨others, hothers, hmade⟩ := Option.bind_eq_some_iff.1 hmade
    cases hmade
    obtain ⟨hsource, hrest⟩ := List.forall_mem_cons.1 h
    exact List.forall_mem_cons.2 ⟨hsource first hfirst, ih hrest hothers⟩

theorem reads_list? (h : Reads norm good read) :
    Reads norm (fun made ↦ ∀ own ∈ made, good own) (list? read) := by
  intro value made hvalue hread
  cases value with
  | arr items =>
    have hitems := (Json.itemsMeet_iff items).1 hvalue
    exact forall_mem_of_mapM (fun item hmem own hown ↦ h (hitems item hmem) hown) hread
  | _ => cases hread

/-- A member that is missing or meets a norm. -/
def MemberMeets (norm : Norm) (member : Option Json) : Prop :=
  ∀ value ∈ member, value.Meets norm

/-- A member, or its default, is as good as the reader promises. -/
theorem good_of_memberOr? (h : Reads norm good read) {default : β} (hdefault : good default)
    {member : Option Json} (hmember : MemberMeets norm member) {made : β}
    (hread : memberOr? read default member = some made) : good made := by
  cases member with
  | none =>
    cases hread
    exact hdefault
  | some value => exact h (hmember value rfl) hread

/-- A member that stands once meets what its object meets. -/
theorem memberMeets_of_member? {fields : Fields} (h : ∀ entry ∈ fields, entry.2.Meets norm)
    {key : String} {member : Option Json} (hmember : member? fields key = some member) :
    MemberMeets norm member := by
  rw [member?] at hmember
  split at hmember <;> rename_i hfound
  · cases hmember
    intro value hvalue
    cases hvalue
  · rename_i entry
    cases hmember
    intro value hvalue
    cases hvalue
    have hentry : entry ∈ fields.filter fun entry ↦ entry.1 == key :=
      hfound ▸ List.mem_singleton_self entry
    exact h entry (List.mem_filter.1 hentry).1
  · cases hmember

/-- The members of a record meet what the record does, in either of its two forms. -/
theorem reads_record? (keys : List String) :
    Reads norm (fun members ↦ ∀ member ∈ members, MemberMeets norm member) (record? keys) := by
  intro value members hvalue hread
  cases value with
  | obj fields =>
    obtain ⟨keyed, hkeyed, hread⟩ := Option.bind_eq_some_iff.1 hread
    have hentries : ∀ entry ∈ keyed, entry.2.Meets norm := by
      refine forall_mem_of_mapM (fun entry hmem own hown ↦ ?_) hkeyed
      obtain ⟨source, hsource, rfl⟩ := List.mem_map.1 hmem
      cases hown
      exact ((Json.meets_obj_iff fields).1 hvalue source hsource).2
    -- each member is the value of an entry
    exact forall_mem_of_mapM (fun key _ own hown ↦ memberMeets_of_member? hentries hown) hread
  | arr items =>
    have hitems := (Json.itemsMeet_iff items).1 hvalue
    simp only [record?, Viewed.view] at hread
    split at hread
    · cases hread
      intro member hmember value hown
      -- the items come first, then the members that are missing
      rcases List.mem_append.1 hmember with hmem | hmem
      · obtain ⟨item, hitem, rfl⟩ := List.mem_map.1 hmem
        cases hown
        exact hitems _ hitem
      · rw [List.eq_of_mem_replicate hmem] at hown
        cases hown
    · cases hread
  | _ => cases hread

end Decode

/-! ### Kinds -/

/-- No brace stands in a template. -/
structure LayoutStyle.IsBraceless (style : LayoutStyle) : Prop where
  selector : Braceless style.selector
  rules : (Json.obj style.rules).Meets .braceless

/-- No brace stands in what goes from a kind into rules. -/
structure LayoutKind.IsBraceless (kind : LayoutKind) : Prop where
  className : Braceless kind.className
  displayMode : ∀ mode ∈ kind.displayMode, Braceless mode
  baseStyles : ∀ style ∈ kind.baseStyles, style.IsBraceless
  spacingStyles : ∀ style ∈ kind.spacingStyles, style.IsBraceless

open Decode

/-- **A template of a tree without braces has none.** -/
theorem LayoutStyle.reads_decode? : Reads .braceless IsBraceless decode? := by
  intro value style hvalue hread
  obtain ⟨members, hrecord, hread⟩ := Option.bind_eq_some_iff.1 hread
  have hmembers := reads_record? _ hvalue hrecord
  split at hread
  · simp only [List.forall_mem_cons] at hmembers
    obtain ⟨hselector, hrules, -⟩ := hmembers
    obtain ⟨selector, hown, hread⟩ := Option.bind_eq_some_iff.1 hread
    obtain ⟨rules, hfields, hread⟩ := Option.bind_eq_some_iff.1 hread
    cases hread
    have hnothing : (Json.obj []).Meets Norm.braceless := trivial
    exact ⟨good_of_memberOr? reads_text? (by decide : Braceless "") hselector hown,
      good_of_memberOr? reads_fields? hnothing hrules hfields⟩
  · cases hread

namespace LayoutKind

/-- **A layout kind of a tree without braces has none.** -/
theorem reads_decode? : Reads .braceless IsBraceless decode? := by
  intro value kind hvalue hread
  obtain ⟨members, hrecord, hread⟩ := Option.bind_eq_some_iff.1 hread
  have hmembers := reads_record? _ hvalue hrecord
  split at hread
  · simp only [List.forall_mem_cons] at hmembers
    obtain ⟨-, -, hclass, hmode, hbase, hspacing, -⟩ := hmembers
    obtain ⟨_, -, hread⟩ := Option.bind_eq_some_iff.1 hread
    obtain ⟨_, -, hread⟩ := Option.bind_eq_some_iff.1 hread
    obtain ⟨className, hownClass, hread⟩ := Option.bind_eq_some_iff.1 hread
    obtain ⟨displayMode, hownMode, hread⟩ := Option.bind_eq_some_iff.1 hread
    obtain ⟨baseStyles, hownBase, hread⟩ := Option.bind_eq_some_iff.1 hread
    obtain ⟨spacingStyles, hownSpacing, hread⟩ := Option.bind_eq_some_iff.1 hread
    cases hread
    have hstyles := reads_list? LayoutStyle.reads_decode?
    have hnothing : ∀ style ∈ ([] : List LayoutStyle), style.IsBraceless := List.forall_mem_nil _
    have hno : ∀ mode ∈ (none : Option String), Braceless mode := fun _ hmode ↦ by cases hmode
    exact
      { className := good_of_memberOr? reads_text? (by decide : Braceless "") hclass hownClass
        displayMode := good_of_memberOr? (reads_nullable? reads_text?) hno hmode hownMode
        baseStyles := good_of_memberOr? hstyles hnothing hbase hownBase
        spacingStyles := good_of_memberOr? hstyles hnothing hspacing hownSpacing }
  · cases hread

/-- **No kind of a tree without braces has one.** -/
theorem isBraceless_of_mem_all {tree : Json} (h : tree.Meets .braceless) {kind : LayoutKind}
    (hkind : kind ∈ all tree) : kind.IsBraceless := by
  rw [all] at hkind
  rcases hget : tree.get? ["settings", "layout", "definitions"] with _ | definitions
  · rw [hget] at hkind
    cases hkind
  · rw [hget] at hkind
    obtain ⟨member, hmember, hmake⟩ := List.mem_filterMap.1 hkind
    obtain ⟨own, hown, rfl⟩ := Option.map_eq_some_iff.1 hmake
    have hown := reads_decode? ((h.of_get? hget).of_mem_entries hmember).2 hown
    -- the key only becomes a name
    split
    · exact ⟨hown.className, hown.displayMode, hown.baseStyles, hown.spacingStyles⟩
    · exact hown

/-- The selector of a template is made of its class and its own text. -/
theorem IsBraceless.target {kind : LayoutKind} (h : kind.IsBraceless) {style : LayoutStyle}
    (hstyle : style.IsBraceless) : Braceless (kind.target style) :=
  ((by decide : Braceless ".").append h.className).append hstyle.selector

end LayoutKind

/-! ### Rules -/

namespace LayoutStyle.IsBraceless

variable {style : LayoutStyle} (h : style.IsBraceless)
include h

/-- What a spacing style declares is flat, for a gap without braces. -/
theorem isFlat_of_mem_spacing {gap : String} (hgap : Braceless gap) :
    ∀ declaration ∈ style.spacing gap, declaration.IsFlat := by
  intro declaration hmem
  obtain ⟨⟨key, value⟩, hentry, rfl⟩ := List.mem_map.1 hmem
  obtain ⟨hkey, hvalue⟩ := (Json.meets_obj_iff _).1 h.rules _ hentry
  refine ⟨hkey, ?_⟩
  show Braceless ((value.css?.filter (· ≠ "")).getD gap)
  rcases hcss : value.css?.filter (· ≠ "") with _ | text
  · exact hgap
  · exact hvalue.css? (Option.filter_eq_some_iff.1 hcss).1

theorem isFlat_of_mem_base : ∀ declaration ∈ style.base, declaration.IsFlat := by
  intro declaration hmem
  obtain ⟨entry, hentry, hsome⟩ := List.mem_filterMap.1 hmem
  obtain ⟨text, htext, rfl⟩ := Option.map_eq_some_iff.1 hsome
  obtain ⟨hkey, hvalue⟩ := (Json.meets_obj_iff _).1 h.rules entry hentry
  exact ⟨hkey, hvalue.css? htext⟩

end LayoutStyle.IsBraceless

namespace StyleNode

open Rule (AllFlat allFlat_nil allFlat_make)

variable {node : StyleNode} (hselector : Braceless node.selector)

include hselector in
/-- However it is wrapped, the selector of a spacing rule has no brace. -/
theorem braceless_spacingSelector {target : String} (htarget : Braceless target)
    (blockGap : Bool) : Braceless (node.spacingSelector blockGap target) := by
  have hwhere : Braceless ":where(" := by decide
  have hown := hselector.appendToParts htarget
  unfold spacingSelector
  split
  · exact (by decide : Braceless (rootSelector ++ " ")).append htarget
  · exact hown
  · exact (hwhere.append htarget).append (by decide)
  · exact (hwhere.append hown).append (by decide)

theorem allFlat_baseRules {kind : LayoutKind} (h : kind.IsBraceless) :
    AllFlat (baseRules kind) := by
  have hroot : Braceless (rootSelector ++ " ") := by decide
  refine .append (.flatMap fun mode hmode ↦ ?_) (.flatMap fun style hstyle ↦ ?_)
  · have hown := h.displayMode mode (Option.filter_eq_some_iff.1 (Option.mem_toList.1 hmode)).1
    refine allFlat_make ((by decide : Braceless (rootSelector ++ " .")).append h.className) ?_ _
    exact List.forall_mem_singleton.2 ⟨(by decide : Braceless "display"), hown⟩
  · have hstyle := h.baseStyles style hstyle
    exact allFlat_make (hroot.append (h.target hstyle)) hstyle.isFlat_of_mem_base _

include hselector in
/-- The spacing rules of a node are flat, for a gap without braces. -/
theorem allFlat_spacingRules {kinds : List LayoutKind} (hkinds : ∀ kind ∈ kinds, kind.IsBraceless)
    (blockGap : Bool) {gap : String} (hgap : Braceless gap) :
    AllFlat (node.spacingRules kinds blockGap gap) := by
  refine .flatMap fun kind hkind ↦ .flatMap fun style hstyle ↦ ?_
  have hkind := hkinds kind (List.mem_filter.1 hkind).1
  have hstyle := hkind.spacingStyles style hstyle
  exact allFlat_make (braceless_spacingSelector hselector (hkind.target hstyle) blockGap)
    (hstyle.isFlat_of_mem_spacing hgap) _

theorem allFlat_gapProperty {gap space : String} (hgap : Braceless gap)
    (hspace : Braceless space) : AllFlat (gapProperty gap space) := by
  have hname := ((by decide : Braceless "--").append hspace).append
    (by decide : Braceless "--style--block-gap")
  exact allFlat_make (by decide) (List.forall_mem_singleton.2 ⟨hname, hgap⟩) _

/-- The gap of a node is its own, that of the registry, or the fixed one of the root. -/
theorem braceless_of_gap? (hstyles : node.styles.Meets .braceless)
    (hfallback : ∀ gap ∈ node.fallbackGap, Braceless gap) {support : GapSupport} {space : String}
    (hspace : Braceless space) {gap : String} (h : node.gap? support space = some gap) :
    Braceless gap := by
  have hown : ∀ own, (if support.blockGap then
      (node.styles.get? ["spacing", "blockGap"]).bind (GapSupport.css? · space)
      else none) = some own → Braceless own := by
    intro own hown
    split at hown
    · obtain ⟨value, hget, hcss⟩ := Option.bind_eq_some_iff.1 hown
      exact hspace.gap? (hstyles.of_get? hget) hcss
    · cases hown
  simp only [gap?] at h
  -- the root always has a gap; another node may fall back to that of the registry
  split at h
  · cases h
    generalize (if support.blockGap then _ else none) = own at hown
    rcases own with - | own
    · decide
    · exact hown own rfl
  · split at h
    · rcases Option.or_eq_some_iff.1 h with h | ⟨-, h⟩
      · exact hfallback gap h
      · exact hown gap h
    · exact hown gap h

/-- **The layout rules of a node are flat** where its selector, its gaps and the kinds have no
brace. -/
theorem allFlat_layoutRules (hselector : Braceless node.selector)
    (hstyles : node.styles.Meets .braceless)
    (hfallback : ∀ gap ∈ node.fallbackGap, Braceless gap) {kinds : List LayoutKind}
    (hkinds : ∀ kind ∈ kinds, kind.IsBraceless) (support : GapSupport) {space : String}
    (hspace : Braceless space) : AllFlat (node.layoutRules kinds support space) := by
  have hkept : ∀ kind ∈ kinds.filter fun kind ↦
      support.blockGap || kind.name != LayoutKind.defaultName, kind.IsBraceless :=
    fun kind hkind ↦ hkinds kind (List.mem_filter.1 hkind).1
  simp only [layoutRules]
  split
  · exact allFlat_nil
  · refine .append ?_ ?_
    · split <;> rename_i hgap
      · exact allFlat_nil
      · have hgap := braceless_of_gap? hstyles hfallback hspace hgap
        refine .append (allFlat_spacingRules hselector hkept _ hgap) ?_
        split
        · exact allFlat_gapProperty hgap hspace
        · exact allFlat_nil
    · split
      · exact .flatMap fun kind hkind ↦ allFlat_baseRules (hkept kind hkind)
      · exact allFlat_nil

end StyleNode

end GlobalStyles
