import GlobalStyles.Proofs.Config.Overlay
import GlobalStyles.Proofs.Entries
import GlobalStyles.Proofs.Json.Child

/-!
# The algebra of layers

Laying a user's layer over a tree a second time changes nothing, and three layers give the same tree
whichever two of them are merged first, the order of keys included (`Config.merge_layers`).

The word for the inherited typeface is rewritten in an upper layer only, so the two groupings turn
it into `null` at different moments: a layer that was merged into another one asks no more. That
does no harm, since `null` is laid over a value as the wish would have been. Objects are what needs
a condition. A value of the middle layer that is no object hides the branches of the base, and an
object of the top layer over it does not bring them back; merged from the top down, it never did.

Both laws go through the members: what holds of the values under each key holds of the entries.
The first is a case of another one. A layer leaves a tree exactly if it repeats what is there
(`Config.Repeats`), and a tree that a layer was merged into repeats the layer.
-/

namespace GlobalStyles.Config

/-! ### What stands under a key -/

/-- What the user has at a path, if anything, laid over what the base has there. -/
def overlayMember (path : List String) (base user : Option Json) :
    Except ConfigError (Option Json) :=
  match user with
  | none => .ok base
  | some value => (overlayValue path base value).map some

@[simp] theorem overlayMember_none (path : List String) (base : Option Json) :
    overlayMember path base none = .ok base :=
  rfl

theorem overlayMember_some {path : List String} {base merged : Option Json} {value : Json} :
    overlayMember path base (some value) = .ok merged ↔
      ∃ laid, overlayValue path base value = .ok laid ∧ merged = some laid := by
  rw [overlayMember]
  rcases overlayValue path base value with _ | laid
  · simp [Except.map]
  · simp [Except.map, eq_comm]

/-- Entries are laid over entries key by key. -/
theorem overlayMember_get? {path : List String} {fields made merged : Fields}
    (hnodup : (Entries.keys fields).Nodup) (h : overlayFields path made fields = .ok merged)
    (key : String) :
    overlayMember (path ++ [key]) (Entries.get? made key) (Entries.get? fields key) =
      .ok (Entries.get? merged key) := by
  rcases hget : Entries.get? fields key with _ | value
  · have hkey : key ∉ Entries.keys fields := by simp [Entries.mem_keys_iff, hget]
    rw [overlayMember_none, get?_overlayFields_of_notMem h hkey]
  · obtain ⟨laid, hlaid, hmerged⟩ := exists_overlayValue hnodup h hget
    exact overlayMember_some.2 ⟨laid, hlaid, hmerged⟩

/-! ### Values -/

/-- Only the word asks for the inherited typeface. -/
theorem overlayValue_of_ne {value : Json} (h : value ≠ .str "default") (path : List String)
    (base : Option Json) : overlayValue path base value = overlay path base value := by
  rw [overlayValue, if_neg fun hfont ↦ h (asksForInheritedFont_iff.1 hfont).2]

/-- An object over anything is its entries over those that are there; what is missing or no object
has none. -/
theorem overlayValue_obj {path : List String} {base : Option Json} {fields : Fields}
    {merged : Json} (h : overlayValue path base (.obj fields) = .ok merged) :
    ∃ made, overlayFields path ((base.map Json.entries).getD []) fields = .ok made ∧
      merged = .obj made := by
  rw [overlayValue_of_ne (by simp)] at h
  exact overlay_obj h

/-- What is no object is laid over everything alike. -/
theorem overlayValue_congr_base {path : List String} {user : Json} (huser : user.isObject = false)
    (base other : Option Json) : overlayValue path base user = overlayValue path other user := by
  rw [overlayValue, overlayValue]
  cases user with
  | obj fields => cases huser
  | _ => simp only [overlay]

/-- What a value without members was merged to is merged to itself. -/
theorem eq_of_overlayValue_again {path : List String} {base other : Option Json}
    {user merged again : Json} (huser : user.isObject = false)
    (h : overlayValue path base user = .ok merged)
    (hagain : overlayValue path other merged = .ok again) : again = merged := by
  rw [overlayValue] at h
  split at h <;> rename_i hfont
  · cases h
    rw [overlayValue_of_ne (by simp)] at hagain
    exact eq_of_overlay_of_not_isObject rfl hagain
  · obtain rfl := eq_of_overlay_of_not_isObject huser h
    rw [overlayValue, if_neg hfont] at hagain
    exact eq_of_overlay_of_not_isObject huser hagain

/-! ### A layer twice -/

/-- Entries that leave what is there under each of their keys leave everything. -/
theorem overlayFields_self {path : List String} {fields merged : Fields}
    (h : ∀ key value, (key, value) ∈ fields → ∃ laid, Entries.get? merged key = some laid ∧
      overlayValue (path ++ [key]) (some laid) value = .ok laid) :
    overlayFields path merged fields = .ok merged := by
  induction fields with
  | nil => exact overlayFields_nil path merged
  | cons entry rest ih =>
    obtain ⟨key, value⟩ := entry
    obtain ⟨laid, hget, hlaid⟩ := h key value (List.mem_cons_self ..)
    refine overlayFields_cons.2 ⟨laid, hget ▸ hlaid, ?_⟩
    rw [Entries.put_of_get? merged hget]
    exact ih fun key value hmem ↦ h key value (List.mem_cons_of_mem _ hmem)

/-- A value says nothing new over another: where it has an object, an object is there already, and
whatever else it has is there already, a wish for the inherited typeface as `null`. -/
structure Repeats (above : List String) (user base : Json) : Prop where
  value : ∀ path v, user.find? path = some v → v.isObject = false →
    base.find? path = some (if asksForInheritedFont (above ++ path) v then .null else v)
  object : ∀ path fields, user.find? path = some (.obj fields) →
    ∃ made, base.find? path = some (.obj made)

/-- What repeats another does so under each of its keys. -/
theorem Repeats.exists_member {above : List String} {fields : Fields} {base value : Json}
    {key : String} (h : Repeats above (.obj fields) base)
    (hget : Entries.get? fields key = some value) :
    ∃ member, base.member? key = some member ∧ Repeats (above ++ [key]) value member := by
  have huser (path : List String) : (Json.obj fields).find? (key :: path) = value.find? path := by
    rw [Json.find?_cons, Json.member?_obj, hget, Option.bind_some]
  obtain ⟨member, hmember⟩ : ∃ member, base.member? key = some member := by
    rcases hmember : base.member? key with _ | member
    · cases hobject : value.isObject
      · have hvalue := h.value [key] value (huser []) hobject
        rw [Json.find?_cons, hmember] at hvalue
        cases hvalue
      · obtain ⟨inner, rfl⟩ := Json.exists_obj hobject
        obtain ⟨made, hmade⟩ := h.object [key] inner (huser [])
        rw [Json.find?_cons, hmember] at hmade
        cases hmade
    · exact ⟨member, rfl⟩
  have hbase (path : List String) : base.find? (key :: path) = member.find? path := by
    rw [Json.find?_cons, hmember, Option.bind_some]
  refine ⟨member, hmember, fun path v hv hobject ↦ ?_, fun path inner hinner ↦ ?_⟩
  · rw [← hbase, h.value (key :: path) v ((huser path).trans hv) hobject, List.append_assoc,
      List.singleton_append]
  · rw [← hbase]
    exact h.object (key :: path) inner ((huser path).trans hinner)

/-- What came of laying a value over another repeats it. -/
theorem repeats_of_overlayValue {user : Json} (huser : user.WellFormed) {path : List String}
    {base : Option Json} {merged : Json} (h : overlayValue path base user = .ok merged) :
    Repeats path user merged := by
  rw [overlayValue] at h
  split at h <;> rename_i hfont
  · cases h
    obtain ⟨-, rfl⟩ := asksForInheritedFont_iff.1 hfont
    have hend (rest : List String) (v : Json) (hv : (Json.str "default").find? rest = some v) :
        rest = [] := by
      rcases rest with _ | ⟨key, rest⟩
      · rfl
      · cases hv
    refine ⟨fun rest v hv _ ↦ ?_, fun rest fields hfields ↦ ?_⟩
    · obtain rfl := hend rest v hv
      cases hv
      rw [List.append_nil, if_pos hfont]
      rfl
    · obtain rfl := hend rest _ hfields
      cases hfields
  · refine ⟨fun rest v hv hobject ↦ ?_, fun rest fields hfields ↦ ?_⟩
    · rw [(overlayLaw rest huser h).value v hv hobject]
      rcases rest with _ | ⟨key, rest⟩
      · cases hv
        rw [List.append_nil, if_neg hfont, if_neg fun hif ↦ hif.1 rfl]
      · simp
    · obtain ⟨made, hmade, -⟩ := (overlayLaw rest huser h).object fields hfields
      exact ⟨made, hmade⟩

/-- A value that can be laid over anything at all leaves what it repeats. -/
theorem overlayValue_of_repeats {user : Json} (huser : user.WellFormed) {path : List String}
    {base merged : Json} {other : Option Json} (hrepeats : Repeats path user base)
    (h : overlayValue path other user = .ok merged) :
    overlayValue path (some base) user = .ok base := by
  induction user using Json.member_induction generalizing path base merged other with
  | value user hobject =>
    have hmerged := (repeats_of_overlayValue huser h).value [] user rfl hobject
    have hbase := hrepeats.value [] user rfl hobject
    rw [overlayValue_congr_base hobject (some base) other, h]
    exact congrArg Except.ok (Option.some.inj (hmerged.trans hbase.symm))
  | object fields ih =>
    obtain ⟨baseFields, hbase⟩ := hrepeats.object [] fields rfl
    cases hbase
    obtain ⟨made, hmade, -⟩ := overlayValue_obj h
    have hfields : overlayFields path baseFields fields = .ok baseFields := by
      refine overlayFields_self fun key value hmem ↦ ?_
      have hget := Entries.get?_of_mem huser.1 hmem
      obtain ⟨member, hmember, hsame⟩ := hrepeats.exists_member hget
      obtain ⟨laid, hlaid, -⟩ := exists_overlayValue huser.1 hmade hget
      exact ⟨member, hmember, ih key value hget (huser.2.of_get? hget) hsame hlaid⟩
    rw [overlayValue_of_ne (by simp), overlay] at h ⊢
    split at h <;> rename_i hdepth
    · cases h
    · rw [if_neg hdepth]
      show (overlayFields path baseFields fields).map Json.obj = _
      rw [hfields]
      rfl

/-- Laid over what came of it, a value leaves that. -/
theorem overlayValue_self {user : Json} (huser : user.WellFormed) {path : List String}
    {base : Option Json} {merged : Json} (h : overlayValue path base user = .ok merged) :
    overlayValue path (some merged) user = .ok merged :=
  overlayValue_of_repeats huser (repeats_of_overlayValue huser h) h

/-! ### Three layers -/

/-- Wherever the upper tree has an object, the lower one has an object too or nothing: no value of
it stands in the way of a branch of the upper one. -/
def LeavesBranches (lower upper : Json) : Prop :=
  ∀ path v w, lower.find? path = some v → upper.find? path = some w → w.isObject → v.isObject

theorem LeavesBranches.of_get? {lower upper : Json} (h : LeavesBranches lower upper) {key : String}
    {v w : Json} (hv : lower.member? key = some v) (hw : upper.member? key = some w) :
    LeavesBranches v w := by
  intro path x y hx hy
  refine h (key :: path) x y ?_ ?_
  · rw [Json.find?_cons, hv, Option.bind_some, hx]
  · rw [Json.find?_cons, hw, Option.bind_some, hy]

theorem leavesBranches_of_not_isObject {upper : Json} (h : upper.isObject = false) (lower : Json) :
    LeavesBranches lower upper := by
  intro path v w _ hw hobject
  rcases path with _ | ⟨key, path⟩
  · cases hw
    cases h.symm.trans hobject
  · rw [Json.find?_cons, Json.member?_of_not_isObject h] at hw
    cases hw

/-- For objects it is enough to look at the keys that both of them have. -/
theorem leavesBranches_obj {lower upper : Fields}
    (h : ∀ key v w, Entries.get? lower key = some v → Entries.get? upper key = some w →
      LeavesBranches v w) : LeavesBranches (.obj lower) (.obj upper) := by
  intro path v w hv hw hobject
  rcases path with _ | ⟨key, path⟩
  · cases hv
    rfl
  · rw [Json.find?_cons] at hv hw
    obtain ⟨x, hx, hv⟩ := Option.bind_eq_some_iff.1 hv
    obtain ⟨y, hy, hw⟩ := Option.bind_eq_some_iff.1 hw
    exact h key x y hx hy path v w hv hw hobject

/-- The keys of three layers come in one order, whichever two are merged first. -/
theorem keys_overlayFields_assoc {path : List String} {a b c ab bc left right : Fields}
    (hb : (Entries.keys b).Nodup) (hc : (Entries.keys c).Nodup) (hbc' : (Entries.keys bc).Nodup)
    (hab : overlayFields path a b = .ok ab) (hbc : overlayFields path b c = .ok bc)
    (hleft : overlayFields path ab c = .ok left) (hright : overlayFields path a bc = .ok right) :
    Entries.keys left = Entries.keys right := by
  rw [keys_overlayFields hc hleft, keys_overlayFields hb hab, keys_overlayFields hbc' hright,
    keys_overlayFields hc hbc, List.filter_append, List.append_assoc, List.filter_filter]
  congr 2
  refine List.filter_congr fun key _ ↦ ?_
  by_cases hmem : key ∈ Entries.keys a <;> simp [hmem]

/-- Under a key that the top layer has, three layers hold the same in both groupings if its value
does; under any other key they hold the same anyway. -/
theorem get?_overlayFields_assoc {path : List String} {a b c ab bc left right : Fields}
    (hb : (Entries.keys b).Nodup) (hc : (Entries.keys c).Nodup) (hbc' : (Entries.keys bc).Nodup)
    (hab : overlayFields path a b = .ok ab) (hbc : overlayFields path b c = .ok bc)
    (hleft : overlayFields path ab c = .ok left) (hright : overlayFields path a bc = .ok right)
    {key : String}
    (hvalue : ∀ value, Entries.get? c key = some value → ∀ upper first second,
      overlayValue (path ++ [key]) (Entries.get? b key) value = .ok upper →
      overlayValue (path ++ [key]) (Entries.get? ab key) value = .ok first →
      overlayValue (path ++ [key]) (Entries.get? a key) upper = .ok second → first = second) :
    Entries.get? left key = Entries.get? right key := by
  have hab := overlayMember_get? hb hab key
  have hbc := overlayMember_get? hc hbc key
  have hleft := overlayMember_get? hc hleft key
  have hright := overlayMember_get? hbc' hright key
  rcases hget : Entries.get? c key with _ | value
  · rw [hget, overlayMember_none, Except.ok.injEq] at hbc hleft
    rw [← hbc, hab, Except.ok.injEq] at hright
    rw [← hleft, hright]
  · rw [hget] at hbc hleft
    obtain ⟨upper, hupper, hbc⟩ := overlayMember_some.1 hbc
    obtain ⟨first, hfirst, hleft⟩ := overlayMember_some.1 hleft
    rw [hbc] at hright
    obtain ⟨second, hsecond, hright⟩ := overlayMember_some.1 hright
    rw [hleft, hright, hvalue value hget upper first second hupper hfirst hsecond]

/-- A member that is an object or missing is laid over another by its entries. -/
theorem overlayFields_of_overlayMember {path : List String} {base user merged : Option Json}
    (huser : ∀ value ∈ user, value.isObject = true)
    (h : overlayMember path base user = .ok merged) :
    overlayFields path ((base.map Json.entries).getD []) ((user.map Json.entries).getD []) =
      .ok ((merged.map Json.entries).getD []) := by
  rcases user with _ | value
  · cases h
    exact overlayFields_nil path _
  · obtain ⟨fields, rfl⟩ := Json.exists_obj (huser value rfl)
    obtain ⟨laid, hlaid, rfl⟩ := overlayMember_some.1 h
    obtain ⟨made, hmade, rfl⟩ := overlayValue_obj hlaid
    exact hmade

theorem wellFormed_obj_getD {tree : Option Json} (h : ∀ value ∈ tree, value.WellFormed) :
    (Json.obj ((tree.map Json.entries).getD [])).WellFormed := by
  rcases tree with _ | tree
  · exact ⟨List.nodup_nil, trivial⟩
  · exact Json.wellFormed_obj_entries (h tree rfl)

/-- A member of a value that may be missing. -/
theorem exists_member?_of_get? {tree : Option Json} {key : String} {value : Json}
    (h : Entries.get? ((tree.map Json.entries).getD []) key = some value) :
    ∃ whole ∈ tree, whole.member? key = some value := by
  rcases tree with _ | whole
  · cases h
  · exact ⟨whole, rfl, h⟩

/-- Under one key the two groupings hold the same. -/
theorem overlayValue_assoc {c : Json} (hc : c.WellFormed) {path : List String}
    {a b ab : Option Json} {bc left right : Json} (ha : ∀ value ∈ a, value.WellFormed)
    (hb : ∀ value ∈ b, value.WellFormed) (hbranch : ∀ value ∈ b, LeavesBranches value c)
    (hab : overlayMember path a b = .ok ab) (hbc : overlayValue path b c = .ok bc)
    (hleft : overlayValue path ab c = .ok left) (hright : overlayValue path a bc = .ok right) :
    left = right := by
  induction c using Json.member_induction generalizing path a b ab bc left right with
  | value c hobject =>
    rw [overlayValue_congr_base hobject ab b, hbc] at hleft
    cases hleft
    exact (eq_of_overlayValue_again hobject hbc hright).symm
  | object c ih =>
    have hobject : ∀ value ∈ b, value.isObject = true := fun value hvalue ↦
      hbranch value hvalue [] value (.obj c) rfl rfl rfl
    have hab := overlayFields_of_overlayMember hobject hab
    obtain ⟨bcFields, hbcFields, rfl⟩ := overlayValue_obj hbc
    obtain ⟨first, hfirst, rfl⟩ := overlayValue_obj hleft
    obtain ⟨second, hsecond, rfl⟩ := overlayValue_obj hright
    have hb' := wellFormed_obj_getD hb
    have hbcWell := wellFormed_of_overlayFields hb' hc.2 hbcFields
    have hsecondWell := wellFormed_of_overlayFields (wellFormed_obj_getD ha) hbcWell.2 hsecond
    have hkeys := keys_overlayFields_assoc hb'.1 hc.1 hbcWell.1 hab hbcFields hfirst hsecond
    refine congrArg Json.obj (Entries.ext_get? hkeys (hkeys ▸ hsecondWell.1) fun key ↦ ?_)
    refine get?_overlayFields_assoc hb'.1 hc.1 hbcWell.1 hab hbcFields hfirst hsecond ?_
    intro value hvalue upper left right hupper hleft hright
    -- the law of the members, with what the lower layers have under the key
    refine ih key value hvalue (hc.2.of_get? hvalue)
      (fun v hv ↦ (wellFormed_obj_getD ha).2.of_get? hv) (fun v hv ↦ hb'.2.of_get? hv)
      (fun v hv ↦ ?_) (overlayMember_get? hb'.1 hab key) hupper hleft hright
    obtain ⟨whole, hwhole, hmember⟩ := exists_member?_of_get? hv
    exact (hbranch whole hwhole).of_get? hmember hvalue

theorem merge_eq_overlayValue (base user : Json) :
    merge base user = overlayValue [] (some base) (.obj user.entries) :=
  (overlayValue_of_ne (by simp) [] (some base)).symm

/-- **The algebra of layers.** A user's layer over what it was merged into already changes nothing.
Three layers, of which the middle one has nowhere a value without members where the top one has an
object, give the same tree in the same order of keys, whether the lower two are merged first or the
upper two. -/
theorem merge_layers :
    (∀ base user merged : Json, user.WellFormed → merge base user = .ok merged →
      merge merged user = .ok merged) ∧
    ∀ (a b c : Fields) (ab bc left right : Json), (Json.obj a).WellFormed →
      (Json.obj b).WellFormed → (Json.obj c).WellFormed → LeavesBranches (.obj b) (.obj c) →
      merge (.obj a) (.obj b) = .ok ab → merge (.obj b) (.obj c) = .ok bc →
      merge ab (.obj c) = .ok left → merge (.obj a) bc = .ok right → left = right := by
  refine ⟨fun base user merged huser h ↦ ?_, ?_⟩
  · rw [merge_eq_overlayValue] at h ⊢
    exact overlayValue_self (Json.wellFormed_obj_entries huser) h
  · intro a b c ab bc left right ha hb hc hbranch hab hbc hleft hright
    rw [merge_eq_overlayValue] at hab hbc hleft hright
    obtain ⟨made, -, rfl⟩ := overlayValue_obj hbc
    exact overlayValue_assoc hc (fun _ h ↦ Option.some.inj h ▸ ha)
      (fun _ h ↦ Option.some.inj h ▸ hb) (fun _ h ↦ Option.some.inj h ▸ hbranch)
      (overlayMember_some.2 ⟨ab, hab, rfl⟩) hbc hleft hright

/-- A middle layer that asks for the inherited typeface. -/
def themeLayer : Fields :=
  [("spacing", .str "1em"), ("typography", .obj [("fontFamily", .str "default")])]

/-- A top layer that asks for it too, under a heading. -/
def editLayer : Fields :=
  [("typography", .obj [("lineHeight", .num (.int 2))]), ("spacing", .null),
    ("h1", .obj [("typography", .obj [("fontFamily", .str "default")])])]

theorem merge_layers_theme :
    let base : Fields := [("typography", .obj [("fontFamily", .str "serif")]), ("h1", .str "old")]
    let lower : Json := .obj [("typography", .obj [("fontFamily", .null)]), ("h1", .str "old"),
      ("spacing", .str "1em")]
    let upper : Json := .obj [("spacing", .null),
      ("typography", .obj [("fontFamily", .str "default"), ("lineHeight", .num (.int 2))]),
      ("h1", .obj [("typography", .obj [("fontFamily", .null)])])]
    let all : Json := .obj
      [("typography", .obj [("fontFamily", .null), ("lineHeight", .num (.int 2))]),
        ("h1", .obj [("typography", .obj [("fontFamily", .null)])]), ("spacing", .null)]
    merge (.obj base) (.obj themeLayer) = .ok lower ∧
      merge (.obj themeLayer) (.obj editLayer) = .ok upper ∧
      LeavesBranches (.obj themeLayer) (.obj editLayer) ∧
      merge lower (.obj editLayer) = .ok all ∧ merge all (.obj editLayer) = .ok all ∧
      merge (.obj base) upper = .ok all := by
  intro base lower upper all
  have hwell : (Json.obj base).WellFormed ∧ (Json.obj themeLayer).WellFormed ∧
      (Json.obj editLayer).WellFormed := by
    simp [base, themeLayer, editLayer, Json.WellFormed, Json.FieldsWellFormed]
  obtain ⟨hbase, htheme, hedit⟩ := hwell
  have hbranch : LeavesBranches (.obj themeLayer) (.obj editLayer) := by
    refine leavesBranches_obj fun key v w hv hw ↦ ?_
    rcases List.mem_cons.1 (Entries.mem_of_get? hw) with heq | hmem
    · -- typography, where the middle layer has an object as well
      cases heq
      cases hv
      refine leavesBranches_obj fun inner x y hx hy ↦ ?_
      rcases List.mem_singleton.1 (Entries.mem_of_get? hy) with heq
      cases heq
      exact leavesBranches_of_not_isObject rfl x
    · rcases List.mem_cons.1 hmem with heq | hmem
      · cases heq
        exact leavesBranches_of_not_isObject rfl v
      · cases List.mem_singleton.1 hmem
        cases hv
  have hlower : merge (.obj base) (.obj themeLayer) = .ok lower := by rfl
  have hupper : merge (.obj themeLayer) (.obj editLayer) = .ok upper := by rfl
  have hall : merge lower (.obj editLayer) = .ok all := by rfl
  obtain ⟨right, hright⟩ : ∃ right, merge (.obj base) upper = .ok right := ⟨_, rfl⟩
  have hsame := merge_layers.2 base themeLayer editLayer lower upper all right hbase htheme hedit
    hbranch hlower hupper hall hright
  exact ⟨hlower, hupper, hbranch, hall, merge_layers.1 lower _ all hedit hall, hsame ▸ hright⟩

end GlobalStyles.Config
