import GlobalStyles.Config.Merge

/-!
# What a merged tree holds

`Config.overlay` carries the path it stands at and writes the user's entries one after another into
those of the base, so that each look-up in the base is a look-up in what is being made. Here the
merged tree is described by look-ups alone: what it holds at a path follows from what the two layers
hold at that path and on the way to it.

Two facts carry everything. Entries that are written one after another do not disturb each other
while no key stands twice (`exists_overlayValue`), so every key of the user can be looked at on its
own; and the law at `key :: path` is the law at `path` one level further down
(`OverlayLaw.cons`). The induction is on the path and not on the trees.
-/

namespace GlobalStyles.Config

/-! ### Entries over entries -/

/-- The user's value at a path laid over what the base has there, a wish for the inherited typeface
being `null`. -/
def overlayValue (path : List String) (base : Option Json) (user : Json) :
    Except ConfigError Json :=
  if asksForInheritedFont path user then .ok .null else overlay path base user

theorem overlayFields_nil (path : List String) (made : Fields) :
    overlayFields path made [] = .ok made := by
  rw [overlayFields]

/-- An entry is written first and the rest over what that gives. -/
theorem overlayFields_cons {path : List String} {made merged : Fields} {key : String}
    {value : Json} {rest : Fields} :
    overlayFields path made ((key, value) :: rest) = .ok merged ↔
      ∃ laid, overlayValue (path ++ [key]) (Entries.get? made key) value = .ok laid ∧
        overlayFields path (Entries.put made key laid) rest = .ok merged := by
  rw [overlayFields, overlayValue]
  split
  · simp [bind, Except.bind]
  · rcases overlay (path ++ [key]) (Entries.get? made key) value with - | laid <;>
      simp [bind, Except.bind]

/-- A key that the user has not keeps what the base has. -/
theorem get?_overlayFields_of_notMem {path : List String} {key : String} :
    ∀ {fields made merged : Fields}, overlayFields path made fields = .ok merged →
      key ∉ Entries.keys fields → Entries.get? merged key = Entries.get? made key := by
  intro fields
  induction fields with
  | nil =>
    intro made merged h _
    rw [overlayFields_nil] at h
    cases h
    rfl
  | cons entry rest ih =>
    obtain ⟨k, value⟩ := entry
    intro made merged h hkey
    obtain ⟨laid, -, hrest⟩ := overlayFields_cons.1 h
    obtain ⟨hne, hrestKey⟩ := not_or.1 (mt List.mem_cons.2 hkey)
    rw [ih hrest hrestKey, Entries.get?_put_of_ne _ _ hne]

/-- While the user has no key twice, each of their entries is laid over what the base itself has
under its key: the entries written before it left that alone, and those after it leave its
result. -/
theorem exists_overlayValue {path : List String} {key : String} {value : Json} :
    ∀ {fields made merged : Fields}, (Entries.keys fields).Nodup →
      overlayFields path made fields = .ok merged → Entries.get? fields key = some value →
      ∃ laid, overlayValue (path ++ [key]) (Entries.get? made key) value = .ok laid ∧
        Entries.get? merged key = some laid := by
  intro fields
  induction fields with
  | nil =>
    intro made merged _ _ hget
    simp at hget
  | cons entry rest ih =>
    obtain ⟨k, user⟩ := entry
    intro made merged hnodup h hget
    obtain ⟨hk, hrestNodup⟩ := List.nodup_cons.1 hnodup
    obtain ⟨laid, hlaid, hrest⟩ := overlayFields_cons.1 h
    rw [Entries.get?] at hget
    split at hget
    · -- the entry itself: no later one has its key
      rename_i heq
      subst heq
      cases hget
      refine ⟨laid, hlaid, ?_⟩
      rw [get?_overlayFields_of_notMem hrest hk, Entries.get?_put_self]
    · -- a later one: what was just written stands under another key
      rename_i hne
      have hother := Entries.get?_put_of_ne made laid (Ne.symm hne)
      obtain ⟨found, hfound, hmerged⟩ := ih hrestNodup hrest hget
      exact ⟨found, hother ▸ hfound, hmerged⟩

/-- The keys of the base come first, in their places, then the others of the user in theirs. -/
theorem keys_overlayFields {path : List String} :
    ∀ {fields made merged : Fields}, (Entries.keys fields).Nodup →
      overlayFields path made fields = .ok merged →
      Entries.keys merged =
        Entries.keys made ++ (Entries.keys fields).filter (· ∉ Entries.keys made) := by
  intro fields
  induction fields with
  | nil =>
    intro made merged _ h
    rw [overlayFields_nil] at h
    cases h
    simp [Entries.keys]
  | cons entry rest ih =>
    obtain ⟨k, user⟩ := entry
    intro made merged hnodup h
    obtain ⟨hk, hrestNodup⟩ := List.nodup_cons.1 hnodup
    obtain ⟨laid, -, hrest⟩ := overlayFields_cons.1 h
    rw [ih hrestNodup hrest, Entries.keys_put]
    show _ = _ ++ (k :: Entries.keys rest).filter _
    -- a key of the base is left out on both sides; a new one is the first to be added
    by_cases hmem : k ∈ Entries.keys made
    · simp [hmem]
    · have hrestKeys : ∀ key ∈ Entries.keys rest, key ≠ k := by
        rintro key hkey rfl
        exact hk hkey
      rw [if_neg hmem, List.filter_cons, if_pos (by simpa using hmem), List.append_assoc]
      congr 1
      rw [List.singleton_append, List.cons_inj_right]
      refine List.filter_congr fun key hkey ↦ ?_
      simp [hrestKeys key hkey]

/-! ### Values over values -/

/-- Objects merge to an object, entry by entry. -/
theorem overlay_obj {path : List String} {base : Option Json} {fields : Fields} {merged : Json}
    (h : overlay path base (.obj fields) = .ok merged) :
    ∃ made, overlayFields path ((base.map Json.entries).getD []) fields = .ok made ∧
      merged = .obj made := by
  rw [overlay] at h
  split at h
  · cases h
  · rcases hmade : overlayFields path ((base.map Json.entries).getD []) fields with _ | made
    · simp [hmade, Except.map] at h
    · exact ⟨made, rfl, by simpa [hmade, Except.map] using h.symm⟩

/-- Whatever is no object takes the place of what the base has. -/
theorem eq_of_overlay_of_not_isObject {path : List String} {base : Option Json} {user merged : Json}
    (huser : user.isObject = false) (h : overlay path base user = .ok merged) : merged = user := by
  cases user with
  | obj fields => cases huser
  | _ =>
    simp only [overlay] at h
    split at h
    · cases h
    · exact (Except.ok.inj h).symm

end GlobalStyles.Config

namespace GlobalStyles.Json

/-! ### The way to a path -/

/-- `stop` is the longest proper prefix of a path at which a tree has a value, and `value` is that
value: the last branch on the way to a place that is not there. -/
structure LastBranch (tree : Json) (path stop : List String) (value : Json) : Prop where
  isPrefix : stop <+: path
  ne : stop ≠ path
  find?_eq : tree.find? stop = some value
  longest : ∀ other, other <+: path → other ≠ path → (tree.find? other).isSome →
    other.length ≤ stop.length

/-- Where the first key is missing, the way ends at once. -/
theorem LastBranch.of_member? {tree : Json} {key : String} {path : List String}
    (h : tree.member? key = none) : LastBranch tree (key :: path) [] tree where
  isPrefix := List.nil_prefix
  ne := by simp
  find?_eq := rfl
  longest other hprefix _ hsome := by
    rcases other with _ | ⟨first, other⟩
    · exact Nat.le_refl _
    · obtain ⟨rfl, -⟩ := List.cons_prefix_cons.1 hprefix
      rw [find?_cons, h] at hsome
      cases hsome

/-- The way through a member goes on as the member's own. -/
theorem LastBranch.cons {tree child value : Json} {key : String} {path stop : List String}
    (hchild : tree.member? key = some child) (h : LastBranch child path stop value) :
    LastBranch tree (key :: path) (key :: stop) value where
  isPrefix := List.cons_prefix_cons.2 ⟨rfl, h.isPrefix⟩
  ne := by simpa using h.ne
  find?_eq := by rw [find?_cons, hchild, Option.bind_some, h.find?_eq]
  longest other hprefix hne hsome := by
    rcases other with _ | ⟨first, other⟩
    · exact Nat.zero_le _
    · obtain ⟨rfl, hother⟩ := List.cons_prefix_cons.1 hprefix
      rw [find?_cons, hchild, Option.bind_some] at hsome
      have hne' : other ≠ path := by
        rintro rfl
        exact hne rfl
      exact Nat.succ_le_succ (h.longest other hother hne' hsome)

/-- There is only one last branch on the way to a path. -/
theorem LastBranch.unique {tree v w : Json} {path p q : List String}
    (hp : tree.LastBranch path p v) (hq : tree.LastBranch path q w) : p = q ∧ v = w := by
  have hle := hq.longest p hp.isPrefix hp.ne (by simp [hp.find?_eq])
  have hge := hp.longest q hq.isPrefix hq.ne (by simp [hq.find?_eq])
  have hprefix := List.prefix_of_prefix_length_le hp.isPrefix hq.isPrefix hle
  have heq : p = q := hprefix.eq_of_length (Nat.le_antisymm hle hge)
  subst heq
  exact ⟨rfl, Option.some.inj (hp.find?_eq.symm.trans hq.find?_eq)⟩

/-- A value that is no object has no members. -/
theorem member?_of_not_isObject {tree : Json} (h : tree.isObject = false) (key : String) :
    tree.member? key = none := by
  cases tree <;> simp_all [isObject, member?, entries]

end GlobalStyles.Json

namespace GlobalStyles.Config

/-! ### The law of a path -/

/-- What a value laid over another below `above` holds at a path. -/
structure OverlayLaw (above : List String) (base : Option Json) (user merged : Json)
    (path : List String) : Prop where
  /-- Whatever is no object is taken from the user, and a wish for the inherited typeface is
  `null`. -/
  value : ∀ v, user.find? path = some v → v.isObject = false →
    merged.find? path =
      some (if path ≠ [] ∧ asksForInheritedFont (above ++ path) v then .null else v)
  /-- An object of the user stays one, with the keys of the base before the user's others. -/
  object : ∀ fields, user.find? path = some (.obj fields) → ∃ made,
    merged.find? path = some (.obj made) ∧
      Entries.keys made =
        Entries.keys (((base.bind (·.find? path)).map Json.entries).getD []) ++
          (Entries.keys fields).filter
            (· ∉ Entries.keys (((base.bind (·.find? path)).map Json.entries).getD []))
  /-- What the user does not reach is the base's below an object of the user, and gone below any
  other value. -/
  missing : user.find? path = none → ∃ stop v, user.LastBranch path stop v ∧
    merged.find? path = if v.isObject then base.bind (·.find? path) else none

/-- Values at the very place of the overlay follow the law. -/
theorem overlayLaw_nil {above : List String} {base : Option Json} {user merged : Json}
    (huser : user.WellFormed) (h : overlay above base user = .ok merged) :
    OverlayLaw above base user merged [] where
  value v hv hobject := by
    cases hv
    simp [eq_of_overlay_of_not_isObject hobject h]
  object fields hfields := by
    cases hfields
    obtain ⟨made, hmade, rfl⟩ := overlay_obj h
    refine ⟨made, rfl, ?_⟩
    simpa using keys_overlayFields huser.1 hmade
  missing hnone := by cases hnone

/-- Where the user has nothing, the law only tells what shows through. -/
theorem OverlayLaw.of_find?_eq_none {above : List String} {base : Option Json} {user merged : Json}
    {path stop : List String} {value : Json} (hnone : user.find? path = none)
    (hstop : user.LastBranch path stop value)
    (hmerged : merged.find? path = if value.isObject then base.bind (·.find? path) else none) :
    OverlayLaw above base user merged path where
  value v hv := by
    rw [hnone] at hv
    cases hv
  object fields hfields := by
    rw [hnone] at hfields
    cases hfields
  missing _ := ⟨stop, value, hstop, hmerged⟩

/-- Below a value of the user that is no object, nothing of the base shows. -/
theorem overlayLaw_of_not_isObject {above : List String} {base : Option Json} {user merged : Json}
    {key : String} {path : List String} (huser : user.isObject = false)
    (hmerged : merged.isObject = false) : OverlayLaw above base user merged (key :: path) := by
  have hnone : user.find? (key :: path) = none := by
    rw [Json.find?_cons, Json.member?_of_not_isObject huser, Option.bind_none]
  refine .of_find?_eq_none hnone (.of_member? (Json.member?_of_not_isObject huser key)) ?_
  rw [huser, Json.find?_cons, Json.member?_of_not_isObject hmerged]
  rfl

/-- A look-up in the base goes through its entries. -/
theorem bind_find?_cons (base : Option Json) (key : String) (path : List String) :
    (base.bind fun tree ↦ tree.find? (key :: path)) =
      (Entries.get? ((base.map Json.entries).getD []) key).bind fun tree ↦ tree.find? path := by
  cases base <;> rfl

/-- The law of a member is the law of the whole one level further up. -/
theorem OverlayLaw.cons {above : List String} {base : Option Json} {fields made : Fields}
    {key : String} {value laid : Json} {path : List String}
    (hvalue : Entries.get? fields key = some value) (hlaid : Entries.get? made key = some laid)
    (hfont : asksForInheritedFont (above ++ [key]) value = false)
    (h : OverlayLaw (above ++ [key]) (Entries.get? ((base.map Json.entries).getD []) key)
      value laid path) :
    OverlayLaw above base (.obj fields) (.obj made) (key :: path) := by
  have huser : (Json.obj fields).find? (key :: path) = value.find? path := by
    rw [Json.find?_cons, Json.member?_obj, hvalue, Option.bind_some]
  have hmerged : (Json.obj made).find? (key :: path) = laid.find? path := by
    rw [Json.find?_cons, Json.member?_obj, hlaid, Option.bind_some]
  refine ⟨fun v hv hobject ↦ ?_, fun inner hinner ↦ ?_, fun hnone ↦ ?_⟩
  · rw [huser] at hv
    rw [hmerged, h.value v hv hobject, List.append_assoc, List.singleton_append]
    rcases path with _ | ⟨first, path⟩
    · cases hv
      simp [hfont]
    · simp
  · rw [huser] at hinner
    rw [hmerged, bind_find?_cons]
    exact h.object inner hinner
  · rw [huser] at hnone
    obtain ⟨stop, v, hstop, hlast⟩ := h.missing hnone
    refine ⟨key :: stop, v, hstop.cons hvalue, ?_⟩
    rw [hmerged, hlast, bind_find?_cons]

/-- A wish for the inherited typeface leaves `null`, with nothing below. -/
theorem overlayLaw_of_asksForInheritedFont {above : List String} {base : Option Json}
    {fields made : Fields} {key : String} {value : Json} (path : List String)
    (hvalue : Entries.get? fields key = some value)
    (hnull : Entries.get? made key = some .null)
    (hfont : asksForInheritedFont (above ++ [key]) value = true) :
    OverlayLaw above base (.obj fields) (.obj made) (key :: path) := by
  have hobject : value.isObject = false := by
    rcases value with _ | _ | _ | _ | _ | inner
    case obj => simp [asksForInheritedFont] at hfont
    all_goals rfl
  have huser : (Json.obj fields).member? key = some value := hvalue
  have hmerged : (Json.obj made).member? key = some .null := hnull
  rcases path with _ | ⟨first, path⟩
  · refine ⟨fun v hv _ ↦ ?_, fun inner hinner ↦ ?_, fun hnone ↦ ?_⟩
    · rw [Json.find?_cons, huser] at hv
      cases hv
      rw [Json.find?_cons, hmerged]
      simp [hfont]
    · rw [Json.find?_cons, huser] at hinner
      cases hinner
      cases hobject
    · rw [Json.find?_cons, huser] at hnone
      cases hnone
  · have hfirst := Json.member?_of_not_isObject hobject first
    have hnone : (Json.obj fields).find? (key :: first :: path) = none := by
      rw [Json.find?_cons, huser, Option.bind_some, Json.find?_cons, hfirst, Option.bind_none]
    refine .of_find?_eq_none hnone (.cons huser (.of_member? hfirst)) ?_
    rw [Json.find?_cons, hmerged, hobject]
    rfl

/-- What a value laid over another holds at any path. -/
theorem overlayLaw (path : List String) {above : List String} {base : Option Json}
    {user merged : Json} (huser : user.WellFormed) (h : overlay above base user = .ok merged) :
    OverlayLaw above base user merged path := by
  induction path generalizing above base user merged with
  | nil => exact overlayLaw_nil huser h
  | cons key path ih =>
    rcases hobject : user.isObject with _ | _
    · have hmerged : merged.isObject = false := by
        rw [eq_of_overlay_of_not_isObject hobject h, hobject]
      exact overlayLaw_of_not_isObject hobject hmerged
    · obtain ⟨fields, rfl⟩ := Json.exists_obj hobject
      obtain ⟨made, hmade, rfl⟩ := overlay_obj h
      rcases hget : Entries.get? fields key with _ | value
      · -- the user stops here, and the key was left to the base
        have hnone : (Json.obj fields).find? (key :: path) = none := by
          rw [Json.find?_cons, Json.member?_obj, hget, Option.bind_none]
        have hkey : key ∉ Entries.keys fields := by
          rw [Entries.mem_keys_iff, hget]
          simp
        refine .of_find?_eq_none hnone (.of_member? hget) ?_
        rw [Json.find?_cons, Json.member?_obj, get?_overlayFields_of_notMem hmade hkey,
          bind_find?_cons]
        rfl
      · -- the user goes on: the entry was laid over the base's own, one level further down
        obtain ⟨laid, hlaid, hmember⟩ := exists_overlayValue huser.1 hmade hget
        rw [overlayValue] at hlaid
        split at hlaid <;> rename_i hfont
        · cases hlaid
          exact overlayLaw_of_asksForInheritedFont path hget hmember hfont
        · exact .cons hget hmember (by simpa using hfont) (ih (huser.2.of_get? hget) hlaid)

/-! ### Merged trees -/

/-- What asks for the inherited typeface. -/
theorem asksForInheritedFont_iff {path : List String} {value : Json} :
    asksForInheritedFont path value = true ↔
      ["typography", "fontFamily"] <:+ path ∧ value = .str "default" := by
  rw [← List.reverse_prefix]
  show _ ↔ ["fontFamily", "typography"] <+: path.reverse ∧ _
  unfold asksForInheritedFont
  rcases path.reverse with _ | ⟨field, _ | ⟨parent, rest⟩⟩
  · simp
  · simp [List.cons_prefix_cons]
  · cases value with
    | str text =>
      simp only [Bool.and_eq_true, beq_iff_eq, List.cons_prefix_cons, List.nil_prefix, and_true,
        Json.str.injEq]
      constructor
      · rintro ⟨⟨rfl, rfl⟩, rfl⟩
        exact ⟨⟨rfl, rfl⟩, rfl⟩
      · rintro ⟨⟨rfl, rfl⟩, rfl⟩
        exact ⟨⟨rfl, rfl⟩, rfl⟩
    | _ => simp

/-- The entries of the object at a path; none where there is no object. -/
def entriesAt (tree : Json) (path : List String) : Fields :=
  ((tree.find? path).map Json.entries).getD []

/-- **What a merged tree holds**, at the top and at every path below: the user's values, the
inherited typeface as `null`; the user's objects with the keys of the base in front; and the base's
values where the last branch on the user's way is an object. -/
theorem find?_merge {base user : Fields} {merged : Json} (huser : (Json.obj user).WellFormed)
    (h : merge (.obj base) (.obj user) = .ok merged) :
    (∃ made, merged = .obj made ∧ Entries.keys made =
      Entries.keys base ++ (Entries.keys user).filter (· ∉ Entries.keys base)) ∧
    ∀ path, path ≠ [] →
      (∀ v, (Json.obj user).find? path = some v → v.isObject = false →
        (["typography", "fontFamily"] <:+ path ∧ v = .str "default" →
          merged.find? path = some .null) ∧
        (¬(["typography", "fontFamily"] <:+ path ∧ v = .str "default") →
          merged.find? path = some v)) ∧
      (∀ fields, (Json.obj user).find? path = some (.obj fields) → ∃ made,
        merged.find? path = some (.obj made) ∧ Entries.keys made =
          Entries.keys (entriesAt (.obj base) path) ++
            (Entries.keys fields).filter (· ∉ Entries.keys (entriesAt (.obj base) path))) ∧
      ((Json.obj user).find? path = none → ∃ stop v, (Json.obj user).LastBranch path stop v ∧
        merged.find? path = if v.isObject then (Json.obj base).find? path else none) := by
  have hlaw (path : List String) := overlayLaw path huser h
  refine ⟨?_, fun path hpath ↦ ⟨fun v hv hobject ↦ ?_, (hlaw path).object, (hlaw path).missing⟩⟩
  · obtain ⟨made, hmade, hkeys⟩ := (hlaw []).object user rfl
    exact ⟨made, Option.some.inj hmade, hkeys⟩
  · have hvalue := (hlaw path).value v hv hobject
    rw [List.nil_append] at hvalue
    constructor
    · intro hfont
      rw [hvalue, if_pos ⟨hpath, asksForInheritedFont_iff.2 hfont⟩]
    · intro hfont
      rw [hvalue, if_neg fun hif ↦ hfont (asksForInheritedFont_iff.1 hif.2)]

/-- A host's layer: a typeface, a block and a plain value where the user has a branch. -/
def hostLayer : Fields :=
  [("typography", .obj [("fontSize", .str "1rem"), ("fontFamily", .str "serif")]),
    ("blocks", .obj [("a", .obj [("color", .str "red")]), ("b", .obj [])]),
    ("spacing", .str "10px")]

/-- A user's layer over it. -/
def userLayer : Fields :=
  [("spacing", .obj [("padding", .str "1em")]), ("blocks", .obj [("c", .null), ("a", .obj [])]),
    ("typography", .obj [("fontFamily", .str "default")])]

/-- The two merged. -/
def layers : Json :=
  .obj
    [("typography", .obj [("fontSize", .str "1rem"), ("fontFamily", .null)]),
      ("blocks", .obj [("a", .obj [("color", .str "red")]), ("b", .obj []), ("c", .null)]),
      ("spacing", .obj [("padding", .str "1em")])]

/-- The law read off at a wish for the inherited typeface, at an object over an object, and at a
value of the host that the user does not reach. -/
theorem find?_merge_layers :
    (Json.obj userLayer).WellFormed ∧ merge (.obj hostLayer) (.obj userLayer) = .ok layers ∧
      layers.find? ["typography", "fontFamily"] = some .null ∧
      (∃ made, layers.find? ["blocks"] = some (.obj made) ∧ Entries.keys made = ["a", "b", "c"]) ∧
      layers.find? ["typography", "fontSize"] = some (.str "1rem") := by
  have hwell : (Json.obj userLayer).WellFormed := by
    simp [userLayer, Json.WellFormed, Json.FieldsWellFormed]
  have hmerge : merge (.obj hostLayer) (.obj userLayer) = .ok layers := by rfl
  have hlaw := (find?_merge hwell hmerge).2
  refine ⟨hwell, hmerge, ?_, ?_, ?_⟩
  · exact ((hlaw ["typography", "fontFamily"] (by simp)).1 _ rfl rfl).1 ⟨List.suffix_refl _, rfl⟩
  · exact (hlaw ["blocks"] (by simp)).2.1 _ rfl
  · obtain ⟨stop, v, hstop, hfound⟩ := (hlaw ["typography", "fontSize"] (by simp)).2.2 rfl
    have hlast : (Json.obj userLayer).LastBranch ["typography", "fontSize"] ["typography"]
        (.obj [("fontFamily", .str "default")]) := .cons rfl (.of_member? rfl)
    rw [hfound, (hstop.unique hlast).2]
    rfl

end GlobalStyles.Config
