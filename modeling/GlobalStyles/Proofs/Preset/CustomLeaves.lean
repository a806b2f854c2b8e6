import GlobalStyles.Proofs.Node.Order
import GlobalStyles.Proofs.Preset.Declared
import GlobalStyles.Proofs.Text.NormalForm

/-!
# Custom values and their references

Each scalar of a node's custom values is declared as a custom property, named by the keys that lead
to it, and a token with the same keys compiles to a `var()`. Which scalars are declared, and in
which order, is said by their keys alone: each scalar once (`CustomValue.mem_leaves_iff`), by the
first key at which two of them part (`CustomValue.pairwise_leaves`).

The two names are not made in the same way. A key of a declaration is put into kebab case on the way
down and once more in the name, and a segment of a token only once. So a token hits the declaration
exactly if no key of it changes when it is put into kebab case again, as none of ASCII does
(`Text.kebabCase_kebabCase`). Beyond ASCII keys can change, and then the token points at a custom
property that nothing declares.
-/

namespace GlobalStyles

open Json
open Text (kebabCase)

namespace CustomValue

/-! ### Leaves -/

mutual

/-- The scalars of a value with the keys that lead to them, in depth-first order. -/
def leaves : Json → List (List String × String)
  | .obj fields => fieldLeaves fields
  | value => value.css?.toList.map ([], ·)

/-- The scalars of entries. -/
def fieldLeaves : List (String × Json) → List (List String × String)
  | [] => []
  | (key, value) :: rest =>
    (leaves value).map (fun leaf ↦ (key :: leaf.1, leaf.2)) ++ fieldLeaves rest

end

theorem leaves_of_not_isObject {value : Json} (h : value.isObject = false) :
    leaves value = value.css?.toList.map ([], ·) := by
  cases value with
  | obj _ => cases h
  | _ => simp [leaves]

theorem leaves_obj (fields : Fields) :
    leaves (.obj fields) =
      fields.flatMap fun entry ↦ (leaves entry.2).map fun leaf ↦ (entry.1 :: leaf.1, leaf.2) := by
  rw [leaves]
  induction fields with
  | nil => rw [fieldLeaves, List.flatMap_nil]
  | cons entry rest ih => rw [fieldLeaves, List.flatMap_cons, ih]

theorem member?_of_not_isObject {value : Json} (h : value.isObject = false) (key : String) :
    value.member? key = none := by
  cases value with
  | obj _ => cases h
  | _ => rfl

/-- **The leaves are the scalars at the end of all keys.** -/
theorem mem_leaves_iff {value : Json} (h : value.WellFormed) (keys : List String) (text : String) :
    (keys, text) ∈ leaves value ↔ (value.find? keys).bind Json.css? = some text := by
  induction value using member_induction generalizing keys with
  | value value hscalar =>
    rw [leaves_of_not_isObject hscalar]
    rcases keys with - | ⟨key, rest⟩
    · simp
    · rw [find?_cons, member?_of_not_isObject hscalar]
      simp
  | object fields ih =>
    rw [leaves_obj, List.mem_flatMap]
    simp only [List.mem_map, Prod.mk.injEq]
    constructor
    · rintro ⟨⟨key, child⟩, hentry, ⟨rest, text⟩, hleaf, rfl, rfl⟩
      have hget := Entries.get?_of_mem h.1 hentry
      rw [find?_cons, member?_obj, hget, Option.bind_some]
      exact (ih key child hget (h.2.of_get? hget) rest).1 hleaf
    · intro hfind
      rcases keys with - | ⟨key, rest⟩
      · cases hfind
      · rw [find?_cons, member?_obj] at hfind
        rcases hget : Entries.get? fields key with - | child
        · rw [hget] at hfind
          cases hfind
        · rw [hget, Option.bind_some] at hfind
          exact ⟨(key, child), Entries.mem_of_get? hget, (rest, text),
            (ih key child hget (h.2.of_get? hget) rest).2 hfind, rfl, rfl⟩

/-- **The leaves stand in the order of their keys**, so no leaf comes twice. -/
theorem pairwise_leaves {value : Json} (h : value.WellFormed) :
    (leaves value).Pairwise fun a b ↦ value.PartsBefore a.1 b.1 := by
  induction value using member_induction with
  | value value hscalar =>
    rw [leaves_of_not_isObject hscalar]
    cases value.css? <;> simp
  | object fields ih =>
    rw [leaves_obj]
    refine List.pairwise_flatMap.2 ⟨fun entry hentry ↦ List.pairwise_map.2 ?_, ?_⟩
    · have hget := Entries.get?_of_mem h.1 hentry
      exact (ih entry.1 entry.2 hget (h.2.of_get? hget)).imp fun hparts ↦
        hparts.cons (child_of_get? hget)
    · refine (Entries.pairwise_sublist_keys fields).imp fun hsub a ha b hb ↦ ?_
      obtain ⟨leaf, -, rfl⟩ := List.mem_map.1 ha
      obtain ⟨other, -, rfl⟩ := List.mem_map.1 hb
      exact ⟨[], _, _, leaf.1, other.1, rfl, rfl, hsub⟩

/-! ### Declarations -/

mutual

/-- The declarations below some segments are those of the leaves, each key put into kebab case on
the way. -/
theorem declarations_eq (space : String) (segments : List String) : (value : Json) →
    declarations space segments value = (leaves value).map fun leaf ↦
      ⟨Reference.propertyName space (segments ++ leaf.1.map kebabCase), leaf.2⟩
  | .obj fields => by
    rw [declarations, leaves]
    exact fieldDeclarations_eq space segments fields
  | .str _ => by simp [declarations, leaves, Json.css?]
  | .num _ => by simp [declarations, leaves, Json.css?]
  | .bool _ => by simp [declarations, leaves, Json.css?]
  | .null => by simp [declarations, leaves, Json.css?]
  | .arr _ => by simp [declarations, leaves, Json.css?]

theorem fieldDeclarations_eq (space : String) (segments : List String) :
    (fields : List (String × Json)) →
    fieldDeclarations space segments fields = (fieldLeaves fields).map fun leaf ↦
      ⟨Reference.propertyName space (segments ++ leaf.1.map kebabCase), leaf.2⟩
  | [] => by rw [fieldDeclarations, fieldLeaves, List.map_nil]
  | (key, value) :: rest => by
    rw [fieldDeclarations, fieldLeaves, List.map_append, List.map_map,
      fieldDeclarations_eq space segments rest, declarations_eq]
    simp [Function.comp_def]

end

/-- The name under which the scalar at the end of some keys is declared. -/
def name (space : String) (keys : List String) : String :=
  Reference.propertyName space ("custom" :: keys.map kebabCase)

/-- The token for the scalar at the end of some keys. -/
def token (keys : List String) : String :=
  "ref:" ++ "|".intercalate ("custom" :: keys)

/-- A token hits the declaration of its keys exactly if they stay the same in kebab case once they
are in it. -/
theorem compile_token_eq_iff (space : String) {keys : List String}
    (hbar : ∀ key ∈ keys, '|' ∉ key.toList) :
    Reference.compile (token keys) space = "var(" ++ name space keys ++ ")" ↔
      ∀ key ∈ keys, kebabCase (kebabCase key) = kebabCase key := by
  have htoken : Reference.IsToken (token keys) ("custom" :: keys) :=
    ⟨List.cons_ne_nil _ _, List.forall_mem_cons.2 ⟨by decide, hbar⟩, .inl rfl⟩
  rw [Reference.compile_token htoken, String.append_left_inj, String.append_right_inj, name,
    Reference.propertyName_cons_eq_iff, List.map_map, List.map_inj_left]
  simp only [Function.comp_apply, true_and, eq_comm]

/-- Tokens of ASCII hit. -/
theorem compile_token_of_ascii (space : String) {keys : List String}
    (hbar : ∀ key ∈ keys, '|' ∉ key.toList) (hascii : ∀ key ∈ keys, Text.IsAscii key) :
    Reference.compile (token keys) space = "var(" ++ name space keys ++ ")" :=
  (compile_token_eq_iff space hbar).2 fun key hkey ↦ Text.kebabCase_kebabCase (hascii key hkey)

end CustomValue

/-! ### A node -/

/-- **What is declared for custom values, and which references hit it.** After its presets, a node
declares each scalar of its custom values once, in the order of the keys, under the name of these
keys. A token with the same keys compiles to the `var()` of that name exactly if kebab case leaves
every key as it is once the key is in it; keys of ASCII always do. -/
theorem SettingsNode.declares_custom_leaves (node : SettingsNode)
    (hwell : ∀ custom ∈ node.custom, custom.WellFormed) (settings : Json) (space : String) :
    let custom := node.custom.getD .null
    (∃ leaves : List (List String × String),
      leaves.Pairwise (fun a b ↦ custom.PartsBefore a.1 b.1) ∧
        (∀ keys text, (keys, text) ∈ leaves ↔
          (custom.find? keys).bind Json.css? = some text) ∧
        node.declarations settings space =
          Preset.declarations node.presets settings space ++
            leaves.map fun leaf ↦ ⟨CustomValue.name space leaf.1, leaf.2⟩) ∧
      ∀ keys : List String, (∀ key ∈ keys, '|' ∉ key.toList) →
        (Reference.compile (CustomValue.token keys) space =
            "var(" ++ CustomValue.name space keys ++ ")" ↔
          ∀ key ∈ keys, kebabCase (kebabCase key) = kebabCase key) ∧
        ((∀ key ∈ keys, Text.IsAscii key) →
          Reference.compile (CustomValue.token keys) space =
            "var(" ++ CustomValue.name space keys ++ ")") := by
  intro custom
  have hcustom : custom.WellFormed := by
    rcases hvalue : node.custom with - | value
    · simp [custom, hvalue, WellFormed]
    · simpa [custom, hvalue] using hwell value hvalue
  refine ⟨⟨CustomValue.leaves custom, CustomValue.pairwise_leaves hcustom,
    CustomValue.mem_leaves_iff hcustom, ?_⟩, fun keys hbar ↦
    ⟨CustomValue.compile_token_eq_iff space hbar, CustomValue.compile_token_of_ascii space hbar⟩⟩
  have hnone : CustomValue.declarations space ["custom"] .null = [] := by
    simp [CustomValue.declarations]
  have hgetD : (node.custom.map (CustomValue.declarations space ["custom"])).getD [] =
      CustomValue.declarations space ["custom"] custom := by
    rcases hvalue : node.custom with - | value <;> simp [custom, hvalue, hnone]
  rw [declarations, hgetD, CustomValue.declarations_eq]
  rfl

/-- A node with custom values at two depths, and a list that is no value. -/
def nodeWithCustom : SettingsNode :=
  ⟨some "core/quote", "blockquote", .obj [], some (.obj [("lineHeight", .obj [("XLarge2",
    .num (.int 2)), ("", .bool true), ("all", .arr [.str "1"])]), ("gap", .str "1px")])⟩

/-- Its declarations, and a token that hits the first of them. -/
theorem declares_custom_leaves_quote :
    (∀ custom ∈ nodeWithCustom.custom, custom.WellFormed) ∧
      nodeWithCustom.declarations (.obj []) "wp" =
        [⟨"--wp--custom--line-height--x-large-2", "2"⟩, ⟨"--wp--custom--line-height--", "true"⟩,
          ⟨"--wp--custom--gap", "1px"⟩] ∧
      Reference.compile "ref:custom|lineHeight|XLarge2" "wp" =
        "var(" ++ "--wp--custom--line-height--x-large-2" ++ ")" := by
  have hwell : ∀ custom ∈ nodeWithCustom.custom, custom.WellFormed := by
    rintro custom ⟨⟩
    simp [WellFormed, FieldsWellFormed, ItemsWellFormed]
  have htoken := ((nodeWithCustom.declares_custom_leaves hwell (.obj []) "wp").2
    ["lineHeight", "XLarge2"] (by decide)).2 (by decide)
  have hname : CustomValue.name "wp" ["lineHeight", "XLarge2"] =
      "--wp--custom--line-height--x-large-2" := by decide +kernel
  have htext : CustomValue.token ["lineHeight", "XLarge2"] = "ref:custom|lineHeight|XLarge2" := by
    decide
  rw [hname, htext] at htoken
  exact ⟨hwell, by decide +kernel, htoken⟩

/-- **Not every reference to a custom value hits it.** In lower case the capital I with a dot
becomes an i and a mark, and the mark is not part of a word when the key is put into kebab case
again; and a word ends before a capital without a lower-case form, but only once the letter in front
of it is lower-case. -/
theorem compile_token_ne_declared :
    (SettingsNode.mk none "body" (.obj []) (some (.obj
        [("\u0130", .str "1px"), ("B𝐂", .str "2px")]))).declarations (.obj []) "wp" =
      [⟨"--wp--custom--i", "1px"⟩, ⟨"--wp--custom--b-𝐂", "2px"⟩] ∧
      Reference.compile "ref:custom|\u0130" "wp" = "var(" ++ "--wp--custom--i\u0307" ++ ")" ∧
      Reference.compile "ref:custom|\u0130" "wp" ≠ "var(" ++ "--wp--custom--i" ++ ")" ∧
      Reference.compile "ref:custom|B𝐂" "wp" ≠ "var(" ++ "--wp--custom--b-𝐂" ++ ")" := by
  decide +kernel

end GlobalStyles
