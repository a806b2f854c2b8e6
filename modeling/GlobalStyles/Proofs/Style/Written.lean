import GlobalStyles.Proofs.Style.Place
import GlobalStyles.Style.Declarations
import Mathlib.Data.List.Basic

/-!
# What a subtree says, place by place

`StyleContext.written` puts the rules read straight from the table of properties before those of the
categories, and reads the categories after the defaults of a background image were filled in. Both
steps stay inside one member of the styles: a place is a look-up along a path, and the defaults
change nothing but the member `background` and look at nothing else
(`child_withBackgroundDefaults`).

Away from the root the list is the readings of `StyleContext.readings`, one after another
(`StyleContext.written_eq`). Each of them is settled by one member, or by one member of a member.
-/

namespace GlobalStyles

/-! ### Texts of values -/

namespace StyleContext

/-- The text at a place of the tree that is named by keys between dots. -/
def placeText? (ctx : StyleContext) (place : String) : Option String :=
  (ctx.tree.bind (·.get? ((place.toList.splitOn '.').map String.ofList))).bind Json.css?

/-- A value that is no object points nowhere and is its own text. -/
theorem text?_of_not_isObject (ctx : StyleContext) {value : Json} (h : value.isObject = false) :
    ctx.text? value = value.css? := by
  cases value with
  | obj fields => cases h
  | _ => rfl

/-- The text of an object is what it points at, and a place that points on has no text. -/
theorem text?_obj (ctx : StyleContext) (fields : Fields) :
    ctx.text? (.obj fields) = ((Json.obj fields).child "ref").text?.bind ctx.placeText? := by
  rw [text?, target?, Json.member?_obj, Json.child_obj]
  rcases Entries.get? fields "ref" with - | value
  · rfl
  · cases value with
    | str place =>
      show (ctx.tree.bind fun tree ↦ _).bind Json.css? = ctx.placeText? place
      rw [placeText?, Option.bind_assoc, Option.bind_assoc]
      congr 1
      funext tree
      rcases tree.get? ((place.toList.splitOn '.').map String.ofList) with - | target
      · rfl
      · -- only an object has the member `ref`, and an object has no text
        cases target with
        | obj fields =>
          rcases h : (Json.obj fields).member? "ref" with _ | value <;> simp [h, Json.css?]
        | _ => rfl
    | _ => rfl

end StyleContext

/-- Of what is only read if it is truthy, a missing value is as good as a `null`. -/
theorem Json.filter_isTruthy_get? (tree : Json) (path : List String) :
    (tree.get? path).filter isTruthy =
      if (tree.down path).isTruthy then some (tree.down path) else none := by
  rw [get?_eq_down]
  cases tree.down path <;> rfl

/-! ### Defaults of a background image -/

/-- A background with the defaults of its image. -/
def backgroundWithDefaults (background : Json) : Json :=
  if (background.get? ["backgroundImage"]).isNone then background
  else
    match (background.get? ["backgroundSize"]).bind Json.text? with
    | none => background.set ["backgroundSize"] (.str "cover")
    | some size =>
      if size = "contain" && (background.get? ["backgroundPosition"]).isNone then
        background.set ["backgroundPosition"] (.str "50% 50%")
      else background

/-- The defaults concern the background alone. -/
theorem child_withBackgroundDefaults (styles : Json) (key : String) :
    (withBackgroundDefaults styles false).child key =
      if key = "background" then backgroundWithDefaults (styles.child "background")
      else styles.child key := by
  have hkeep : styles.child key =
      if key = "background" then styles.child "background" else styles.child key := by
    split <;> rename_i h
    · rw [h]
    · rfl
  have hset (inner : String) (value : Json) :
      (styles.set ["background", inner] value).child key =
        if key = "background" then (styles.child "background").set [inner] value
        else styles.child key :=
    Json.child_set_cons styles "background" key [inner] value
  -- both sides ask the background the same questions; only what they write differs
  simp only [withBackgroundDefaults, backgroundWithDefaults, Bool.false_or,
    Json.get?_cons styles "background"]
  generalize styles.child "background" = background at hkeep hset ⊢
  rcases background.get? ["backgroundImage"] with - | image
  · exact hkeep
  · rcases (background.get? ["backgroundSize"]).bind Json.text? with - | size
    · exact hset "backgroundSize" _
    · cases hdefault : (decide (size = "contain") &&
        (background.get? ["backgroundPosition"]).isNone)
      · simpa [hdefault] using hkeep
      · simpa [hdefault] using hset "backgroundPosition" _

/-! ### Readings -/

namespace StylePlace

/-- What styles say at a place is what the first member on its path says behind that. -/
theorem rules_of_path {place : StylePlace} {key : String} {path : List String}
    (h : place.path = key :: path) (styles : Json) :
    place.rules styles = rules ⟨path, place.form⟩ (styles.child key) := by
  rw [rules, rules, h, Json.get?_cons]

theorem rules_of_path₂ {place : StylePlace} {category key : String} {path : List String}
    (h : place.path = category :: key :: path) (styles : Json) :
    place.rules styles = rules ⟨path, place.form⟩ ((styles.child category).child key) := by
  rw [rules_of_path h, rules_of_path rfl]

theorem rules_shadow (styles : Json) :
    shadow.rules styles = rules ⟨[], .single "box-shadow"⟩ (styles.child "shadow") :=
  rules_of_path rfl styles

@[simp] theorem rules_null (place : StylePlace) : place.rules .null = [] := by
  rw [rules, Json.get?_null]
  rfl

end StylePlace

/-- The filter of a subtree, which is read straight from the table of properties. -/
def StyleProperty.duotone : StyleProperty :=
  ⟨"filter", ["filter", "duotone"], [], false, false, false⟩

/-- A filter is settled by one member of a member. -/
theorem StyleProperty.rules_duotone (styles : Json) (space : String) (paddingAlign : Bool) :
    duotone.rules styles space paddingAlign =
      if ((styles.child "filter").child "duotone").isTruthy then
        [⟨"filter", (styles.child "filter").child "duotone"⟩]
      else [] := by
  rw [rules, duotone, Json.get?_cons, Json.get?_cons, Json.get?_nil]
  cases (styles.child "filter").child "duotone" <;> rfl

namespace StyleContext

variable (ctx : StyleContext)

/-- The texts of some rules. -/
def texts (rules : List StyleRule) : List Written :=
  rules.filterMap fun rule ↦ (ctx.text? rule.value).map (Written.mk rule.property)

@[simp] theorem texts_nil : ctx.texts [] = [] := rfl

theorem texts_append (a b : List StyleRule) : ctx.texts (a ++ b) = ctx.texts a ++ ctx.texts b :=
  List.filterMap_append

theorem texts_flatMap {α : Type} (places : List α) (rules : α → List StyleRule) :
    ctx.texts (places.flatMap rules) = places.flatMap fun place ↦ ctx.texts (rules place) := by
  induction places with
  | nil => rfl
  | cons place rest ih => rw [List.flatMap_cons, texts_append, ih, List.flatMap_cons]

/-- The readings of a subtree away from the root, in the order of their declarations. -/
def readings : List (Json → List Written) :=
  (fun styles ↦ ctx.texts (StyleProperty.duotone.rules styles ctx.space ctx.paddingAlign)) ::
    (StylePlace.members.map fun place styles ↦ ctx.texts (place.rules styles)) ++
    (fun styles ↦ ctx.texts (StylePlace.shadow.rules styles)) ::
      StylePlace.background.map fun place styles ↦
        ctx.texts (place.rules (withBackgroundDefaults styles false))

end StyleContext

/-- Away from the root only the filter is read straight from the table. -/
theorem StyleProperty.filter_isDirect_false :
    StyleProperty.all.filter (·.isDirect false) = [StyleProperty.duotone] := by
  rfl

/-- Every place before the shadow is a member of a member, and none is a background. -/
theorem StylePlace.exists_path_of_mem_members {place : StylePlace} (h : place ∈ members) :
    ∃ category key path, place.path = category :: key :: path ∧ category ≠ "background" := by
  have hall : ∀ place ∈ members, 2 ≤ place.path.length ∧ place.path.head? ≠ some "background" := by
    decide
  obtain ⟨hlength, hhead⟩ := hall place h
  rcases hpath : place.path with _ | ⟨category, _ | ⟨key, path⟩⟩
  · simp [hpath] at hlength
  · simp [hpath] at hlength
  · rw [hpath] at hhead
    exact ⟨category, key, path, rfl, fun heq ↦ hhead (congrArg some heq)⟩

/-- The places of a background lie one member deep in it. -/
theorem StylePlace.exists_key_of_mem_background {place : StylePlace} (h : place ∈ background) :
    ∃ key, place.path = ["background", key] := by
  have hall : ∀ place ∈ background,
      place.path = ["background", place.path.getLastD "background"] := by decide
  exact ⟨_, hall place h⟩

/-- The defaults of a background do not show at the other places. -/
theorem StylePlace.rules_withBackgroundDefaults {place : StylePlace} {category : String}
    {path : List String} (hpath : place.path = category :: path) (hne : category ≠ "background")
    (styles : Json) : place.rules (withBackgroundDefaults styles false) = place.rules styles := by
  rw [rules_of_path hpath, rules_of_path hpath, child_withBackgroundDefaults, if_neg hne]

/-- **Away from the root the list is the readings, one after another.** -/
theorem StyleContext.written_eq (ctx : StyleContext) (styles : Json) :
    ctx.written styles false = ctx.readings.flatMap (· styles) := by
  have hmembers : StylePlace.members.flatMap
      (fun place ↦ ctx.texts (place.rules (withBackgroundDefaults styles false))) =
      StylePlace.members.flatMap fun place ↦ ctx.texts (place.rules styles) := by
    refine List.flatMap_congr fun place hmem ↦ ?_
    obtain ⟨category, key, path, hpath, hne⟩ := StylePlace.exists_path_of_mem_members hmem
    rw [StylePlace.rules_withBackgroundDefaults hpath hne]
  have hshadow : StylePlace.shadow.rules (withBackgroundDefaults styles false) =
      StylePlace.shadow.rules styles :=
    StylePlace.rules_withBackgroundDefaults rfl (by decide) styles
  have hkept : ∀ rules : List StyleRule,
      rules.filter (fun rule ↦ !ctx.isLeftToLayout false rule) = rules := fun rules ↦
    List.filter_eq_self.2 fun _ _ ↦ rfl
  show ctx.texts (ctx.rules styles false) = _
  rw [rules, StyleProperty.filter_isDirect_false, hkept, texts_append, List.flatMap_singleton,
    StyleRule.extract_eq, texts_flatMap, StylePlace.all, List.flatMap_append, hmembers,
    List.flatMap_cons, hshadow, readings]
  simp only [List.flatMap_cons, List.flatMap_append, List.flatMap_map, List.cons_append]

/-- An object in the place of a shadow says what its `ref` points at. -/
theorem StyleContext.texts_shadow (ctx : StyleContext) {styles : Json}
    (h : (styles.child "shadow").isObject) :
    ctx.texts (StylePlace.shadow.rules styles) =
      ((((styles.child "shadow").child "ref").text?.bind ctx.placeText?).map
        (Written.mk "box-shadow")).toList := by
  rw [StylePlace.rules_shadow]
  generalize styles.child "shadow" = shadow at h ⊢
  cases shadow with
  | obj fields =>
    show ctx.texts [⟨"box-shadow", .obj fields⟩] = _
    rw [texts, List.filterMap_cons, text?_obj]
    rcases ((Json.obj fields).child "ref").text?.bind ctx.placeText? with - | text <;> rfl
  | _ => cases h

/-- Styles without a value say nothing: every category is missing, or an object without members. -/
theorem StyleContext.written_eq_nil (ctx : StyleContext) {styles : Json}
    (h : ∀ category, styles.child category = .null ∨ (styles.child category).isObject)
    (hmember : ∀ category key, (styles.child category).child key = .null) :
    ctx.written styles false = [] := by
  rw [written_eq, List.flatMap_eq_nil_iff]
  intro read hread
  rw [readings, List.mem_append, List.mem_cons, List.mem_cons, List.mem_map, List.mem_map] at hread
  rcases hread with (rfl | ⟨place, hplace, rfl⟩) | rfl | ⟨place, hplace, rfl⟩
  · simp only [StyleProperty.rules_duotone, hmember]
    rfl
  · obtain ⟨category, key, path, hpath, -⟩ := StylePlace.exists_path_of_mem_members hplace
    show ctx.texts (place.rules styles) = []
    rw [StylePlace.rules_of_path₂ hpath, hmember, StylePlace.rules_null, texts_nil]
  · rcases h "shadow" with hnull | hobject
    · show ctx.texts (StylePlace.shadow.rules styles) = []
      rw [StylePlace.rules_shadow, hnull, StylePlace.rules_null, texts_nil]
    · simp only [ctx.texts_shadow hobject, hmember]
      rfl
  · -- without an image there are no defaults
    have hdefaults : backgroundWithDefaults (styles.child "background") =
        styles.child "background" := by
      rw [backgroundWithDefaults, Json.get?_cons, hmember, Json.get?_null]
      rfl
    obtain ⟨key, hpath⟩ := StylePlace.exists_key_of_mem_background hplace
    show ctx.texts (place.rules (withBackgroundDefaults styles false)) = []
    rw [StylePlace.rules_of_path₂ hpath, child_withBackgroundDefaults, if_pos rfl, hdefaults,
      hmember, StylePlace.rules_null, texts_nil]

end GlobalStyles
