import GlobalStyles.Proofs.Style.Inherited
import GlobalStyles.Proofs.Style.Written

/-!
# Hollow styles

A hollow value is made of objects and `null` only. Nothing in it has a text, and nothing can point
anywhere, so hollow styles say nothing of their own. There is one thing they are given: away from
the root, a background image covers its block, and an object counts as an image even if there is no
address in it. So what hollow styles say is `background-size: cover`, if they have an image and are
not those of the root, and nothing otherwise (`StyleContext.written_of_isHollow`).
-/

namespace GlobalStyles

namespace Json

mutual

/-- Whether a value is made of objects and `null` only. -/
def isHollow : Json → Bool
  | null => true
  | obj fields => fieldsHollow fields
  | _ => false

/-- Whether every value of an entry is hollow. -/
def fieldsHollow : List (String × Json) → Bool
  | [] => true
  | (_, value) :: rest => isHollow value && fieldsHollow rest

end

theorem isHollow_obj_iff (fields : Fields) :
    (obj fields).isHollow = true ↔ ∀ entry ∈ fields, entry.2.isHollow = true := by
  rw [isHollow]
  induction fields with
  | nil => simp [fieldsHollow]
  | cons entry rest ih => simp [fieldsHollow, ih]

/-- To be hollow is a property that objects share with their entries. -/
theorem inherited_isHollow :
    Inherited (fun value ↦ value.isHollow = true) fun _ value ↦ value.isHollow = true where
  null := by rw [isHollow]
  obj_iff := isHollow_obj_iff
  value h := h
  exchange _ hothers := hothers

theorem css?_of_isHollow {value : Json} (h : value.isHollow = true) : value.css? = none := by
  cases value <;> first | rfl | simp [isHollow] at h

theorem text?_of_isHollow {value : Json} (h : value.isHollow = true) : value.text? = none := by
  cases value <;> first | rfl | simp [isHollow] at h

/-- Whether styles have a background image, whatever it is. -/
def hasImage (styles : Json) : Bool :=
  (styles.get? ["background", "backgroundImage"]).isSome

/-! ### Values without an image -/

mutual

/-- Whether nothing but `null` stands under the key `backgroundImage`, anywhere inside. -/
def isImageless : Json → Bool
  | obj fields => fieldsImageless fields
  | _ => true

/-- Whether no entry is an image, nor any entry inside one. -/
def fieldsImageless : List (String × Json) → Bool
  | [] => true
  | (key, value) :: rest =>
    (key != "backgroundImage" || value.isNull) && isImageless value && fieldsImageless rest

end

/-- What is asked of an entry of a value without an image. -/
def EntryImageless (key : String) (value : Json) : Prop :=
  (key = "backgroundImage" → value = null) ∧ value.isImageless = true

/-- An object has no image when none of its entries is one or has one. -/
theorem isImageless_obj_iff (fields : Fields) :
    (obj fields).isImageless = true ↔ ∀ entry ∈ fields, EntryImageless entry.1 entry.2 := by
  rw [isImageless]
  induction fields with
  | nil => simp [fieldsImageless]
  | cons entry rest ih =>
    rw [fieldsImageless, Bool.and_eq_true, Bool.and_eq_true, Bool.or_eq_true, bne_iff_ne,
      isNull_eq_true_iff, ne_eq, ← imp_iff_not_or, ih, List.forall_mem_cons]
    rfl

/-- To have no image is a property that objects share with their entries. -/
theorem inherited_isImageless :
    Inherited (fun value ↦ value.isImageless = true) EntryImageless where
  null := by simp [isImageless]
  obj_iff := isImageless_obj_iff
  value h := h.2
  exchange h hothers := ⟨fun hkey ↦ (nomatch h.1 hkey), hothers⟩

/-- Styles without any image have none as their background. -/
theorem hasImage_of_isImageless {styles : Json} (h : styles.isImageless = true) :
    styles.hasImage = false := by
  have hbackground := inherited_isImageless.child h "background"
  rw [hasImage, get?_cons, Option.isSome_eq_false_iff, Option.isNone_iff_eq_none, get?_cons,
    child]
  rcases hmember : (styles.child "background").member? "backgroundImage" with - | image
  · rfl
  · rw [(inherited_isImageless.of_member? hbackground hmember).1 rfl]
    rfl

end Json

open Json

namespace StyleContext

variable (ctx : StyleContext)

/-- A hollow value says nothing and points nowhere. -/
theorem text?_eq_none_of_isHollow {value : Json} (h : value.isHollow = true) :
    ctx.text? value = none := by
  cases value with
  | null => rfl
  | obj fields =>
    rw [text?_obj, text?_of_isHollow (inherited_isHollow.child h "ref")]
    rfl
  | _ => simp [isHollow] at h

/-- What is said of hollow values has no text. -/
theorem texts_eq_nil {rules : List StyleRule} (h : ∀ rule ∈ rules, rule.value.isHollow = true) :
    ctx.texts rules = [] := by
  refine List.filterMap_eq_nil_iff.2 fun rule hmem ↦ ?_
  rw [ctx.text?_eq_none_of_isHollow (h rule hmem)]
  rfl

theorem isHollow_of_mem_rules {styles : Json} (h : styles.isHollow = true) (place : StylePlace) :
    ∀ rule ∈ place.rules styles, rule.value.isHollow = true :=
  place.inherited_rules inherited_isHollow (fun _ hurl ↦ by simp [isHollow] at hurl) h

/-- Without defaults hollow styles say nothing. -/
theorem written_eq_nil_of_isHollow {styles : Json} (h : styles.isHollow = true) {isRoot : Bool}
    (hdefaults : withBackgroundDefaults styles isRoot = styles) :
    ctx.written styles isRoot = [] := by
  refine ctx.texts_eq_nil fun rule hmem ↦ ?_
  rw [rules, List.mem_append, hdefaults, StyleRule.extract_eq] at hmem
  rcases hmem with hmem | hmem
  · obtain ⟨property, -, hmem⟩ := List.mem_flatMap.1 hmem
    exact property.inherited_rules inherited_isHollow h _ _ rule hmem
  · obtain ⟨place, -, hmem⟩ := List.mem_flatMap.1 (List.mem_filter.1 hmem).1
    exact isHollow_of_mem_rules h place rule hmem

/-- A background with an image is given a size, as it has no text for one. -/
theorem child_backgroundWithDefaults {background : Json} (h : background.isHollow = true)
    (himage : (background.get? ["backgroundImage"]).isSome) (key : String) :
    (backgroundWithDefaults background).child key =
      if key = "backgroundSize" then .str "cover" else background.child key := by
  have hsize : (background.get? ["backgroundSize"]).bind Json.text? = none := by
    rcases hget : background.get? ["backgroundSize"] with - | size
    · rfl
    · exact text?_of_isHollow (inherited_isHollow.of_get? h hget)
  have hne : (background.get? ["backgroundImage"]).isNone ≠ true := by
    rw [ne_eq, Option.isNone_iff_eq_none]
    exact Option.ne_none_iff_isSome.2 himage
  rw [backgroundWithDefaults, if_neg hne, hsize]
  exact child_set_cons background "backgroundSize" key [] _

/-- The size that covers the block is all that hollow styles with an image are given. -/
theorem written_of_hasImage {styles : Json} (h : styles.isHollow = true)
    (himage : styles.hasImage = true) :
    ctx.written styles false = [⟨"background-size", "cover"⟩] := by
  rw [hasImage, get?_cons] at himage
  have hbackground := inherited_isHollow.child h "background"
  have hplace (place : StylePlace) : ctx.texts (place.rules styles) = [] :=
    ctx.texts_eq_nil (isHollow_of_mem_rules h place)
  -- in the background, all but the size is as it was
  have hread (key : String) (form : StyleForm) :
      StylePlace.rules ⟨["background", key], form⟩ (withBackgroundDefaults styles false) =
        StylePlace.rules ⟨[], form⟩ (if key = "backgroundSize" then .str "cover"
          else (styles.child "background").child key) := by
    rw [StylePlace.rules_of_path₂ rfl, child_withBackgroundDefaults, if_pos rfl,
      child_backgroundWithDefaults hbackground himage]
  have hmember {key : String} (hkey : key ≠ "backgroundSize") (form : StyleForm) :
      ctx.texts (StylePlace.rules ⟨["background", key], form⟩
        (withBackgroundDefaults styles false)) = [] := by
    have hsame := hplace ⟨["background", key], form⟩
    rw [StylePlace.rules_of_path₂ rfl] at hsame
    rw [hread, if_neg hkey, hsame]
  have hsize : ctx.texts (StylePlace.rules
      ⟨["background", "backgroundSize"], .single "background-size"⟩
        (withBackgroundDefaults styles false)) = [⟨"background-size", "cover"⟩] := by
    rw [hread, if_pos rfl]
    rfl
  have hbackgrounds : StylePlace.background.flatMap
      (fun place ↦ ctx.texts (place.rules (withBackgroundDefaults styles false))) =
      [⟨"background-size", "cover"⟩] := by
    simp only [StylePlace.background, StylePlace.plain, List.map_cons, List.map_nil,
      List.flatMap_cons, List.flatMap_nil, hsize]
    rw [hmember (by decide), hmember (by decide), hmember (by decide), hmember (by decide)]
    rfl
  have hduotone : ctx.texts (StyleProperty.duotone.rules styles ctx.space ctx.paddingAlign) = [] :=
    ctx.texts_eq_nil (StyleProperty.duotone.inherited_rules inherited_isHollow h _ _)
  have hmembers : StylePlace.members.flatMap (fun _ ↦ ([] : List Written)) = [] :=
    List.flatMap_eq_nil_iff.2 fun _ _ ↦ rfl
  rw [written_eq, readings]
  simp only [List.cons_append, List.flatMap_cons, List.flatMap_append, List.flatMap_map, hduotone,
    hplace, hmembers, hbackgrounds, List.nil_append]

/-- **What hollow styles say.** -/
theorem written_of_isHollow {styles : Json} (h : styles.isHollow = true) (isRoot : Bool) :
    ctx.written styles isRoot =
      if !isRoot && styles.hasImage then [⟨"background-size", "cover"⟩] else [] := by
  cases isRoot
  · cases himage : styles.hasImage
    · refine ctx.written_eq_nil_of_isHollow h ?_
      rw [hasImage, Option.isSome_eq_false_iff] at himage
      rw [withBackgroundDefaults, himage]
      rfl
    · exact ctx.written_of_hasImage h himage
  · exact ctx.written_eq_nil_of_isHollow h rfl

end StyleContext

end GlobalStyles
