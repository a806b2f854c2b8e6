import GlobalStyles.Proofs.Style.Written
import Mathlib.Data.List.Flatten
import Mathlib.Data.List.Nodup

/-!
# No property twice

`StyleRule.table` lists every property that styles can have, with the path on which its value
stands. What is extracted of a subtree goes through this table once: a property is left out or it
comes once and in its place, and its value is the one at its path. A box is either a shorthand or
its sides, and so a property is never said both ways.

Declarations are the properties read straight from the inventory and then those of the table, of
which some are left out. So their names are a part of one list as well, which only depends on the
namespace (`StyleContext.properties`).
-/

namespace GlobalStyles

/-! ### The table -/

namespace StyleRule

/-- The properties of the categories and the paths of their values, in the order in which they are
extracted. -/
def table : List (String × List String) :=
  [("border-color", ["border", "color"]), ("border-radius", ["border", "radius"]),
    ("border-top-left-radius", ["border", "radius", "topLeft"]),
    ("border-top-right-radius", ["border", "radius", "topRight"]),
    ("border-bottom-left-radius", ["border", "radius", "bottomLeft"]),
    ("border-bottom-right-radius", ["border", "radius", "bottomRight"]),
    ("border-style", ["border", "style"]), ("border-width", ["border", "width"]),
    ("border-top-color", ["border", "top", "color"]),
    ("border-top-style", ["border", "top", "style"]),
    ("border-top-width", ["border", "top", "width"]),
    ("border-right-color", ["border", "right", "color"]),
    ("border-right-style", ["border", "right", "style"]),
    ("border-right-width", ["border", "right", "width"]),
    ("border-bottom-color", ["border", "bottom", "color"]),
    ("border-bottom-style", ["border", "bottom", "style"]),
    ("border-bottom-width", ["border", "bottom", "width"]),
    ("border-left-color", ["border", "left", "color"]),
    ("border-left-style", ["border", "left", "style"]),
    ("border-left-width", ["border", "left", "width"]),
    ("color", ["color", "text"]), ("background", ["color", "gradient"]),
    ("background-color", ["color", "background"]),
    ("min-height", ["dimensions", "minHeight"]), ("aspect-ratio", ["dimensions", "aspectRatio"]),
    ("outline-color", ["outline", "color"]), ("outline-offset", ["outline", "offset"]),
    ("outline-style", ["outline", "style"]), ("outline-width", ["outline", "width"]),
    ("padding", ["spacing", "padding"]), ("padding-top", ["spacing", "padding", "top"]),
    ("padding-right", ["spacing", "padding", "right"]),
    ("padding-bottom", ["spacing", "padding", "bottom"]),
    ("padding-left", ["spacing", "padding", "left"]),
    ("margin", ["spacing", "margin"]), ("margin-top", ["spacing", "margin", "top"]),
    ("margin-right", ["spacing", "margin", "right"]),
    ("margin-bottom", ["spacing", "margin", "bottom"]),
    ("margin-left", ["spacing", "margin", "left"]),
    ("font-family", ["typography", "fontFamily"]), ("font-size", ["typography", "fontSize"]),
    ("font-style", ["typography", "fontStyle"]), ("font-weight", ["typography", "fontWeight"]),
    ("line-height", ["typography", "lineHeight"]),
    ("letter-spacing", ["typography", "letterSpacing"]),
    ("column-count", ["typography", "textColumns"]),
    ("text-decoration", ["typography", "textDecoration"]),
    ("text-transform", ["typography", "textTransform"]),
    ("writing-mode", ["typography", "writingMode"]), ("box-shadow", ["shadow"]),
    ("background-image", ["background", "backgroundImage"]),
    ("background-position", ["background", "backgroundPosition"]),
    ("background-repeat", ["background", "backgroundRepeat"]),
    ("background-size", ["background", "backgroundSize"]),
    ("background-attachment", ["background", "backgroundAttachment"])]

/-- The value of a property whose path is given: what stands there. A background image with an
address is the `url()` of it. -/
def valueAt? (styles : Json) (property : String) (path : List String) : Option Json :=
  if property = "background-image" then
    match (styles.get? (path ++ ["url"])).bind Json.text? with
    | some url => some (.str ("url( '" ++ url ++ "' )"))
    | none => styles.get? path
  else styles.get? path

theorem nodup_table : (table.map Prod.fst).Nodup := by
  decide +kernel

end StyleRule

theorem StyleRule.map_property_at?_sublist (styles : Json) (path : List String)
    (property : String) :
    ((at? styles path property).map StyleRule.property).Sublist [property] := by
  rw [at?]
  rcases styles.get? path with - | value
  · exact List.nil_sublist _
  · exact List.Sublist.refl _

/-! ### What a place says -/

namespace StyleForm

/-- The properties that a form of values is about. -/
def properties : StyleForm → List String
  | single property => [property]
  | sided property sides => property :: sides.map Prod.snd
  | image => ["background-image"]

/-- A value of some form says each of its properties once, and in order. -/
theorem map_property_rules_sublist (form : StyleForm) (value : Json) :
    ((form.rules value).map StyleRule.property).Sublist form.properties := by
  cases form with
  | single property => exact List.Sublist.refl _
  | sided property sides =>
    rw [rules, properties]
    split
    · -- the sides, one by one
      rw [List.map_flatMap, List.map_eq_flatMap]
      exact (List.Sublist.flatMap_right sides fun side _ ↦
        StyleRule.map_property_at?_sublist value [side.1] side.2).cons property
    · exact (List.nil_sublist _).cons_cons property
  | image =>
    rw [rules]
    split
    · exact List.Sublist.refl _
    · split
      · exact List.Sublist.refl _
      · exact List.nil_sublist _

/-- The properties of a value of some form, with their paths. -/
def propertyPaths (path : List String) : StyleForm → List (String × List String)
  | single property => [(property, path)]
  | sided property sides => (property, path) :: sides.map fun side ↦ (side.2, path ++ [side.1])
  | image => [("background-image", path)]

theorem map_fst_propertyPaths (form : StyleForm) (path : List String) :
    (form.propertyPaths path).map Prod.fst = form.properties := by
  cases form with
  | sided property sides => rw [propertyPaths, List.map_cons, List.map_map]; rfl
  | _ => rfl

end StyleForm

namespace StylePlace

/-- The properties of a place, with their paths. -/
def propertyPaths (place : StylePlace) : List (String × List String) :=
  place.form.propertyPaths place.path

/-- The table is that of the places. -/
theorem flatMap_propertyPaths_all : all.flatMap propertyPaths = StyleRule.table := by
  rfl

theorem map_property_sublist (place : StylePlace) (styles : Json) :
    ((place.rules styles).map StyleRule.property).Sublist place.form.properties := by
  rw [rules]
  rcases styles.get? place.path with - | value
  · exact List.nil_sublist _
  · exact place.form.map_property_rules_sublist value

/-- Whether a place is that of a background image. -/
def isImage (place : StylePlace) : Bool :=
  match place.form with
  | .image => true
  | _ => false

/-- Only the place of the background image has its name. -/
theorem ne_image_of_mem_propertyPaths {place : StylePlace} (h : place ∈ all)
    (himage : place.isImage = false) {entry : String × List String}
    (hentry : entry ∈ place.propertyPaths) : entry.1 ≠ "background-image" := by
  have hall : ∀ place ∈ all, place.isImage = false →
      ∀ entry ∈ place.propertyPaths, entry.1 ≠ "background-image" := by
    decide +kernel
  exact hall place h himage entry hentry

/-- Away from the image a value is said as it is, or each of its sides is. -/
theorem exists_path_of_not_isImage {place : StylePlace} (himage : place.isImage = false)
    {styles value : Json} (hvalue : styles.get? place.path = some value) {rule : StyleRule}
    (hrule : rule ∈ place.form.rules value) :
    ∃ path, (rule.property, path) ∈ place.propertyPaths ∧ styles.get? path = some rule.value := by
  obtain ⟨path, property | ⟨property, sides⟩ | _⟩ := place
  · obtain rfl := List.mem_singleton.1 hrule
    exact ⟨path, List.mem_singleton_self _, hvalue⟩
  · rw [StyleForm.rules] at hrule
    split at hrule
    · obtain ⟨side, hside, hat⟩ := List.mem_flatMap.1 hrule
      obtain ⟨found, hfound, rfl⟩ := Option.map_eq_some_iff.1 (Option.mem_toList.1 hat)
      refine ⟨path ++ [side.1], List.mem_cons_of_mem _ (List.mem_map_of_mem hside), ?_⟩
      rw [Json.get?_append, hvalue, Option.bind_some, hfound]
    · obtain rfl := List.mem_singleton.1 hrule
      exact ⟨path, List.mem_cons_self, hvalue⟩
  · cases himage

/-- A background image is said as it is, or as the `url()` of its address. -/
theorem valueAt?_of_isImage {place : StylePlace} (himage : place.isImage = true)
    {styles value : Json} (hvalue : styles.get? place.path = some value) {rule : StyleRule}
    (hrule : rule ∈ place.form.rules value) :
    (rule.property, place.path) ∈ place.propertyPaths ∧
      StyleRule.valueAt? styles rule.property place.path = some rule.value := by
  obtain ⟨path, _ | _ | _⟩ := place
  case image =>
    have hurl : styles.get? (path ++ ["url"]) = value.get? ["url"] := by
      rw [Json.get?_append, hvalue, Option.bind_some]
    rw [StyleForm.rules] at hrule
    split at hrule <;> rename_i htext
    · obtain rfl := List.mem_singleton.1 hrule
      refine ⟨List.mem_singleton_self _, ?_⟩
      rw [StyleRule.valueAt?, if_pos rfl, hurl, htext]
    · split at hrule
      · obtain rfl := List.mem_singleton.1 hrule
        refine ⟨List.mem_singleton_self _, ?_⟩
        rw [StyleRule.valueAt?, if_pos rfl, hurl, htext]
        exact hvalue
      · cases hrule
  all_goals cases himage

/-- What a place says is found at the paths of its properties. -/
theorem exists_path_of_mem_rules {place : StylePlace} (h : place ∈ all) {styles : Json}
    {rule : StyleRule} (hrule : rule ∈ place.rules styles) :
    ∃ path, (rule.property, path) ∈ place.propertyPaths ∧
      StyleRule.valueAt? styles rule.property path = some rule.value := by
  rw [rules] at hrule
  rcases hvalue : styles.get? place.path with - | value
  · rw [hvalue] at hrule
    cases hrule
  · rw [hvalue, Option.map_some, Option.getD_some] at hrule
    cases himage : place.isImage
    · obtain ⟨path, hmem, hget⟩ := exists_path_of_not_isImage himage hvalue hrule
      refine ⟨path, hmem, ?_⟩
      rw [StyleRule.valueAt?, if_neg (ne_image_of_mem_propertyPaths h himage hmem), hget]
    · exact ⟨place.path, valueAt?_of_isImage himage hvalue hrule⟩

end StylePlace

/-- **Extraction goes through the table once.** -/
theorem StyleRule.map_property_extract_sublist (styles : Json) :
    ((extract styles).map StyleRule.property).Sublist (table.map Prod.fst) := by
  rw [extract_eq, ← StylePlace.flatMap_propertyPaths_all, List.map_flatMap, List.map_flatMap]
  refine .flatMap_right _ fun place _ ↦ ?_
  rw [StylePlace.propertyPaths, StyleForm.map_fst_propertyPaths]
  exact place.map_property_sublist styles

/-- What is extracted are the values at the paths of the table. -/
theorem StyleRule.exists_path_of_mem_extract {styles : Json} {rule : StyleRule}
    (h : rule ∈ extract styles) :
    ∃ path, (rule.property, path) ∈ table ∧
      valueAt? styles rule.property path = some rule.value := by
  rw [extract_eq] at h
  obtain ⟨place, hplace, hrule⟩ := List.mem_flatMap.1 h
  obtain ⟨path, hmem, hvalue⟩ := StylePlace.exists_path_of_mem_rules hplace hrule
  rw [← StylePlace.flatMap_propertyPaths_all]
  exact ⟨path, List.mem_flatMap.2 ⟨place, hplace, hmem⟩, hvalue⟩

/-! ### Declarations -/

namespace StyleProperty

/-- The names under which an entry of the inventory is declared. -/
def names (property : StyleProperty) (space : String) : List String :=
  property.name space :: property.sides.map fun side ↦ property.name space ++ "-" ++ side.1

/-- An entry of the inventory says each of its properties once, and in order. -/
theorem map_property_rules_sublist (property : StyleProperty) (styles : Json) (space : String)
    (paddingAlign : Bool) :
    ((property.rules styles space paddingAlign).map StyleRule.property).Sublist
      (property.names space) := by
  rw [rules, names]
  rcases styles.get? property.path with - | value
  · exact List.nil_sublist _
  · simp only
    split
    · exact List.nil_sublist _
    · split
      · -- the sides, one by one
        rw [List.map_filterMap, List.filterMap_eq_flatMap_toList, List.map_eq_flatMap]
        refine (List.Sublist.flatMap_right property.sides fun side _ ↦ ?_).cons _
        rcases (value.get? [side.2]).filter Json.isTruthy with - | found
        · exact List.nil_sublist _
        · exact List.Sublist.refl _
      · split
        · exact (List.nil_sublist _).cons_cons _
        · exact List.nil_sublist _

/-- The padding of the root, which is read straight from the table of properties. -/
def rootPadding : StyleProperty :=
  ⟨"--style--root--padding", ["spacing", "padding"],
    [("top", "top"), ("right", "right"), ("bottom", "bottom"), ("left", "left")], true, false, true⟩

/-- At the root the filter and the padding are read straight from the table. -/
theorem filter_isDirect_true : all.filter (·.isDirect true) = [duotone, rootPadding] := by
  rfl

theorem names_rootPadding (space : String) :
    rootPadding.names space = ["", "-top", "-right", "-bottom", "-left"].map
      fun side ↦ "--" ++ space ++ "--style--root--padding" ++ side := by
  have hname : rootPadding.name space = "--" ++ space ++ "--style--root--padding" := by
    have hsplit : "--style--root--padding" = "--" ++ "style--root--padding" := by rfl
    rw [hsplit, ← String.append_assoc]
    rfl
  show rootPadding.name space :: ["top", "right", "bottom", "left"].map
    (fun side ↦ rootPadding.name space ++ "-" ++ side) = _
  simp only [hname, List.map_cons, List.map_nil, String.append_empty, String.append_assoc]
  rfl

end StyleProperty

namespace StyleContext

/-- The properties that styles can declare under a namespace, in the order of declarations. The
padding of the root is declared as it is, or side by side. -/
def properties (space : String) : List String :=
  "filter" ::
    (["", "-top", "-right", "-bottom", "-left"].map
      fun side ↦ "--" ++ space ++ "--style--root--padding" ++ side) ++
    StyleRule.table.map Prod.fst

/-- Only the custom properties of the padding start with two hyphens. -/
theorem take_ne_of_mem_table :
    ∀ name ∈ "filter" :: StyleRule.table.map Prod.fst, name.toList.take 2 ≠ ['-', '-'] := by
  decide +kernel

/-- **All names are different**: those of the inventory, the filter and the paddings of the root. -/
theorem nodup_properties (space : String) : (properties space).Nodup := by
  have hpadding : ∀ name ∈ ["", "-top", "-right", "-bottom", "-left"].map
      (fun side ↦ "--" ++ space ++ "--style--root--padding" ++ side),
      name.toList.take 2 = ['-', '-'] := by
    intro name hname
    obtain ⟨side, -, rfl⟩ := List.mem_map.1 hname
    simp
  have hfilter : "filter" ∉ StyleRule.table.map Prod.fst := by decide +kernel
  rw [properties, List.cons_append, List.nodup_cons, List.nodup_append, List.mem_append, not_or]
  refine ⟨⟨fun hmem ↦ take_ne_of_mem_table "filter" List.mem_cons_self (hpadding "filter" hmem),
    hfilter⟩, ?_, StyleRule.nodup_table, ?_⟩
  · exact List.Nodup.map (fun a b ↦ (String.append_right_inj _).1) (by decide)
  · rintro name hname _ hother rfl
    exact take_ne_of_mem_table name (List.mem_cons_of_mem _ hother) (hpadding name hname)

/-- The texts of rules keep their properties, in order. -/
theorem map_property_texts_sublist (ctx : StyleContext) (rules : List StyleRule) :
    ((ctx.texts rules).map Written.property).Sublist (rules.map StyleRule.property) := by
  rw [texts, List.map_filterMap, List.filterMap_eq_flatMap_toList, List.map_eq_flatMap]
  refine .flatMap_right rules fun rule _ ↦ ?_
  rcases ctx.text? rule.value with - | text
  · exact List.nil_sublist _
  · exact List.Sublist.refl _

/-- What is read straight from the inventory is the filter, then the paddings of the root. -/
theorem map_property_direct_sublist (ctx : StyleContext) (styles : Json) (isRoot : Bool) :
    (((StyleProperty.all.filter (·.isDirect isRoot)).flatMap
      (·.rules styles ctx.space ctx.paddingAlign)).map StyleRule.property).Sublist
      ("filter" :: ["", "-top", "-right", "-bottom", "-left"].map
        fun side ↦ "--" ++ ctx.space ++ "--style--root--padding" ++ side) := by
  have hfilter := StyleProperty.duotone.map_property_rules_sublist styles ctx.space
    ctx.paddingAlign
  cases isRoot
  · rw [StyleProperty.filter_isDirect_false, List.flatMap_singleton]
    exact hfilter.trans ((List.nil_sublist _).cons_cons "filter")
  · rw [StyleProperty.filter_isDirect_true, List.flatMap_cons, List.flatMap_singleton,
      List.map_append, ← StyleProperty.names_rootPadding]
    exact hfilter.append (StyleProperty.rootPadding.map_property_rules_sublist _ _ _)

/-- **A subtree declares a sublist of all properties.** -/
theorem map_property_declarations_sublist (ctx : StyleContext) (styles : Json) (isRoot : Bool) :
    ((ctx.declarations styles isRoot).map Declaration.property).Sublist (properties ctx.space) := by
  have hwritten : (ctx.declarations styles isRoot).map Declaration.property =
      (ctx.texts (ctx.rules styles isRoot)).map Written.property := by
    rw [declarations, List.map_map]
    rfl
  rw [hwritten, properties]
  refine (ctx.map_property_texts_sublist _).trans ?_
  rw [rules, List.map_append]
  exact (ctx.map_property_direct_sublist styles isRoot).append
    ((List.filter_sublist.map _).trans (StyleRule.map_property_extract_sublist _))

/-- **No property twice.** The properties extracted of a subtree are a part of the table, in its
order, and each has the value at its path. The properties declared are a part of a list that is the
same for all subtrees, contexts and nodes under a namespace. Nothing stands twice in the table or in
that list. -/
theorem declares_properties_once (styles : Json) :
    (StyleRule.table.map Prod.fst).Nodup ∧
      ((StyleRule.extract styles).map StyleRule.property).Sublist
        (StyleRule.table.map Prod.fst) ∧
      (∀ rule ∈ StyleRule.extract styles, ∃ path, (rule.property, path) ∈ StyleRule.table ∧
        StyleRule.valueAt? styles rule.property path = some rule.value) ∧
      ∀ (ctx : StyleContext) (isRoot : Bool), (properties ctx.space).Nodup ∧
        ((ctx.declarations styles isRoot).map Declaration.property).Sublist
          (properties ctx.space) :=
  ⟨StyleRule.nodup_table, StyleRule.map_property_extract_sublist styles,
    fun _ ↦ StyleRule.exists_path_of_mem_extract, fun ctx isRoot ↦
      ⟨nodup_properties ctx.space, ctx.map_property_declarations_sublist styles isRoot⟩⟩

/-- Styles with an image, a shorthand, a box by sides and a filter. -/
def heroStyles : Json :=
  .obj
    [("background", .obj [("backgroundImage", .obj [("url", .str "sky.png")])]),
      ("border", .obj [("radius", .str "2px"), ("left", .obj [("width", .num (.int 1))])]),
      ("spacing", .obj [("padding", .obj [("left", .str "1em"), ("top", .num (.int 0))])]),
      ("filter", .obj [("duotone", .str "none")])]

theorem declares_properties_once_hero :
    ⟨"background-image", .str "url( 'sky.png' )"⟩ ∈ StyleRule.extract heroStyles ∧
      (∃ path, ("background-image", path) ∈ StyleRule.table ∧
        StyleRule.valueAt? heroStyles "background-image" path = some (.str "url( 'sky.png' )")) ∧
      ((StyleContext.standalone "app").declarations heroStyles false).map Declaration.property =
        ["filter", "border-radius", "border-left-width", "padding-top", "padding-left",
          "background-image", "background-size"] := by
  have hmem : (⟨"background-image", .str "url( 'sky.png' )"⟩ : StyleRule) ∈
      StyleRule.extract heroStyles := by
    have hlast : (StyleRule.extract heroStyles).getLast? =
        some ⟨"background-image", .str "url( 'sky.png' )"⟩ := by rfl
    exact List.mem_of_getLast? hlast
  exact ⟨hmem, (declares_properties_once heroStyles).2.2.1 _ hmem, by decide +kernel⟩

end StyleContext

end GlobalStyles
