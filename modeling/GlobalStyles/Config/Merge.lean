import GlobalStyles.Config.Error
import GlobalStyles.Json.Path

/-!
# Merging layers

A configuration comes in two layers: a base, and what a user wrote over it. Objects merge key by
key; everything else in the user's layer, `null` and arrays included, takes the place of what the
base has. A preset catalog is an array of one origin, so two of them never mix item by item.

A user cannot name the typeface "whatever there was before", so the word `default` as the font
family of some `typography` stands for it: it merges to `null`, which emits nothing.
-/

namespace GlobalStyles.Config

/-- Whether the value at this path asks for the inherited typeface. -/
def asksForInheritedFont (path : List String) (value : Json) : Bool :=
  match path.reverse, value with
  | field :: parent :: _, .str text =>
    parent == "typography" && field == "fontFamily" && text == "default"
  | _, _ => false

mutual

/-- The user's value at a path laid over what the base has there. -/
def overlay (path : List String) (base : Option Json) (user : Json) : Except ConfigError Json :=
  if ConfigError.maxDepth < path.length then .error (.nestingTooDeep path)
  else match user with
    | .obj fields =>
      (overlayFields path ((base.map Json.entries).getD []) fields).map Json.obj
    | other => .ok other

/-- The user's entries written one after another into those of the base. -/
def overlayFields (path : List String) (merged : Fields) :
    List (String × Json) → Except ConfigError Fields
  | [] => .ok merged
  | (key, value) :: rest => do
    let value ←
      if asksForInheritedFont (path ++ [key]) value then .ok .null
      else overlay (path ++ [key]) (Entries.get? merged key) value
    overlayFields path (Entries.put merged key value) rest

end

/-- The user's layer over the base. A layer that is no object is read as an empty one. -/
def merge (base user : Json) : Except ConfigError Json :=
  overlay [] (some base) (.obj user.entries)

/-! ### What is merged is well formed -/

mutual

/-- Laying one well-formed value over another gives a well-formed one. -/
theorem wellFormed_of_overlay {path : List String} {base : Option Json} :
    ∀ {user merged : Json}, (∀ tree ∈ base, tree.WellFormed) → user.WellFormed →
      overlay path base user = .ok merged → merged.WellFormed
  | .obj fields, merged, hbase, huser, h => by
    simp only [overlay] at h
    split at h
    · cases h
    · obtain ⟨made, hmade, rfl⟩ : ∃ made,
          overlayFields path ((base.map Json.entries).getD []) fields = .ok made ∧
            merged = .obj made := by
        cases hm : overlayFields path ((base.map Json.entries).getD []) fields with
        | error e => simp [hm, Except.map] at h
        | ok made => exact ⟨made, rfl, by simpa [hm, Except.map] using h.symm⟩
      refine wellFormed_of_overlayFields ?_ huser.2 hmade
      cases base with
      | none => exact ⟨List.nodup_nil, trivial⟩
      | some tree => exact Json.wellFormed_obj_entries (hbase tree rfl)
  | .null, merged, _, huser, h | .bool _, merged, _, huser, h | .num _, merged, _, huser, h
  | .str _, merged, _, huser, h | .arr _, merged, _, huser, h => by
    simp only [overlay] at h
    split at h
    · cases h
    · cases h
      exact huser

theorem wellFormed_of_overlayFields {path : List String} {made : Fields} :
    ∀ {fields : List (String × Json)} {merged : Fields}, (Json.obj made).WellFormed →
      Json.FieldsWellFormed fields → overlayFields path made fields = .ok merged →
      (Json.obj merged).WellFormed
  | [], merged, hmade, _, h => by
    cases h
    exact hmade
  | (key, user) :: rest, merged, hmade, hfields, h => by
    simp only [overlayFields] at h
    split at h
    · exact wellFormed_of_overlayFields
        ⟨Entries.nodup_keys_put hmade.1 key _, hmade.2.put (by trivial) key⟩ hfields.2 h
    · cases hv : overlay (path ++ [key]) (Entries.get? made key) user with
      | error e => simp [hv, bind, Except.bind] at h
      | ok value =>
        have hvalue := wellFormed_of_overlay (fun _ ht ↦ hmade.2.of_get? ht) hfields.1 hv
        simp only [hv, bind, Except.bind] at h
        exact wellFormed_of_overlayFields
          ⟨Entries.nodup_keys_put hmade.1 key _, hmade.2.put hvalue key⟩ hfields.2 h

end

/-- Two well-formed layers merge to a well-formed tree. -/
theorem wellFormed_of_merge {base user merged : Json} (hbase : base.WellFormed)
    (huser : user.WellFormed) (h : merge base user = .ok merged) : merged.WellFormed :=
  wellFormed_of_overlay (fun _ ht ↦ Option.some.inj ht ▸ hbase)
    (Json.wellFormed_obj_entries huser) h

end GlobalStyles.Config
