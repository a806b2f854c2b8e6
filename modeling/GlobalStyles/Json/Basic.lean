import GlobalStyles.Json.Entries

/-!
# JSON values with ordered objects

The trees this library works on. The entries of an object keep their order, because the place of a
key shows in every text that is written from a tree.

Nothing in the type keeps a key from standing twice. `Json.WellFormed` says that none does, at any
level. Reading a text gives such values, and writing at a path and merging keep to them; look-ups
answer the first entry either way.

Equality comes in two strengths. `=` tells apart two objects whose entries stand in another order;
`Json.same` does not, and it follows the arithmetic of numbers: an integer is never the same as a
fraction, and the two zeros of `Float` are the same.
-/

namespace GlobalStyles

/-- A JSON number: an integer of at most 64 bits, or a binary fraction. -/
inductive Number where
  | int (value : Int)
  | float (value : Float)
  deriving Inhabited

/-- Integers are the same when equal, fractions when they compare equal; the kinds never mix. -/
def Number.same : Number → Number → Bool
  | .int a, .int b => a == b
  | .float a, .float b => a == b
  | _, _ => false

/-- A JSON value whose objects keep the order of their entries. -/
inductive Json where
  | null
  | bool (value : Bool)
  | num (value : Number)
  | str (value : String)
  | arr (items : List Json)
  | obj (fields : List (String × Json))
  deriving Inhabited

/-- The entries of an object, in order. -/
abbrev Fields := Entries Json

namespace Json

/-! ### Views -/

/-- The entries of an object. -/
def fields? : Json → Option Fields
  | obj fields => some fields
  | _ => none

/-- The items of an array. -/
def items? : Json → Option (List Json)
  | arr items => some items
  | _ => none

/-- The text of a string. -/
def text? : Json → Option String
  | str s => some s
  | _ => none

/-- The entries of an object; of any other value, none. -/
def entries : Json → Fields
  | obj fields => fields
  | _ => []

/-- The member of an object under this key. A member that is `null` is there. -/
def member? (tree : Json) (key : String) : Option Json :=
  Entries.get? tree.entries key

/-- Whether this is an object. -/
def isObject : Json → Bool
  | obj _ => true
  | _ => false

/-- Whether this is `null`. -/
def isNull : Json → Bool
  | null => true
  | _ => false

@[simp] theorem isNull_eq_true_iff (tree : Json) : tree.isNull = true ↔ tree = null := by
  cases tree <;> simp [isNull]

theorem exists_obj {tree : Json} (h : tree.isObject = true) : ∃ fields, tree = obj fields := by
  cases tree with
  | obj fields => exact ⟨fields, rfl⟩
  | _ => cases h

/-! ### Form -/

mutual

/-- No object inside this value has a key twice. -/
def WellFormed : Json → Prop
  | arr items => ItemsWellFormed items
  | obj fields => (fields.map Prod.fst).Nodup ∧ FieldsWellFormed fields
  | _ => True

/-- Every item is well formed. -/
def ItemsWellFormed : List Json → Prop
  | [] => True
  | item :: rest => WellFormed item ∧ ItemsWellFormed rest

/-- Every value of an entry is well formed. -/
def FieldsWellFormed : List (String × Json) → Prop
  | [] => True
  | (_, value) :: rest => WellFormed value ∧ FieldsWellFormed rest

end

/-- Members stay well formed when a well-formed value is put among them. -/
theorem FieldsWellFormed.put {fields : Fields} {value : Json} (h : FieldsWellFormed fields)
    (hvalue : value.WellFormed) (key : String) :
    FieldsWellFormed (Entries.put fields key value) := by
  induction fields with
  | nil => exact ⟨hvalue, trivial⟩
  | cons entry rest ih =>
    obtain ⟨k, v⟩ := entry
    simp only [Entries.put]
    split
    · exact ⟨hvalue, h.2⟩
    · exact ⟨h.1, ih h.2⟩

theorem FieldsWellFormed.ofList {fields : Fields} (h : FieldsWellFormed fields) :
    FieldsWellFormed (Entries.ofList fields) := by
  suffices hmade : ∀ made : Fields, FieldsWellFormed made →
      FieldsWellFormed
        (fields.foldl (fun made entry ↦ Entries.put made entry.1 entry.2) made) from
    hmade [] trivial
  induction fields with
  | nil => exact fun made hmade ↦ hmade
  | cons entry rest ih => exact fun made hmade ↦ ih h.2 _ (hmade.put h.1 entry.1)

/-- What is found under a key is well formed. -/
theorem FieldsWellFormed.of_get? {fields : Fields} {key : String} {value : Json}
    (h : FieldsWellFormed fields) (hget : Entries.get? fields key = some value) :
    value.WellFormed := by
  induction fields with
  | nil => simp at hget
  | cons entry rest ih =>
    obtain ⟨k, v⟩ := entry
    simp only [Entries.get?] at hget
    split at hget
    · cases hget
      exact h.1
    · exact ih h.2 hget

/-- Members are well formed when each of their values is. -/
theorem fieldsWellFormed_iff (fields : Fields) :
    FieldsWellFormed fields ↔ ∀ entry ∈ fields, entry.2.WellFormed := by
  induction fields with
  | nil => simp [FieldsWellFormed]
  | cons entry rest ih => simp [FieldsWellFormed, ih]

/-- An object stays well formed when a well-formed value is put into it. -/
theorem wellFormed_obj_put {fields : Fields} {value : Json} (h : (obj fields).WellFormed)
    (hvalue : value.WellFormed) (key : String) :
    (obj (Entries.put fields key value)).WellFormed :=
  ⟨Entries.nodup_keys_put h.1 key value, h.2.put hvalue key⟩

theorem wellFormed_obj_filter {fields : Fields} (h : (obj fields).WellFormed)
    (p : String × Json → Bool) : (obj (fields.filter p)).WellFormed := by
  refine ⟨h.1.sublist (List.filter_sublist.map _), (fieldsWellFormed_iff _).2 fun entry hmem ↦ ?_⟩
  exact (fieldsWellFormed_iff fields).1 h.2 entry (List.mem_filter.1 hmem).1

/-- Taking a key out of a well-formed object leaves one. -/
theorem wellFormed_obj_swapRemove {fields : Fields} (h : (obj fields).WellFormed) (key : String) :
    (obj (Entries.swapRemove fields key)).WellFormed := by
  have hperm := Entries.swapRemove_perm h.1 key
  refine ⟨((hperm.map Prod.fst).nodup_iff).2 (h.1.sublist (List.filter_sublist.map _)), ?_⟩
  rw [fieldsWellFormed_iff]
  intro entry hmem
  exact (fieldsWellFormed_iff fields).1 h.2 entry (List.mem_filter.1 (hperm.subset hmem)).1

/-- The entries of a well-formed value, written over one after another, make a well-formed
object. -/
theorem wellFormed_obj_ofList {fields : Fields} (h : FieldsWellFormed fields) :
    (obj (Entries.ofList fields)).WellFormed :=
  ⟨Entries.nodup_keys_ofList fields, h.ofList⟩

/-- The entries of a well-formed value are well formed; most values have none. -/
theorem fieldsWellFormed_entries {tree : Json} (h : tree.WellFormed) :
    FieldsWellFormed tree.entries := by
  cases tree with
  | obj fields => exact h.2
  | _ => trivial

/-- A well-formed value has no key twice. -/
theorem nodup_keys_entries {tree : Json} (h : tree.WellFormed) :
    (Entries.keys tree.entries).Nodup := by
  cases tree with
  | obj fields => exact h.1
  | _ => exact List.nodup_nil

/-- The entries of a well-formed value are those of a well-formed object. -/
theorem wellFormed_obj_entries {tree : Json} (h : tree.WellFormed) :
    (obj tree.entries).WellFormed :=
  ⟨nodup_keys_entries h, fieldsWellFormed_entries h⟩

/-! ### Sameness -/

mutual

/-- Equality that does not look at the order of object entries. -/
def same : Json → Json → Bool
  | null, null => true
  | bool a, bool b => a == b
  | num a, num b => a.same b
  | str a, str b => a == b
  | arr as, arr bs => sameItems as bs
  | obj fs, obj gs => fs.length == gs.length && sameFields fs gs
  | _, _ => false

/-- Arrays are the same when their items are, place by place. -/
def sameItems : List Json → List Json → Bool
  | [], [] => true
  | a :: as, b :: bs => same a b && sameItems as bs
  | _, _ => false

/-- Every entry on the left has a partner under its key on the right. -/
def sameFields : List (String × Json) → List (String × Json) → Bool
  | [], _ => true
  | (key, a) :: rest, others =>
    (match Entries.get? others key with
      | some b => same a b
      | none => false) && sameFields rest others

end

end Json

end GlobalStyles
