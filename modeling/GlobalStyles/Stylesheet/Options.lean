import GlobalStyles.Json.Decode

/-!
# Options of a compilation
-/

namespace GlobalStyles

/-- What a caller can choose. -/
structure CompileOptions where
  /-- The namespace of custom properties. -/
  space : String
  /-- Whether block gaps are supported; without a choice the settings decide. -/
  blockGap : Option Bool
  /-- Whether layout rules are left out. -/
  disableLayout : Bool
  /-- Whether rules for block style variations are emitted. -/
  variationStyles : Bool
  /-- Whether filters are left out. -/
  skipFilters : Bool
  deriving DecidableEq

namespace CompileOptions

/-- The namespace while none is chosen. -/
def defaultSpace : String := "wp"

/-- The options while nothing is chosen. -/
def standard : CompileOptions := ⟨defaultSpace, none, false, true, false⟩

/-- The members of options. -/
def memberKeys : List String :=
  ["namespace", "blockGap", "disableLayoutStyles", "variationStyles", "skipFilters"]

/-- The options that an object is. -/
def decode? (value : Json) : Option CompileOptions := do
  let fields ← value.fields?
  match ← Decode.record? memberKeys (Json.obj fields) with
  | [space, blockGap, disableLayout, variationStyles, skipFilters] =>
    let space ← Decode.memberOr? Decode.text? defaultSpace space
    let blockGap ← Decode.memberOr? (Decode.nullable? Decode.bool?) none blockGap
    let disableLayout ← Decode.memberOr? Decode.bool? false disableLayout
    let variationStyles ← Decode.memberOr? Decode.bool? true variationStyles
    let skipFilters ← Decode.memberOr? Decode.bool? false skipFilters
    some ⟨space, blockGap, disableLayout, variationStyles, skipFilters⟩
  | _ => none

end CompileOptions

end GlobalStyles
