import GlobalStyles.Registry.Basic
import GlobalStyles.Style.Declarations

/-!
# Features with selectors of their own

A registry may send a feature of a block's styles, such as its border, to another selector than the
block's. `FeaturePart.take` moves those features out of a style subtree: a selector for the whole
feature takes all of it, and split selectors take the parts they name, where the selector of `root`
takes what is left.

The parts stay in the order in which they were taken, which is that of the registry. Their
declarations are gathered by selector in `FeaturePart.groups`.
-/

namespace GlobalStyles

/-- A subtree that was taken out, with its selector. -/
structure FeaturePart where
  selector : String
  styles : Json

namespace FeaturePart

/-- A part that holds one feature. -/
def ofFeature (selector feature : String) (value : Json) : FeaturePart :=
  ⟨selector, .obj [(feature, value)]⟩

/-- Take the named parts out of the members of a feature. -/
def takeNamed (feature : String) : Entries String → Fields → List FeaturePart × Fields
  | [], members => ([], members)
  | (key, selector) :: rest, members =>
    if key = "root" then takeNamed feature rest members
    else
      match Entries.get? members key with
      | none => takeNamed feature rest members
      | some value =>
        let (parts, left) := takeNamed feature rest (Entries.swapRemove members key)
        (ofFeature selector feature (.obj [(key, value)]) :: parts, left)

/-- The parts that a selector takes of a feature, what is left of the feature's members, and the
selector that takes these, if any does. -/
def takeMembers (feature : String) (members : Fields) :
    FeatureSelector → List FeaturePart × Fields × Option String
  | .whole selector => ([], members, some selector)
  | .split selectors =>
    let (parts, left) := takeNamed feature selectors members
    (parts, left, Entries.get? selectors "root")

/-- Take one feature out of the styles, if it is an object there. -/
def takeFeature (styles : Fields) (feature : String) (selector : FeatureSelector) :
    List FeaturePart × Fields :=
  match Entries.get? styles feature with
  | some (.obj members) =>
    if feature = "root" then ([], styles)
    else
      match takeMembers feature members selector with
      | (parts, left, some rest) =>
        (parts ++ [ofFeature rest feature (.obj left)], Entries.swapRemove styles feature)
      | (parts, left, none) => (parts, Entries.put styles feature (.obj left))
  | _ => ([], styles)

/-- Take features out of the styles, one after another. -/
def takeAll : Entries FeatureSelector → Fields → List FeaturePart × Fields
  | [], styles => ([], styles)
  | (feature, selector) :: rest, styles =>
    let (parts, styles) := takeFeature styles feature selector
    let (more, styles) := takeAll rest styles
    (parts ++ more, styles)

/-- The parts that features take, and what is left of the styles. -/
def take (features : Entries FeatureSelector) (styles : Json) : List FeaturePart × Json :=
  match styles with
  | .obj fields =>
    let (parts, left) := takeAll features fields
    (parts, .obj left)
  | other => ([], other)

/-! ### Declarations -/

/-- Add declarations to those of their selector. -/
def addTo (groups : Entries (List Declaration)) (selector : String)
    (declarations : List Declaration) : Entries (List Declaration) :=
  if declarations.isEmpty then groups
  else Entries.put groups selector ((Entries.get? groups selector).getD [] ++ declarations)

/-- The declarations of parts by selector, in the order in which selectors first have any. -/
def groups (ctx : StyleContext) (parts : List FeaturePart) : Entries (List Declaration) :=
  parts.foldl (fun made part ↦ addTo made part.selector (ctx.declarations part.styles false)) []

/-- The problems met in parts. -/
def diagnostics (ctx : StyleContext) (parts : List FeaturePart) : List Diagnostic :=
  parts.flatMap fun part ↦ ctx.diagnostics part.styles false

end FeaturePart

end GlobalStyles
