import GlobalStyles.Node.Style
import GlobalStyles.Preset.Category

/-!
# Settings nodes

The settings of the root and of blocks that define presets or custom values, each with the selector
on which its custom properties are declared: the root first, then the blocks of the registry in the
order of the tree.
-/

namespace GlobalStyles

/-- Settings that define something. -/
structure SettingsNode where
  /-- The block, or nothing for the root. -/
  scope : Option String
  selector : String
  /-- The catalogs of every category, where they stand in settings. -/
  presets : Json
  custom : Option Json

namespace SettingsNode

/-- The catalogs of some settings, at the same places in a tree of their own. -/
def pickPresets (settings : Json) : Json :=
  PresetCategory.all.foldl
    (fun made category ↦
      match settings.get? category.path with
      | none => made
      | some catalogs => made.set category.path catalogs)
    (.obj [])

/-- The node of some settings, if they define something. -/
def ofSettings? (settings : Json) (scope : Option String) (selector : String) :
    Option SettingsNode :=
  let presets := pickPresets settings
  let custom := settings.get? ["custom"]
  if presets.isEmptySubtree && custom.isNone then none
  else some ⟨scope, selector, presets, custom⟩

/-- The node of a block that the registry knows. -/
def ofBlock? (registry : Registry) (member : String × Json) : Option SettingsNode :=
  (Entries.get? registry member.1).bind fun entry ↦
    ofSettings? member.2 (some member.1) entry.selector

/-- The blocks of the settings. -/
def blocks (tree : Json) : Fields :=
  ((tree.get? ["settings", "blocks"]).map Json.entries).getD []

/-- The nodes of a tree. -/
def all (tree : Json) (registry : Registry) : List SettingsNode :=
  match tree.get? ["settings"] with
  | none => []
  | some settings =>
    (ofSettings? settings none rootSelector).toList ++ (blocks tree).filterMap (ofBlock? registry)

/-- The blocks of the settings that the registry does not know. -/
def diagnostics (tree : Json) (registry : Registry) : List Diagnostic :=
  unregistered registry ((blocks tree).map Prod.fst)

end SettingsNode

end GlobalStyles
