import GlobalStyles.Main
import GlobalStyles.Preset.Snap
import GlobalStyles.Proofs.Config.Overlay
import GlobalStyles.Proofs.Stylesheet.History
import GlobalStyles.Proofs.Stylesheet.Nulls
import GlobalStyles.Stylesheet.Cache
import GlobalStyles.Proofs.Reference.Encoding
import GlobalStyles.Proofs.Json.Norm
import GlobalStyles.Proofs.Style.Norm
import GlobalStyles.Proofs.Stylesheet.Norm
import GlobalStyles.Proofs.Json.Modify
import GlobalStyles.Proofs.Style.Refs
import GlobalStyles.Proofs.Stylesheet.Without
import GlobalStyles.Proofs.Stylesheet.Unregistered
import GlobalStyles.Proofs.Stylesheet.Unresolved
import GlobalStyles.Proofs.Text.Braceless
import GlobalStyles.Proofs.Typography.Braceless
import GlobalStyles.Proofs.Style.Braceless
import GlobalStyles.Proofs.Layout.Braceless
import GlobalStyles.Proofs.Stylesheet.Selectors
import GlobalStyles.Proofs.Stylesheet.Shape
import GlobalStyles.Proofs.Node.Settings
import GlobalStyles.Proofs.Node.Order
import GlobalStyles.Proofs.Preset.Declared
import GlobalStyles.Proofs.Stylesheet.Local
import GlobalStyles.Proofs.Stylesheet.CacheStates
import GlobalStyles.Proofs.Style.KeyOrder
import GlobalStyles.Proofs.Config.Layers
import GlobalStyles.Proofs.Preset.Snapping
import GlobalStyles.Proofs.Stylesheet.SplitOrder
import GlobalStyles.Proofs.Text.NormalForm
import GlobalStyles.Proofs.Preset.Utility
import GlobalStyles.Proofs.Preset.CustomLeaves
import GlobalStyles.Proofs.Json.Inherited
import GlobalStyles.Proofs.Style.Inherited
import GlobalStyles.Proofs.Node.Inherited
import GlobalStyles.Proofs.Style.Hollow
import GlobalStyles.Proofs.Stylesheet.Sparse
import GlobalStyles.Proofs.Json.Sameness
import GlobalStyles.Proofs.Layout.KeyOrder
import GlobalStyles.Proofs.Node.KeyOrder
import GlobalStyles.Proofs.Preset.KeyOrder
import GlobalStyles.Proofs.Stylesheet.KeyOrder
import GlobalStyles.Proofs.Stylesheet.Branches
import GlobalStyles.Proofs.Config.Sameness
import GlobalStyles.Proofs.Reference.Stopping
import GlobalStyles.Proofs.Reference.Compiled
import GlobalStyles.Proofs.Config.Depth
import GlobalStyles.Proofs.Style.Properties
import GlobalStyles.Proofs.Stylesheet.Pseudo
import GlobalStyles.Proofs.Stylesheet.Filters
import GlobalStyles.Proofs.Config.Variation
import GlobalStyles.Proofs.Style.Value
import GlobalStyles.Proofs.Style.WholeFeature
import GlobalStyles.Proofs.Style.Background
import GlobalStyles.Proofs.Style.RootPadding
import GlobalStyles.Proofs.Preset.Cascade
import GlobalStyles.Proofs.Preset.Duotone
import GlobalStyles.Proofs.Layout.Gapless
import GlobalStyles.Proofs.Nesting
import GlobalStyles.Proofs.Selector.Nest
import GlobalStyles.Proofs.Selector.Variation
import GlobalStyles.Proofs.Json.Writing
import GlobalStyles.Proofs.Typography.Plain
