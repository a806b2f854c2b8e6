import GlobalStyles.Proofs.Layout.Braceless
import GlobalStyles.Proofs.Style.Feature
import GlobalStyles.Proofs.Stylesheet.Norm

/-!
# Selectors of rules

The selector of a rule of a style node is the node's own or one that the registry has for a part of
its styles, perhaps with a pseudo-selector or the class of a variation after it. So selectors have
no brace where the registry has none and the tree has none in its keys, and with the declarations
of the subtrees the rules of every node are flat (`StyleNode.IsBraceless.allFlat_rules`).
-/

namespace GlobalStyles

open Json (Norm)

/-! ### The registry -/

/-- The selectors that a feature may go to. -/
def FeatureSelector.selectors : FeatureSelector → List String
  | whole selector => [selector]
  | split selectors => selectors.map Prod.snd

/-- No brace stands in what goes from an entry into rules. -/
structure BlockSelectors.IsBraceless (entry : BlockSelectors) : Prop where
  selector : Braceless entry.selector
  elements : ∀ element ∈ entry.elementSelectors, Braceless element.2
  duotone : ∀ selector ∈ entry.duotoneSelector, Braceless selector
  fallbackGap : ∀ gap ∈ entry.fallbackGap, Braceless gap
  features : ∀ feature ∈ entry.featureSelectors, ∀ selector ∈ feature.2.selectors,
    Braceless selector
  variations : ∀ variation ∈ entry.variationSelectors,
    Braceless variation.1 ∧ Braceless variation.2

/-- No brace stands in what goes from a registry into rules. -/
def Registry.IsBraceless (registry : Registry) : Prop :=
  ∀ entry ∈ registry, entry.2.IsBraceless

/-! ### Nodes -/

/-- No brace stands in a node. -/
structure StyleNode.IsBraceless (node : StyleNode) : Prop where
  selector : Braceless node.selector
  styles : node.styles.Meets .braceless
  duotone : ∀ selector ∈ node.duotoneSelector, Braceless selector
  fallbackGap : ∀ gap ∈ node.fallbackGap, Braceless gap
  features : ∀ feature ∈ node.featureSelectors, ∀ selector ∈ feature.2.selectors,
    Braceless selector
  variations : ∀ variation ∈ node.variationSelectors,
    Braceless variation.1 ∧ Braceless variation.2

theorem Element.braceless_selector (element : Element) : Braceless element.selector := by
  cases element <;> decide +kernel

namespace StyleNode

/-- A node of which the registry says nothing has braces only from its selector and its styles. -/
theorem isBraceless_plain (place : NodePlace) {selector : String}
    (hselector : Braceless selector) {styles : Json} (hstyles : styles.Meets .braceless) :
    (plain place selector styles).IsBraceless where
  selector := hselector
  styles := hstyles
  duotone _ hmem := by cases hmem
  fallbackGap _ hmem := by cases hmem
  features := List.forall_mem_nil _
  variations := List.forall_mem_nil _

/-- The selector of an element inside a block, given or put together. -/
theorem braceless_elementSelector {entry : BlockSelectors} (hentry : entry.IsBraceless)
    (element : Element) : Braceless (elementSelector entry element) := by
  rw [elementSelector]
  rcases hget : Entries.get? entry.elementSelectors element.name with _ | selector
  · exact hentry.selector.nest element.braceless_selector
  · exact hentry.elements _ (Entries.mem_of_get? hget)

/-- **No node of a tree without braces has one**, where the registry has none. -/
theorem isBraceless_of_mem_all {tree : Json} (h : tree.Meets .braceless) {registry : Registry}
    (hregistry : registry.IsBraceless) {skipFilters : Bool} {node : StyleNode}
    (hnode : node ∈ all tree registry skipFilters) : node.IsBraceless := by
  have hmeets := meets_of_mem_all h hnode
  cases ofTree_of_mem_all hnode with
  | root =>
    have hroot : Braceless rootSelector := by decide
    -- the root only differs from a plain node in its layout support
    obtain ⟨_, _, hduotone, hgap, hfeatures, hvariations⟩ := isBraceless_plain .root hroot hmeets
    exact ⟨hroot, hmeets, hduotone, hgap, hfeatures, hvariations⟩
  | rootElement _ => exact isBraceless_plain _ (Element.braceless_selector _) hmeets
  | block _ hentry =>
    have hentry := hregistry _ (Entries.mem_of_get? hentry)
    exact ⟨hentry.selector, hmeets, hentry.duotone, hentry.fallbackGap, hentry.features,
      hentry.variations⟩
  | blockElement _ hentry _ =>
    have hentry := hregistry _ (Entries.mem_of_get? hentry)
    exact isBraceless_plain _ (braceless_elementSelector hentry _) hmeets

end StyleNode

/-! ### Features -/

namespace FeaturePart

/-- What is taken for named members goes to one of their selectors. -/
theorem selector_mem_of_mem_takeNamed {feature : String} {selectors : Entries String}
    {members : Fields} {part : FeaturePart}
    (h : part ∈ (takeNamed feature selectors members).1) :
    part.selector ∈ selectors.map Prod.snd := by
  induction selectors generalizing members with
  | nil => cases h
  | cons entry rest ih =>
    obtain ⟨key, selector⟩ := entry
    rw [takeNamed] at h
    split at h
    · exact List.mem_cons_of_mem _ (ih h)
    · split at h
      · exact List.mem_cons_of_mem _ (ih h)
      · rcases List.mem_cons.1 h with rfl | h
        · exact List.mem_cons_self
        · exact List.mem_cons_of_mem _ (ih h)

/-- What a feature selector takes goes to one of its selectors, and so does what it says of the
rest. -/
theorem selectors_takeMembers (feature : String) (members : Fields) (selector : FeatureSelector) :
    (∀ part ∈ (takeMembers feature members selector).1, part.selector ∈ selector.selectors) ∧
      ∀ rest ∈ (takeMembers feature members selector).2.2, rest ∈ selector.selectors := by
  cases selector with
  | whole selector =>
    refine ⟨List.forall_mem_nil _, fun rest hrest ↦ ?_⟩
    cases hrest
    exact List.mem_singleton_self _
  | split selectors =>
    refine ⟨fun part hmem ↦ selector_mem_of_mem_takeNamed hmem, fun rest hrest ↦ ?_⟩
    exact List.mem_map_of_mem (f := Prod.snd) (Entries.mem_of_get? hrest)

theorem selector_mem_of_mem_takeFeature {styles : Fields} {feature : String}
    {selector : FeatureSelector} {part : FeaturePart}
    (h : part ∈ (takeFeature styles feature selector).1) :
    part.selector ∈ selector.selectors := by
  rw [takeFeature] at h
  split at h
  · rename_i members _
    obtain ⟨hparts, hrest⟩ := selectors_takeMembers feature members selector
    split at h
    · cases h
    · split at h <;> rename_i htake
      · rw [htake] at hparts hrest
        -- the last part is what is left of the feature
        rcases List.mem_append.1 h with h | h
        · exact hparts part h
        · rw [List.mem_singleton.1 h]
          exact hrest _ rfl
      · rw [htake] at hparts
        exact hparts part h
  · cases h

theorem exists_feature_of_mem_takeAll {features : Entries FeatureSelector} {styles : Fields}
    {part : FeaturePart} (h : part ∈ (takeAll features styles).1) :
    ∃ feature ∈ features, part.selector ∈ feature.2.selectors := by
  induction features generalizing styles with
  | nil => cases h
  | cons entry rest ih =>
    obtain ⟨feature, selector⟩ := entry
    rcases List.mem_append.1 h with h | h
    · exact ⟨_, List.mem_cons_self, selector_mem_of_mem_takeFeature h⟩
    · obtain ⟨other, hmem, hselector⟩ := ih h
      exact ⟨other, List.mem_cons_of_mem _ hmem, hselector⟩

/-- The selector of a part is one that its feature may go to. -/
theorem exists_feature_of_mem_take {features : Entries FeatureSelector} {styles : Json}
    {part : FeaturePart} (h : part ∈ (take features styles).1) :
    ∃ feature ∈ features, part.selector ∈ feature.2.selectors := by
  cases styles with
  | obj fields => exact exists_feature_of_mem_takeAll h
  | _ => cases h

end FeaturePart

/-! ### Rules of nodes -/

open Rule (AllFlat allFlat_nil allFlat_make)

section

variable {ctx : StyleContext} (hctx : ctx.IsBraceless)
include hctx

/-- The rules of groups, under names made of their selectors. -/
theorem FeaturePart.allFlat_groups {parts : List FeaturePart}
    (hselectors : ∀ part ∈ parts, Braceless part.selector)
    (hparts : AllMeet .braceless parts) {name : String → String}
    (hname : ∀ selector, Braceless selector → Braceless (name selector)) :
    AllFlat ((groups ctx parts).flatMap fun group ↦
      Rule.make .unterminated (name group.1) group.2) := by
  refine .flatMap fun group hgroup ↦ ?_
  obtain ⟨⟨part, hpart, hselector⟩, hdeclarations⟩ := of_mem_groups hgroup
  refine allFlat_make (hname _ (hselector ▸ hselectors part hpart)) (fun declaration hmem ↦ ?_) _
  obtain ⟨source, hsource, hmem⟩ := hdeclarations declaration hmem
  exact hctx.isFlat_of_mem_declarations (hparts source hsource) hmem

/-- The rule of a subtree. -/
theorem StyleContext.allFlat_make {selector : String} (hselector : Braceless selector)
    {styles : Json} (hstyles : styles.Meets .braceless) (isRoot : Bool) (shape : RuleShape) :
    AllFlat (Rule.make shape selector (ctx.declarations styles isRoot)) :=
  Rule.allFlat_make hselector (fun _ hmem ↦ hctx.isFlat_of_mem_declarations hstyles hmem) shape

theorem VariationParts.allFlat_rules {parts : VariationParts} (hname : Braceless parts.name)
    (hselector : Braceless parts.selector)
    (hselectors : ∀ part ∈ parts.features, Braceless part.selector)
    (hparts : parts.AllMeet .braceless) : AllFlat (parts.rules ctx) :=
  .append
    (FeaturePart.allFlat_groups hctx hselectors hparts.features fun _ h ↦ h.withVariation hname)
    (StyleContext.allFlat_make hctx hselector hparts.own false .unterminated)

namespace StyleNode.IsBraceless

variable {node : StyleNode} (h : node.IsBraceless)
include h

omit hctx in
/-- The selectors of features of such a node have no brace. -/
theorem selector_of_mem_take {styles : Json} {part : FeaturePart}
    (hpart : part ∈ (FeaturePart.take node.featureSelectors styles).1) :
    Braceless part.selector := by
  obtain ⟨feature, hfeature, hselector⟩ := FeaturePart.exists_feature_of_mem_take hpart
  exact h.features feature hfeature _ hselector

/-- **The rules of a node without braces are flat.** -/
theorem allFlat_rules (variationStyles : Bool) {layout : List Rule} (hlayout : AllFlat layout) :
    AllFlat (node.rules ctx variationStyles layout) := by
  have hparts := NodeParts.allMeet_ofNode h.styles variationStyles
  -- features, variations, the filter, the layout, the node's own styles, pseudo-selectors
  refine .append (.append (.append (.append (.append ?_ ?_) ?_) hlayout) ?_) ?_
  · exact FeaturePart.allFlat_groups hctx (fun part hpart ↦ h.selector_of_mem_take hpart)
      hparts.features fun _ hselector ↦ hselector
  · refine .flatMap fun variation hvariation ↦ ?_
    have hmeets := hparts.variations variation hvariation
    simp only [NodeParts.ofNode] at hvariation
    split at hvariation
    · obtain ⟨entry, hentry, hsome⟩ := List.mem_filterMap.1 hvariation
      obtain ⟨subtree, -, rfl⟩ := Option.map_eq_some_iff.1 hsome
      obtain ⟨hname, hselector⟩ := h.variations entry hentry
      exact VariationParts.allFlat_rules hctx hname hselector
        (fun part hpart ↦ h.selector_of_mem_take hpart) hmeets
    · cases hvariation
  · refine .flatMap fun entry hentry ↦ ?_
    have hmeets := hparts.duotone entry hentry
    refine StyleContext.allFlat_make hctx (h.duotone entry.1 ?_) hmeets false .terminated
    simp only [NodeParts.ofNode, NodeParts.takeDuotone] at hentry
    split at hentry
    · split at hentry
      · cases hentry
      · rw [List.mem_singleton.1 hentry]
        assumption
    · cases hentry
  · exact StyleContext.allFlat_make hctx h.selector hparts.own node.isRoot .terminated
  · refine .flatMap fun entry hentry ↦ ?_
    have hmeets := hparts.pseudo entry hentry
    have hkey := (hparts.own.of_mem_entries (List.mem_filter.1 hentry).1).1
    exact StyleContext.allFlat_make hctx (h.selector.appendToParts hkey) hmeets false .terminated

end StyleNode.IsBraceless

end

end GlobalStyles
