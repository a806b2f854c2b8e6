import GlobalStyles.Proofs.Reference.Following

/-!
# Where resolving stops

The value that a reference resolves to is the first of its chain at which there is a reason to stop
(`Reference.Stop`): it is no text, no reference, a reference that names nothing, or it was met
before. `Reference.resolve_stops_first` says so, and how long that takes.

Two facts about chains do the work. Each pass meets another text, and all but the first of them
stand in the tree, so the number of passes is bounded by the strings of the tree, whatever the
chain looks like. And a chain that is taken up again where it stopped stops there again
(`Reference.FirstStop.exists_again`): on a cycle, because nothing of the cycle comes twice before
its first value does. So resolving what was resolved changes nothing (`Reference.resolve_resolve`).
-/

namespace GlobalStyles.Reference

/-- Why resolving stops at a value that stands at a place of a chain. -/
inductive Stop (tree : Json) (scope : Option String) (space : String) (value : Json) (n : Nat)
    (found : Json) : Prop
  | noText (htext : found.text? = none)
  | noReference {text : String} (hfound : found = .str text) (hparse : parse? text space = none)
  | namesNothing {text : String} {reference : Reference} (hfound : found = .str text)
    (hparse : parse? text space = some reference)
    (hlookUp : lookUp? ((tree.get? ["settings"]).getD .null) scope reference = none)
  | again {i : Nat} (hlt : i < n) (hagain : after? (target? tree scope space) value i = some found)

section

variable {tree : Json} {scope : Option String} {space : String} {value found : Json} {n : Nat}

/-- A value leads nowhere, or stands earlier on the chain, exactly if there is a reason to stop. -/
theorem stop_iff : Stop tree scope space value n found ↔
    step? (target? tree scope space) found = none ∨
      ∃ i < n, after? (target? tree scope space) value i = some found := by
  constructor
  · rintro (htext | ⟨rfl, hparse⟩ | ⟨rfl, hparse, hlookUp⟩ | ⟨hlt, hagain⟩)
    · exact .inl (by rw [step?, htext, Option.bind_none])
    · exact .inl (step?_eq_none tree scope hparse)
    · refine .inl ?_
      show target? tree scope space _ = none
      rw [target?, hparse, Option.bind_some, hlookUp]
    · exact .inr ⟨_, hlt, hagain⟩
  · rintro (hend | ⟨i, hlt, hagain⟩)
    · rcases htext : found.text? with _ | text
      · exact .noText htext
      · obtain rfl := Json.eq_str_of_text? htext
        rcases hparse : parse? text space with _ | reference
        · exact .noReference rfl hparse
        · refine .namesNothing rfl hparse ?_
          have hnone : target? tree scope space text = none := hend
          rwa [target?, hparse, Option.bind_some] at hnone
    · exact .again hlt hagain

end

variable (tree : Json) (scope : Option String) (value : Json) (space : String)

/-- **Resolving ends, and stops at the right place.** It takes at most two passes more than the tree
has strings, one for each value of the chain up to the first at which there is a reason to stop, and
that is the value it gives. -/
theorem resolve_stops_first :
    ∃ n, n + 1 ≤ tree.stringCount + 2 ∧
      (∀ passes last, Follows (target? tree scope space) [] value passes last ↔
        passes = n + 1 ∧ last = resolve tree scope value space) ∧
      after? (target? tree scope space) value n = some (resolve tree scope value space) ∧
      Stop tree scope space value n (resolve tree scope value space) ∧
      ∀ i < n, ∀ found, after? (target? tree scope space) value i = some found →
        ¬ Stop tree scope space value i found := by
  obtain ⟨passes, hpasses, hrun⟩ := follows_resolve tree scope value space
  obtain ⟨n, hn, hlast, hfirst⟩ := hrun.firstStop_of_nil
  obtain rfl : passes = n + 1 := hn
  obtain ⟨found, hfound, hstop⟩ := hfirst.stops
  obtain rfl : resolve tree scope value space = found := Option.some.inj (hlast.symm.trans hfound)
  refine ⟨n, hpasses, fun passes last ↦ ⟨fun hother ↦ ?_, ?_⟩, hlast, stop_iff.2 hstop, ?_⟩
  · -- another run ends at the same place, as there is only one first
    obtain ⟨m, hm, hlast', hfirst'⟩ := hother.firstStop_of_nil
    obtain rfl := hfirst'.unique hfirst
    exact ⟨hm, Option.some.inj (hlast'.symm.trans hlast)⟩
  · rintro ⟨rfl, rfl⟩
    exact hrun
  · exact fun i hi found hi' hstop ↦ hfirst.not_before i hi ⟨found, hi', stop_iff.1 hstop⟩

/-- **Resolving what was resolved changes nothing**, also where the value came back on a cycle. -/
theorem resolve_resolve :
    resolve tree scope (resolve tree scope value space) space = resolve tree scope value space := by
  obtain ⟨n, hn, hfirst⟩ := exists_firstStop tree scope value space
  obtain ⟨m, hfirst', hm⟩ := hfirst.exists_again hn
  exact resolve_eq_of_firstStop hfirst' hm

/-- A tail of one reference before a cycle of two: resolving comes back to where it entered the
cycle, spelled as it was met there. -/
private def tailOnCycle : Json :=
  .obj [("settings", .obj [("custom", .obj [("tail", .str "ref:custom|first"),
    ("first", .str "ref:custom|second"), ("second", .str "var(--wp--custom--first)")])])]

example : resolve tailOnCycle none (.str "ref:custom|tail") "wp" = .str "ref:custom|second" := rfl

end GlobalStyles.Reference
