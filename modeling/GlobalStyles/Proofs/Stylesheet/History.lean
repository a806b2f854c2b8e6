import GlobalStyles.Stylesheet.Cache
import Mathlib.Data.List.Forall2

/-!
# What a compiler answers over a history of calls

A compiler that is called again and again answers each compilation with some bundle; the question
is whether it is the bundle of the call's own inputs. `Compiler.served` says whose bundle it is:
that of the inputs that are kept, where these compare equal to the call's, and of its own otherwise.
The proof is one invariant (`Compiler.Valid`), kept by every call, and one induction over the
history.

Inputs compare equal whatever the order of keys in the tree, and whatever the order inside a split
feature. Both orders show in the text of a bundle. So keeping bundles is transparent exactly for
those inputs of which no two that compare equal compile differently, which `bundles_eq_iff` states
for any class of inputs, and two inputs with one tree and the same entries of the registry are
always among them (`CompileInputs.WrittenAlike.bundle_eq`).
-/

namespace GlobalStyles

namespace CompileInputs

/-- The bundle of some inputs, whatever was compiled before. -/
def bundle (inputs : CompileInputs) : Bundle :=
  GlobalStyles.compile inputs.tree inputs.registry inputs.options

/-- Whether two inputs are written alike: one tree, to the order of its keys, the same options, and
the same entry for every scope. The order of the scopes themselves does not show. -/
structure WrittenAlike (a b : CompileInputs) : Prop where
  tree : a.tree = b.tree
  options : a.options = b.options
  entry (scope : String) : Entries.get? a.registry scope = Entries.get? b.registry scope

end CompileInputs

/-- A compilation asks the registry for entries and never goes through it. -/
theorem compile_congr_registry {a b : Registry}
    (h : ∀ scope, Entries.get? a scope = Entries.get? b scope) (tree : Json)
    (options : CompileOptions) : compile tree a options = compile tree b options := by
  have hstyle : StyleNode.ofBlock a options.skipFilters =
      StyleNode.ofBlock b options.skipFilters := by
    funext member
    simp only [StyleNode.ofBlock, h]
  have hsettings : SettingsNode.ofBlock? a = SettingsNode.ofBlock? b := by
    funext member
    simp only [SettingsNode.ofBlock?, h]
  have hcss : Stylesheet.blockCss a = Stylesheet.blockCss b := by
    funext member
    simp only [Stylesheet.blockCss, h]
  have hunregistered : unregistered a = unregistered b := by
    funext scopes
    simp only [unregistered, h]
  simp only [compile, Stylesheet.styles, Stylesheet.customCss, Stylesheet.reports, StyleNode.all,
    SettingsNode.all, StyleNode.diagnostics, SettingsNode.diagnostics, hstyle, hsettings, hcss,
    hunregistered]

/-- Inputs that are written alike compile alike. -/
theorem CompileInputs.WrittenAlike.bundle_eq {a b : CompileInputs} (h : a.WrittenAlike b) :
    a.bundle = b.bundle := by
  rw [bundle, bundle, h.tree, h.options]
  exact compile_congr_registry h.entry b.tree b.options

namespace Compiler

/-! ### Histories -/

/-- What a caller asks of a compiler. -/
inductive Call where
  /-- Compile some inputs. -/
  | compile (inputs : CompileInputs)
  /-- Forget the last result. -/
  | invalidate

/-- The inputs of the compilations among some calls. -/
def inputsOf : List Call → List CompileInputs
  | [] => []
  | .compile inputs :: rest => inputs :: inputsOf rest
  | .invalidate :: rest => inputsOf rest

/-- The bundles that calls made one after another are answered with. -/
def bundles : Compiler → List Call → List Bundle
  | _, [] => []
  | compiler, .compile inputs :: rest =>
    (compiler.compile inputs).1.bundle :: (compiler.compile inputs).2.bundles rest
  | compiler, .invalidate :: rest => compiler.invalidate.bundles rest

/-- The inputs a compilation is answered for: those that are kept, if the call's compare equal to
them, and else the call's own. -/
def answeredFor (kept : Option CompileInputs) (inputs : CompileInputs) : CompileInputs :=
  (kept.filter (·.same inputs)).getD inputs

theorem answeredFor_of_same {held inputs : CompileInputs} (h : held.same inputs = true) :
    answeredFor (some held) inputs = held := by
  rw [answeredFor, Option.filter_some, if_pos h, Option.getD_some]

theorem answeredFor_of_not_same {kept : Option CompileInputs} {inputs : CompileInputs}
    (h : ∀ held ∈ kept, held.same inputs = false) : answeredFor kept inputs = inputs := by
  rcases kept with - | held
  · rfl
  · rw [answeredFor, Option.filter_some, h held rfl]
    rfl

/-- The inputs that the compilations of a history are answered for. Those of the last answer are
kept. -/
def served : Option CompileInputs → List Call → List CompileInputs
  | _, [] => []
  | kept, .compile inputs :: rest =>
    answeredFor kept inputs :: served (some (answeredFor kept inputs)) rest
  | _, .invalidate :: rest => served none rest

/-! ### The invariant -/

/-- What is kept was compiled from its inputs, under a ticket that was taken. -/
structure Valid (compiler : Compiler) : Prop where
  bundle_eq : ∀ entry ∈ compiler.cache, entry.compiled.bundle = entry.inputs.bundle
  ticket_le : ∀ entry ∈ compiler.cache, entry.compiled.ticket ≤ compiler.generation

theorem valid_new : new.Valid where
  bundle_eq _ h := by cases h
  ticket_le _ h := by cases h

theorem Valid.invalidate {compiler : Compiler} : compiler.invalidate.Valid where
  bundle_eq _ h := by cases h
  ticket_le _ h := by cases h

/-- The inputs that are kept. -/
def kept (compiler : Compiler) : Option CompileInputs :=
  compiler.cache.map CacheEntry.inputs

/-- A result that is kept is answered as it is. -/
theorem compile_of_same {compiler : Compiler} {entry : CacheEntry} {inputs : CompileInputs}
    (hentry : compiler.cache = some entry) (hsame : entry.inputs.same inputs = true) :
    compiler.compile inputs = (entry.compiled, compiler) := by
  have hfind : compiler.find? inputs = some entry.compiled := by
    rw [find?, hentry, Option.filter_some, if_pos hsame]
    rfl
  rw [compile, hfind]

/-- No ticket was taken in between, so a result for other inputs than those kept is never stale. -/
theorem offer_of_not_same {compiler : Compiler} (h : compiler.Valid) {inputs : CompileInputs}
    (hmiss : ∀ entry ∈ compiler.cache, entry.inputs.same inputs = false) (bundle : Bundle) :
    compiler.takeTicket.2.offer inputs ⟨bundle, compiler.takeTicket.1⟩ = .installed := by
  obtain ⟨cache, generation⟩ := compiler
  rcases cache with _ | entry
  · rfl
  · have hsame : entry.inputs.same inputs = false := hmiss entry rfl
    have hticket : ¬generation + 1 < entry.compiled.ticket :=
      Nat.not_lt_of_le (Nat.le_succ_of_le (h.ticket_le entry rfl))
    simp [takeTicket, offer, hsame, hticket]

/-- Where none is kept, the inputs are compiled under the next ticket and kept. -/
theorem compile_of_not_same {compiler : Compiler} (h : compiler.Valid) {inputs : CompileInputs}
    (hmiss : ∀ entry ∈ compiler.cache, entry.inputs.same inputs = false) :
    compiler.compile inputs =
      (⟨inputs.bundle, compiler.generation + 1⟩,
        ⟨some ⟨inputs, inputs.bundle, compiler.generation + 1⟩, compiler.generation + 1⟩) := by
  have hfind : compiler.find? inputs = none := by
    rw [find?, Option.filter_eq_none_iff.2 fun entry hentry ↦ by simp [hmiss entry hentry]]
    rfl
  have hoffer := offer_of_not_same h hmiss inputs.bundle
  rw [compile, hfind]
  show compiler.takeTicket.2.install inputs ⟨inputs.bundle, compiler.takeTicket.1⟩ = _
  rw [install, hoffer]
  rfl

/-- What one compilation answers and keeps. -/
theorem compile_spec {compiler : Compiler} (h : compiler.Valid) (inputs : CompileInputs) :
    (compiler.compile inputs).1.bundle = (answeredFor compiler.kept inputs).bundle ∧
      (compiler.compile inputs).2.Valid ∧
      (compiler.compile inputs).2.kept = some (answeredFor compiler.kept inputs) := by
  by_cases hhit : ∃ entry ∈ compiler.cache, entry.inputs.same inputs = true
  · obtain ⟨entry, hentry, hsame⟩ := hhit
    have hkept : compiler.kept = some entry.inputs := by
      rw [kept, hentry]
      rfl
    rw [compile_of_same hentry hsame, hkept, answeredFor_of_same hsame]
    exact ⟨h.bundle_eq entry hentry, h, rfl⟩
  · have hmiss : ∀ entry ∈ compiler.cache, entry.inputs.same inputs = false := by
      intro entry hentry
      rcases hsame : entry.inputs.same inputs with _ | _
      · rfl
      · exact absurd ⟨entry, hentry, hsame⟩ hhit
    have hanswered : answeredFor compiler.kept inputs = inputs := by
      refine answeredFor_of_not_same fun held hheld ↦ ?_
      obtain ⟨entry, hentry, rfl⟩ := Option.map_eq_some_iff.1 hheld
      exact hmiss entry hentry
    rw [compile_of_not_same h hmiss, hanswered]
    refine ⟨rfl, ⟨?_, ?_⟩, rfl⟩
    · intro entry hentry
      cases hentry
      rfl
    · intro entry hentry
      cases hentry
      exact Nat.le_refl _

/-! ### Histories -/

/-- Over a whole history, every answer is the bundle of the inputs it is given for. -/
theorem bundles_eq_map_served {compiler : Compiler} (h : compiler.Valid) (calls : List Call) :
    compiler.bundles calls = (served compiler.kept calls).map CompileInputs.bundle := by
  induction calls generalizing compiler with
  | nil => rfl
  | cons call rest ih =>
    cases call with
    | compile inputs =>
      obtain ⟨hbundle, hvalid, hkept⟩ := compile_spec h inputs
      rw [bundles, served, List.map_cons, hbundle, ih hvalid, hkept]
    | invalidate =>
      rw [bundles, served, ih .invalidate]
      rfl

/-- A compilation is answered for its own inputs, or for ones that compare equal to them. -/
theorem answeredFor_eq_or_same (kept : Option CompileInputs) (inputs : CompileInputs) :
    answeredFor kept inputs = inputs ∨
      kept = some (answeredFor kept inputs) ∧ (answeredFor kept inputs).same inputs = true := by
  rcases kept with _ | held
  · exact .inl rfl
  · rcases hsame : held.same inputs with _ | _
    · left
      refine answeredFor_of_not_same fun other hother ↦ ?_
      cases hother
      exact hsame
    · right
      rw [answeredFor_of_same hsame]
      exact ⟨rfl, hsame⟩

/-- The inputs that are served are the calls' own or come earlier in the history and compare equal
to them. -/
theorem served_eq_or_same (kept : Option CompileInputs) (calls : List Call) :
    List.Forall₂ (fun answered inputs ↦ answered = inputs ∨
        (kept = some answered ∨ answered ∈ inputsOf calls) ∧ answered.same inputs = true)
      (served kept calls) (inputsOf calls) := by
  induction calls generalizing kept with
  | nil => exact .nil
  | cons call rest ih =>
    cases call with
    | compile inputs =>
      have hanswered := answeredFor_eq_or_same kept inputs
      -- what the rest finds kept is the answer to this call: its own inputs, or those kept before
      refine .cons ?_ ((ih (some (answeredFor kept inputs))).imp ?_)
      · rcases hanswered with heq | ⟨hkept, hsame⟩
        · exact .inl heq
        · exact .inr ⟨.inl hkept, hsame⟩
      · rintro answered own (heq | ⟨hkept | hmem, hsame⟩)
        · exact .inl heq
        · cases hkept
          rcases hanswered with heq | ⟨hkept, -⟩
          · refine .inr ⟨.inr ?_, hsame⟩
            rw [heq]
            exact List.mem_cons_self
          · exact .inr ⟨.inl hkept, hsame⟩
        · exact .inr ⟨.inr (List.mem_cons_of_mem _ hmem), hsame⟩
    | invalidate =>
      refine (ih none).imp ?_
      rintro answered own (heq | ⟨hkept | hmem, hsame⟩)
      · exact .inl heq
      · cases hkept
      · exact .inr ⟨.inr hmem, hsame⟩

/-- Two lists have one image under a function if they agree under it place by place. -/
theorem map_eq_map_iff_forall₂ {α β : Type} {f : α → β} {a b : List α} :
    a.map f = b.map f ↔ List.Forall₂ (fun x y ↦ f x = f y) a b := by
  rw [← List.forall₂_map_right_iff, ← List.forall₂_map_left_iff, List.forall₂_eq_eq_eq]

/-- From a new compiler on, the inputs that are served are the calls' own or compare equal to
them. -/
theorem served_none_eq_or_same (calls : List Call) :
    List.Forall₂ (fun answered inputs ↦
        answered = inputs ∨ answered ∈ inputsOf calls ∧ answered.same inputs = true)
      (served none calls) (inputsOf calls) := by
  refine (served_eq_or_same none calls).imp ?_
  rintro answered own (heq | ⟨hkept | hmem, hsame⟩)
  · exact .inl heq
  · cases hkept
  · exact .inr ⟨hmem, hsame⟩

/-- For a class of inputs, keeping bundles shows over no history exactly if it does not show between
any two of them. -/
theorem bundles_eq_iff_of_class (P : CompileInputs → Prop) :
    (∀ calls, (∀ inputs ∈ inputsOf calls, P inputs) →
        new.bundles calls = (inputsOf calls).map CompileInputs.bundle) ↔
      ∀ a b, P a → P b → a.same b = true → a.bundle = b.bundle := by
  constructor
  · intro h a b ha hb hsame
    -- two calls are enough: the second is answered for the inputs of the first
    have hcalls := h [.compile a, .compile b] (by simp [inputsOf, ha, hb])
    have htwo : served none [.compile a, .compile b] = [a, a] := by
      simp [served, answeredFor, Option.filter_some, hsame]
    rw [bundles_eq_map_served valid_new] at hcalls
    show a.bundle = b.bundle
    have hpair : [a.bundle, a.bundle] = [a.bundle, b.bundle] := by
      simpa [kept, new, htwo, inputsOf] using hcalls
    exact (List.cons.inj (List.cons.inj hpair).2).1
  · intro h calls hcalls
    have hown := (List.forall₂_and_left _ _).2
      ⟨fun inputs hmem ↦ hmem, (served_none_eq_or_same calls).flip⟩
    rw [bundles_eq_map_served valid_new, map_eq_map_iff_forall₂]
    refine hown.flip.imp ?_
    rintro answered inputs ⟨hmem, heq | ⟨hearlier, hsame⟩⟩
    · rw [heq]
    · exact h answered inputs (hcalls _ hearlier) (hcalls _ hmem) hsame

/-- **When keeping bundles is transparent.** Over any history, each compilation is answered with the
bundle of its own inputs or of earlier ones that compare equal to them, so the history shows nothing
of it if and only if the inputs that are served compile to the same as the calls' own. That is so
where inputs that compare equal are written alike. And for a class of inputs it is so over every
history if and only if no two inputs of the class that compare equal compile differently. -/
theorem bundles_eq_iff (calls : List Call) (P : CompileInputs → Prop) :
    (new.bundles calls = (served none calls).map CompileInputs.bundle ∧
      List.Forall₂ (fun answered inputs ↦
          answered = inputs ∨ answered ∈ inputsOf calls ∧ answered.same inputs = true)
        (served none calls) (inputsOf calls)) ∧
    (new.bundles calls = (inputsOf calls).map CompileInputs.bundle ↔
      List.Forall₂ (fun answered inputs ↦ answered.bundle = inputs.bundle) (served none calls)
        (inputsOf calls)) ∧
    ((∀ a ∈ inputsOf calls, ∀ b ∈ inputsOf calls, a.same b = true → a.WrittenAlike b) →
      new.bundles calls = (inputsOf calls).map CompileInputs.bundle) ∧
    ((∀ calls, (∀ inputs ∈ inputsOf calls, P inputs) →
        new.bundles calls = (inputsOf calls).map CompileInputs.bundle) ↔
      ∀ a b, P a → P b → a.same b = true → a.bundle = b.bundle) := by
  have hserved : new.bundles calls = (served none calls).map CompileInputs.bundle :=
    bundles_eq_map_served valid_new calls
  refine ⟨⟨hserved, served_none_eq_or_same calls⟩, ?_, fun halike ↦ ?_, bundles_eq_iff_of_class P⟩
  · rw [hserved, map_eq_map_iff_forall₂]
  · refine (bundles_eq_iff_of_class (· ∈ inputsOf calls)).2 ?_ calls fun _ hmem ↦ hmem
    intro a b ha hb hsame
    exact (halike a ha b hb hsame).bundle_eq

/-- Inputs with the author's CSS of some blocks, which the registry knows by their first letters. -/
def cssInputs (blocks : Fields) : CompileInputs where
  tree := .obj [("styles", .obj [("blocks", .obj blocks)])]
  registry := [("a", .ofSelector ".a"), ("b", .ofSelector ".b")]
  options := .standard

/-- The author's CSS of two blocks. -/
def lettersInOrder : CompileInputs :=
  cssInputs [("a", .obj [("css", .str "top: 0")]), ("b", .obj [("css", .str "top: 1px")])]

/-- The same with the blocks in the other order. -/
def lettersSwapped : CompileInputs :=
  cssInputs [("b", .obj [("css", .str "top: 1px")]), ("a", .obj [("css", .str "top: 0")])]

/-- A history in which every call has the same inputs is answered with their bundle throughout. -/
theorem bundles_eq_of_one_input :
    new.bundles [.compile lettersInOrder, .compile lettersInOrder, .invalidate,
        .compile lettersInOrder] =
      [lettersInOrder.bundle, lettersInOrder.bundle, lettersInOrder.bundle] := by
  refine (bundles_eq_iff _ fun _ ↦ True).2.2.1 ?_
  intro a ha b hb _
  have heq : a = lettersInOrder ∧ b = lettersInOrder := by
    simp only [inputsOf, List.mem_cons, List.not_mem_nil, or_false, or_self] at ha hb
    exact ⟨ha, hb⟩
  rw [heq.1, heq.2]
  exact ⟨rfl, rfl, fun _ ↦ rfl⟩

/-- **Keeping bundles is not transparent in general.** Two trees whose blocks stand in another order
compare equal, so the second is answered with the author's CSS in the order of the first. -/
theorem bundles_ne_of_swapped_blocks :
    new.bundles [.compile lettersInOrder, .compile lettersSwapped] ≠
      (inputsOf [.compile lettersInOrder, .compile lettersSwapped]).map CompileInputs.bundle := by
  intro h
  have hcss := congrArg (List.map Bundle.customCss) h
  have hanswered : (new.bundles [.compile lettersInOrder, .compile lettersSwapped]).map
      Bundle.customCss =
        [".a\x7btop: 0\x7d.b\x7btop: 1px\x7d", ".a\x7btop: 0\x7d.b\x7btop: 1px\x7d"] := by
    decide +kernel
  have hown : ((inputsOf [.compile lettersInOrder, .compile lettersSwapped]).map
      CompileInputs.bundle).map Bundle.customCss =
        [".a\x7btop: 0\x7d.b\x7btop: 1px\x7d", ".b\x7btop: 1px\x7d.a\x7btop: 0\x7d"] := by
    decide +kernel
  rw [hanswered, hown] at hcss
  revert hcss
  decide

end Compiler

end GlobalStyles
