import GlobalStyles.Proofs.Stylesheet.History
import Mathlib.Data.List.Induction

/-!
# What a cache holds after some calls

A compiler is a small machine: a call leads from one state to the next, and a state is a cache with
a counter. What a state says can be read off the calls that led to it. The counter counts the
misses, which are the compilations whose result was not kept already, and the cache holds the last
of them unless nothing was compiled since the last result was forgotten (`Compiler.Follows`).

A call keeps this (`Follows.compile`, `Follows.invalidate`), so it holds after all calls by
induction on the last one. The ticket of what is kept is then the counter itself. That is why one
caller alone is never told that its result is late, or that another has put the same result there
before (`Compiler.after_spec`).

The counter has 64 bits. It never passes the number of calls, so it does not run over within fewer
than 2 ^ 64 of them.
-/

namespace GlobalStyles.Compiler

/-! ### Calls -/

/-- The compiler after a call. -/
def next (compiler : Compiler) : Call → Compiler
  | .compile inputs => (compiler.compile inputs).2
  | .invalidate => compiler.invalidate

/-- A new compiler after some calls. -/
def after (calls : List Call) : Compiler :=
  calls.foldl next new

/-- Whether the result for some inputs is kept already. -/
def Hits (compiler : Compiler) (inputs : CompileInputs) : Prop :=
  (compiler.find? inputs).isSome

instance (compiler : Compiler) (inputs : CompileInputs) : Decidable (compiler.Hits inputs) :=
  inferInstanceAs (Decidable (_ = true))

/-- What a call compiles, with its inputs: nothing if the result is kept already. -/
def miss? (compiler : Compiler) : Call → Option CacheEntry
  | .compile inputs =>
    if compiler.Hits inputs then none else some ⟨inputs, (compiler.compile inputs).1⟩
  | .invalidate => none

/-- The misses of calls made one after another. -/
def misses : Compiler → List Call → List CacheEntry
  | _, [] => []
  | compiler, call :: rest => (compiler.miss? call).toList ++ (compiler.next call).misses rest

/-- The inputs that were compiled since the last result was forgotten, or since the start. -/
def recent (calls : List Call) : List CompileInputs :=
  calls.foldl
    (fun inputs call ↦
      match call with
      | .compile more => inputs ++ [more]
      | .invalidate => [])
    []

section

variable (calls : List Call) (call : Call)

theorem after_append : after (calls ++ [call]) = (after calls).next call := by
  rw [after, List.foldl_append]
  rfl

/-- One more call is at most one more miss. -/
theorem misses_append (compiler : Compiler) :
    compiler.misses (calls ++ [call]) =
      compiler.misses calls ++ ((calls.foldl next compiler).miss? call).toList := by
  induction calls generalizing compiler with
  | nil => exact List.append_nil _
  | cons first rest ih =>
    rw [List.cons_append, misses, misses, ih, List.foldl_cons, List.append_assoc]

theorem length_misses_le (compiler : Compiler) : (compiler.misses calls).length ≤ calls.length := by
  induction calls generalizing compiler with
  | nil => exact Nat.le_refl _
  | cons first rest ih =>
    have hmiss : (compiler.miss? first).toList.length ≤ 1 := by
      cases compiler.miss? first <;> simp
    rw [misses, List.length_append, List.length_cons, Nat.add_comm]
    exact Nat.add_le_add (ih _) hmiss

end

/-! ### Hits -/

/-- A hit is an entry for the same inputs. -/
theorem hits_iff (compiler : Compiler) (inputs : CompileInputs) :
    compiler.Hits inputs ↔
      ∃ entry, compiler.cache = some entry ∧ entry.inputs.same inputs = true := by
  rw [Hits, find?, Option.isSome_map]
  rcases compiler.cache with _ | entry
  · simp
  · simp [Option.filter_some]

/-- Without a hit, what is kept is for other inputs. -/
theorem same_eq_false_of_not_hits {compiler : Compiler} {inputs : CompileInputs}
    (h : ¬compiler.Hits inputs) :
    ∀ entry ∈ compiler.cache, entry.inputs.same inputs = false :=
  fun entry hentry ↦ eq_false_of_ne_true fun hsame ↦
    h ((hits_iff _ _).2 ⟨entry, hentry, hsame⟩)

/-! ### The invariant -/

/-- A compiler is in the state that its misses and the inputs compiled since the last result was
forgotten lead to. -/
structure Follows (compiler : Compiler) (misses : List CacheEntry)
    (recent : List CompileInputs) : Prop where
  generation_eq : compiler.generation = misses.length
  cache_of_nil : recent = [] → compiler.cache = none
  cache_of_ne_nil : recent ≠ [] → ∃ entry, misses.getLast? = some entry ∧
    compiler.cache = some entry ∧
      entry.compiled = ⟨entry.inputs.bundle, compiler.generation⟩

namespace Follows

variable {compiler : Compiler} {misses : List CacheEntry} {recent : List CompileInputs}
  (h : Follows compiler misses recent)
include h

/-- What is kept was compiled from its inputs, under the last ticket. -/
theorem compiled_eq {entry : CacheEntry} (hentry : compiler.cache = some entry) :
    entry.compiled = ⟨entry.inputs.bundle, compiler.generation⟩ := by
  have hne : recent ≠ [] := fun hnil ↦ by
    rw [h.cache_of_nil hnil] at hentry
    cases hentry
  obtain ⟨_, -, hkept, hcompiled⟩ := h.cache_of_ne_nil hne
  cases hkept.symm.trans hentry
  exact hcompiled

/-- A compiler that follows its calls keeps the bundle of the inputs it names. -/
theorem valid : compiler.Valid where
  bundle_eq _ hentry := congrArg Compiled.bundle (h.compiled_eq hentry)
  ticket_le _ hentry := Nat.le_of_eq (congrArg Compiled.ticket (h.compiled_eq hentry))

/-- A hit changes nothing, and a miss is what is kept from then on. -/
theorem compile (inputs : CompileInputs) :
    Follows (compiler.compile inputs).2 (misses ++ (compiler.miss? (.compile inputs)).toList)
      (recent ++ [inputs]) := by
  by_cases hhit : compiler.Hits inputs
  · obtain ⟨entry, hentry, hsame⟩ := (hits_iff _ _).1 hhit
    have hne : recent ≠ [] := fun hnil ↦ by
      rw [h.cache_of_nil hnil] at hentry
      cases hentry
    rw [miss?, if_pos hhit, Option.toList_none, List.append_nil, compile_of_same hentry hsame]
    exact ⟨h.generation_eq, fun hnil ↦ absurd hnil (by simp), fun _ ↦ h.cache_of_ne_nil hne⟩
  · have hmiss := compile_of_not_same h.valid (same_eq_false_of_not_hits hhit)
    rw [miss?, if_neg hhit, hmiss, Option.toList_some]
    refine ⟨?_, fun hnil ↦ absurd hnil (by simp), fun _ ↦ ⟨_, List.getLast?_concat, rfl, rfl⟩⟩
    rw [List.length_append, List.length_singleton, ← h.generation_eq]

/-- A result that is forgotten has been a miss nonetheless. -/
theorem invalidate : Follows compiler.invalidate misses [] where
  generation_eq := h.generation_eq
  cache_of_nil _ := rfl
  cache_of_ne_nil hne := absurd rfl hne

end Follows

theorem follows_new : Follows new [] [] where
  generation_eq := rfl
  cache_of_nil _ := rfl
  cache_of_ne_nil hne := absurd rfl hne

/-- **The invariant holds after all calls.** -/
theorem follows_after (calls : List Call) :
    Follows (after calls) (misses new calls) (recent calls) := by
  induction calls using List.reverseRecOn with
  | nil => exact follows_new
  | append_singleton calls call ih =>
    have hrecent : recent (calls ++ [call]) =
        match call with
        | .compile inputs => recent calls ++ [inputs]
        | .invalidate => [] := by
      rw [recent, List.foldl_append]
      rfl
    rw [after_append, misses_append, hrecent]
    cases call with
    | compile inputs => exact ih.compile inputs
    | invalidate =>
      -- forgetting a result is no miss
      show Follows (after calls).invalidate (misses new calls ++ []) []
      rw [List.append_nil]
      exact ih.invalidate

/-! ### States -/

/-- **What a compiler holds after some calls.** After fewer than 2 ^ 64 calls on a new compiler the
counter is the number of misses and did not run over. The cache is empty if nothing was compiled
since the start or since the last result was forgotten, and else it holds the last miss, which is
the bundle of its inputs under a ticket that is the counter. The next compilation is a hit exactly
if the inputs that are kept are the same as its own; a hit answers with what is kept and changes
nothing, and the result of a miss is always kept. -/
theorem after_spec (calls : List Call) (h : calls.length < UInt64.size) :
    (after calls).generation = (misses new calls).length ∧
      (after calls).generation < UInt64.size ∧
      (recent calls = [] → (after calls).cache = none) ∧
      (recent calls ≠ [] → ∃ entry, (misses new calls).getLast? = some entry ∧
        (after calls).cache = some entry ∧
        entry.compiled = ⟨entry.inputs.bundle, (after calls).generation⟩) ∧
      ∀ inputs,
        ((after calls).Hits inputs ↔
          ∃ entry, (after calls).cache = some entry ∧ entry.inputs.same inputs = true) ∧
        ((after calls).Hits inputs → ∃ entry, (after calls).cache = some entry ∧
          (after calls).compile inputs = (entry.compiled, after calls)) ∧
        (¬(after calls).Hits inputs →
          (after calls).takeTicket.2.offer inputs
            ⟨inputs.bundle, (after calls).takeTicket.1⟩ = .installed) := by
  have hfollows := follows_after calls
  refine ⟨hfollows.generation_eq, ?_, hfollows.cache_of_nil, hfollows.cache_of_ne_nil,
    fun inputs ↦ ⟨hits_iff _ inputs, fun hhit ↦ ?_, fun hmiss ↦ ?_⟩⟩
  · rw [hfollows.generation_eq]
    exact Nat.lt_of_le_of_lt (length_misses_le calls new) h
  · obtain ⟨entry, hentry, hsame⟩ := (hits_iff _ _).1 hhit
    exact ⟨entry, hentry, compile_of_same hentry hsame⟩
  · exact offer_of_not_same hfollows.valid (same_eq_false_of_not_hits hmiss) inputs.bundle

/-- A miss, a hit, a miss after the result was forgotten, and a miss for other inputs. -/
def lettersAgain : List Call :=
  [.compile lettersInOrder, .compile lettersInOrder, .invalidate, .compile lettersInOrder,
    .compile (cssInputs [])]

/-- After a hit and a forgotten result, three tickets were taken. -/
theorem after_spec_lettersAgain :
    lettersAgain.length < UInt64.size ∧ (after lettersAgain).generation = 3 ∧
      ∃ entry, (after lettersAgain).cache = some entry ∧ entry.inputs = cssInputs [] ∧
        entry.compiled = ⟨(cssInputs []).bundle, 3⟩ := by
  have hlength : lettersAgain.length < UInt64.size := by decide
  obtain ⟨hgeneration, -, -, hkept, -⟩ := after_spec lettersAgain hlength
  have hthree : (misses new lettersAgain).length = 3 := by decide +kernel
  rw [hthree] at hgeneration
  obtain ⟨entry, hlast, hentry, hcompiled⟩ := hkept (by simp [lettersAgain, recent])
  have hinputs : (misses new lettersAgain).getLast?.map CacheEntry.inputs = some (cssInputs []) :=
    rfl
  rw [hlast] at hinputs
  have hown : entry.inputs = cssInputs [] := Option.some.inj hinputs
  rw [hown, hgeneration] at hcompiled
  exact ⟨hlength, hgeneration, entry, hentry, hown, hcompiled⟩

end GlobalStyles.Compiler
