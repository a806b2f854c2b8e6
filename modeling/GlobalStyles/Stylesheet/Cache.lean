import GlobalStyles.Stylesheet.Compile

/-!
# Keeping the last bundle

An editor compiles again on every change, and mostly with what it had before. A `Compiler` keeps its
last result and hands it out again while the inputs stay the same, where the order of keys in the
tree does not count.

Each compilation first takes a ticket. A result is kept only if the cache holds neither these inputs
nor a result with a later ticket, so that of several callers a slow one never replaces what a faster
one made after it.

Tickets are natural numbers: the counter that hands them out is taken not to run over. One of 64
bits counts alike for fewer than 2 ^ 64 calls, within which the counter stays below that number
(`Compiler.after_spec`).
-/

namespace GlobalStyles

/-- What a compilation depends on. -/
structure CompileInputs where
  tree : Json
  registry : Registry
  options : CompileOptions

/-- Whether two compilations are taken to give the same. -/
def CompileInputs.same (a b : CompileInputs) : Bool :=
  a.options == b.options && Registry.same a.registry b.registry && a.tree.same b.tree

/-- A bundle with the ticket it was compiled under, which tells it from every other. -/
structure Compiled where
  bundle : Bundle
  ticket : Nat

/-- A result that is kept, with its inputs. -/
structure CacheEntry where
  inputs : CompileInputs
  compiled : Compiled

/-- The last result, and the number of tickets that were taken. -/
structure Compiler where
  cache : Option CacheEntry
  /-- A counter that does not run over. -/
  generation : Nat

namespace Compiler

/-- Nothing is kept and no ticket was taken. -/
def new : Compiler := ⟨none, 0⟩

/-- The result that is kept for some inputs. -/
def find? (compiler : Compiler) (inputs : CompileInputs) : Option Compiled :=
  (compiler.cache.filter fun entry ↦ entry.inputs.same inputs).map CacheEntry.compiled

/-- Take a ticket. -/
def takeTicket (compiler : Compiler) : Nat × Compiler :=
  (compiler.generation + 1, { compiler with generation := compiler.generation + 1 })

/-- What becomes of a result that is offered to the cache. -/
inductive Offer where
  /-- The cache holds a result for the same inputs, which is used. -/
  | matched (kept : Compiled)
  /-- The cache holds a result with a later ticket; this one is used, but not kept. -/
  | stale
  /-- The result is kept. -/
  | installed

/-- What becomes of a result for some inputs. -/
def offer (compiler : Compiler) (inputs : CompileInputs) (compiled : Compiled) : Offer :=
  match compiler.cache with
  | none => .installed
  | some entry =>
    if entry.inputs.same inputs then .matched entry.compiled
    else if compiled.ticket < entry.compiled.ticket then .stale
    else .installed

/-- Offer a result to the cache, and answer the one to be used. -/
def install (compiler : Compiler) (inputs : CompileInputs) (compiled : Compiled) :
    Compiled × Compiler :=
  match compiler.offer inputs compiled with
  | .matched kept => (kept, compiler)
  | .stale => (compiled, compiler)
  | .installed => (compiled, { compiler with cache := some ⟨inputs, compiled⟩ })

/-- The result for some inputs, kept or new. -/
def compile (compiler : Compiler) (inputs : CompileInputs) : Compiled × Compiler :=
  match compiler.find? inputs with
  | some kept => (kept, compiler)
  | none =>
    let (ticket, compiler) := compiler.takeTicket
    compiler.install inputs
      ⟨GlobalStyles.compile inputs.tree inputs.registry inputs.options, ticket⟩

/-- Forget the last result. -/
def invalidate (compiler : Compiler) : Compiler :=
  { compiler with cache := none }

end Compiler

end GlobalStyles
