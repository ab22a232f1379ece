import NameFlow.Flow.Resolution

/-!
# Rounds and the fixed point

A round resolves every module once. Rounds are repeated until one of them changes nothing or
the budget is spent; what was found by then is kept either way.
-/

namespace NameFlow.Flow

set_option autoImplicit false

open Python

/-- Enters the declarations of every module, in order. -/
def definitionRound (t : Table) : List SourceModule → Table × List (List Feature)
  | [] => (t, [])
  | m :: ms =>
    let (t, features) := define t m
    let (t, rest) := definitionRound t ms
    (t, features :: rest)

structure ResolutionRound where
  changed : Bool
  /-- Paths of the modules whose own resolution changed the table. -/
  changedModules : List String
  features : List (List Feature)

def resolutionRound (t : Table) : List SourceModule → Table × ResolutionRound
  | [] => (t, ⟨false, [], []⟩)
  | m :: ms =>
    let (t, features, changed) := resolve t m
    let (t, rest) := resolutionRound t ms
    (t, { changed := changed || rest.changed
          changedModules := if changed then m.path :: rest.changedModules else rest.changedModules
          features := features :: rest.features })

structure Fixpoint where
  table : Table
  /-- Features of the last round, a list for each module. -/
  resolutions : List (List Feature)
  iterations : Nat
  converged : Bool

/-- Repeats rounds at most `budget` times, up to the first one that changes nothing. -/
def fixpoint (budget : Nat) (t : Table) (ms : List SourceModule) : Fixpoint :=
  go budget ⟨t, ms.map fun _ => [], 0, false⟩
where
  go : Nat → Fixpoint → Fixpoint
    | 0, f => f
    | n + 1, f =>
      let (t, round) := resolutionRound f.table ms
      let f := { f with table := t, resolutions := round.features, iterations := f.iterations + 1 }
      if round.changed then go n f else { f with converged := true }

end NameFlow.Flow
