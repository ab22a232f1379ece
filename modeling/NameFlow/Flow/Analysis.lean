import NameFlow.Flow.Round

/-!
# The analysis of a corpus

Definitions of all modules first, then resolution rounds up to a fixed point.
-/

namespace NameFlow.Flow

set_option autoImplicit false

open Python

structure Analysis where
  table : Table
  files : List FileFeatures
  iterations : Nat
  converged : Bool

/-- Every feature, file after file. -/
def Analysis.features (a : Analysis) : List Feature := a.files.flatMap (·.all)

/-- Pairs the modules with the features found in each. -/
def fileFeatures (ms : List SourceModule) (definitions resolutions : List (List Feature)) :
    List FileFeatures :=
  (ms.zip (definitions.zip resolutions)).map fun (m, defs, ress) => ⟨m.path, m.root, defs, ress⟩

def analyze (budget : Nat) (ms : List SourceModule) : Analysis :=
  let (t, definitions) := definitionRound ∅ ms
  let f := fixpoint budget t ms
  ⟨f.table, fileFeatures ms definitions f.resolutions, f.iterations, f.converged⟩

end NameFlow.Flow
