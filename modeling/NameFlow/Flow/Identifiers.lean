import NameFlow.Feature
import NameFlow.Flow.Run

/-!
# Declared identifiers

The names that a module declares, in source order and without any table. A function stands
before everything declared inside it. Lambdas have no name of their own and are left out.
-/

namespace NameFlow.Flow

set_option autoImplicit false

def identification : Interpretation (Array Feature) where
  declareType _ name s := s.push ⟨.typeName, name⟩
  enterFunction _ name s :=
    if name.toList.head? = some ':' then s else s.push ⟨.functionName, name⟩
  bindVariable _ name _ _ s := (none, s.push ⟨.variableName, name⟩)

def identifiers (m : Python.SourceModule) : List Feature :=
  (runModule identification m #[]).toList

end NameFlow.Flow
