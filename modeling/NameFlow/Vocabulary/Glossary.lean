import NameFlow.Vocabulary.Frequency

/-!
# Glossaries

A glossary weighs the phrases of a stream against a frequency list: a phrase's weight is its
score times the logarithm of how much rarer it is than a phrase of every stream.
-/

namespace NameFlow.Vocabulary

set_option autoImplicit false

/-- A frequency list of at least one stream. -/
structure Glossary where
  frequencies : FrequencyList
  total_pos : 0 < frequencies.total

namespace Glossary

def ofFrequencies (l : FrequencyList) : Except Error Glossary :=
  if h : 0 < l.total then .ok ⟨l, h⟩ else .error .missingTotal

/-- The logarithm of the number of streams. -/
def base (g : Glossary) : Float := Float.log (Text.floatOfCount g.frequencies.total)

/-- Inverse document frequency; a phrase never seen has the largest. -/
def idf (g : Glossary) (key : String) : Float :=
  match g.frequencies.get? key with
  | some (n + 1) => g.base - Float.log (Text.floatOfCount (n + 1))
  | _ => g.base

def weight (g : Glossary) (p : Phrase) : Float := p.score * g.idf p.key

/-- The phrases of a set by descending weight; ties keep their order. -/
def rank (g : Glossary) (s : PhraseSet) : List Phrase := sortDescending g.weight s.phrases

/-- The best phrases, a given number at most. -/
def top (g : Glossary) (s : PhraseSet) (n : Nat) : List Phrase := (g.rank s).take n

end Glossary

end NameFlow.Vocabulary
