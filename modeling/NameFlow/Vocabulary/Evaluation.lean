import NameFlow.Vocabulary.Glossary
import NameFlow.Vocabulary.KeyFile

/-!
# Evaluation

A glossary is evaluated against a key file: a term is found at the best rank of any of its
spellings, and it is a hit if that rank is below a threshold.
-/

namespace NameFlow.Vocabulary

set_option autoImplicit false

structure EntryReport where
  name : String
  hits : Nat
  total : Nat
  /-- Rank and first spelling of every term found, best first. -/
  found : List (Nat × String)
deriving DecidableEq, Repr, Inhabited

/-- The entries evaluated so far, with the hits and terms counted over them. -/
structure Report where
  entries : List EntryReport
  hits : Nat
  total : Nat
deriving DecidableEq, Repr, Inhabited

/-- The ranks of what phrases join to. Of phrases that join to one spelling the first counts. -/
def firstRanks (ranked : List Phrase) : OrderedMap String Nat :=
  ranked.zipIdx.foldl (fun ranks (p, rank) => ranks.update p.joined (·.getD rank)) ∅

/-- The best rank of a term, with its first spelling. -/
def findTerm (ranks : OrderedMap String Nat) (spellings : List String) : Option (Nat × String) :=
  match (spellings.filterMap ranks.get?).min?, spellings.head? with
  | some rank, some first => some (rank, first)
  | _, _ => none

/-- By rank and then by spelling. -/
def foundBefore (a b : Nat × String) : Bool := a.1 < b.1 || (a.1 = b.1 && a.2 ≤ b.2)

def evaluateEntry (g : Glossary) (threshold : Nat) (name : String) (terms : List (List String))
    (s : PhraseSet) : EntryReport :=
  let found := (terms.filterMap (findTerm (firstRanks (g.rank s)))).mergeSort foundBefore
  { name
    hits := found.countP fun f => f.1 < threshold
    total := terms.length
    found }

namespace Report

def empty : Report := ⟨[], 0, 0⟩

/-- Takes in one more entry. -/
def add (r : Report) (e : EntryReport) : Report where
  entries := r.entries ++ [e]
  hits := r.hits + e.hits
  total := r.total + e.total

end Report

/-- Evaluates every entry on the phrases that `load` gives for its name. -/
def evaluate {m : Type → Type} [Monad m] (g : Glossary) (keys : KeyFile) (threshold : Nat)
    (load : String → m PhraseSet) : m Report :=
  keys.entries.toList.foldlM (fun report (name, terms) => do
    return report.add (evaluateEntry g threshold name terms (← load name))) .empty

namespace Report

def percent (r : Report) : Float :=
  if r.total = 0 then 0.0
  else Text.floatOfCount r.hits * 100.0 / Text.floatOfCount r.total

def renderEntry (verbose : Bool) (e : EntryReport) : String :=
  e.name ++ " " ++ toString e.hits ++ "/" ++ toString e.total ++ "\n" ++
    if verbose then
      "# " ++ String.intercalate " " (e.found.map fun (rank, word) => toString rank ++ ":" ++ word) ++
        "\n"
    else ""

def render (verbose : Bool) (r : Report) : String :=
  String.join (r.entries.map (renderEntry verbose)) ++ "Total: " ++ toString r.hits ++ "/" ++
    toString r.total ++ " (" ++ Text.fixed 1 r.percent ++ "%)\n"

end Report

end NameFlow.Vocabulary
