import NameFlow.Feature
import NameFlow.Vocabulary.Roles
import NameFlow.Vocabulary.Words
import NameFlow.Text.Decimal
import NameFlow.Text.Line

/-!
# Phrases

A stream of tags is counted by identifier and category. Every run of consecutive words of an
identifier is a candidate phrase, and it survives if it occurs in every category that the
stream has. Its score is the geometric mean of its shares of the three categories.
-/

namespace NameFlow.Vocabulary

set_option autoImplicit false

/-- A count for each category. -/
structure Counts where
  typeCount : Nat
  functionCount : Nat
  variableCount : Nat
deriving DecidableEq, Repr, Inhabited

namespace Counts

def zero : Counts := ⟨0, 0, 0⟩

def get (c : Counts) : Category → Nat
  | .type => c.typeCount
  | .function => c.functionCount
  | .variable => c.variableCount

def add (c d : Counts) : Counts :=
  ⟨c.typeCount + d.typeCount, c.functionCount + d.functionCount, c.variableCount + d.variableCount⟩

def increment (c : Counts) : Category → Counts
  | .type => { c with typeCount := c.typeCount + 1 }
  | .function => { c with functionCount := c.functionCount + 1 }
  | .variable => { c with variableCount := c.variableCount + 1 }

/-- The number of categories with a positive count. -/
def present (c : Counts) : Nat := Category.all.countP fun category => 0 < c.get category

end Counts

def geometricMean (x y z : Float) : Float := Float.cbrt (1.0 * x * y * z)

/-- An identifier and how often it occurs in each category. -/
structure Identifier where
  name : String
  counts : Counts
deriving DecidableEq, Repr, Inhabited

namespace Identifier

def score (i : Identifier) : Float :=
  geometricMean (Text.floatOfCount i.counts.typeCount) (Text.floatOfCount i.counts.functionCount)
    (Text.floatOfCount i.counts.variableCount)

def render (i : Identifier) : String :=
  "<" ++ i.name ++ " (" ++ toString i.counts.typeCount ++ "," ++
    toString i.counts.functionCount ++ "," ++ toString i.counts.variableCount ++ ")>"

end Identifier

/-- Identifiers and categories in order of first occurrence, with their counts. -/
structure Tally where
  categories : OrderedMap Category Nat
  identifiers : OrderedMap String Counts
deriving Inhabited

namespace Tally

def empty : Tally := ⟨∅, ∅⟩

/-- Counts one tag; a letter that the map does not know is passed over. -/
def add (map : RoleMap) (t : Tally) (letter : Char) (name : String) : Tally :=
  match map.category? letter with
  | none => t
  | some category =>
    { categories := t.categories.update category fun n => n.getD 0 + 1
      identifiers := t.identifiers.update name fun c => (c.getD .zero).increment category }

def identifierList (t : Tally) : List Identifier :=
  t.identifiers.toList.map fun (name, counts) => ⟨name, counts⟩

/-- The total of a category, one where it does not occur. -/
def total (t : Tally) (category : Category) : Nat := (t.categories.get? category).getD 1

end Tally

/-- A run of words with the identifiers that hold it, each as often as it does. -/
structure Candidate where
  identifiers : List Identifier
  counts : Counts
deriving Inhabited

/-- The non-empty runs of words that start with the first one, shortest first. -/
def initialRuns {α : Type} : List α → List (List α)
  | [] => []
  | w :: ws => [w] :: (initialRuns ws).map (w :: ·)

/-- The non-empty runs of consecutive words, by start and then by length. -/
def runs {α : Type} : List α → List (List α)
  | [] => []
  | w :: ws => initialRuns (w :: ws) ++ runs ws

def Candidate.add (i : Identifier) (c : Option Candidate) : Candidate :=
  match c with
  | some c => ⟨c.identifiers ++ [i], c.counts.add i.counts⟩
  | none => ⟨[i], Counts.zero.add i.counts⟩

def candidates (identifiers : List Identifier) : OrderedMap (List String) Candidate :=
  identifiers.foldl (fun m i =>
    (runs (splitWords i.name)).foldl (fun m run => m.update run (.add i)) m) ∅

/-- A phrase that survived, with the category totals that its counts are shares of. -/
structure Phrase where
  words : List String
  /-- Names of the contributing identifiers, best score first. -/
  identifiers : List String
  counts : Counts
  totals : Counts
deriving DecidableEq, Repr, Inhabited

namespace Phrase

/-- The words as they stand in frequency lists. -/
def key (p : Phrase) : String := String.intercalate "/" p.words

/-- The words as they stand in key files. -/
def joined (p : Phrase) : String := String.join p.words

/-- The part of a category's total that the phrase accounts for. -/
def share (p : Phrase) (category : Category) : Float :=
  Text.floatOfCount (p.counts.get category) / Text.floatOfCount (p.totals.get category)

def score (p : Phrase) : Float :=
  geometricMean (p.share .type) (p.share .function) (p.share .variable)

def render (p : Phrase) : String :=
  "<" ++ p.key ++ " (" ++ Text.fixed 3 (p.share .type) ++ "," ++
    Text.fixed 3 (p.share .variable) ++ "," ++ Text.fixed 3 (p.share .function) ++ ")>"

end Phrase

/-- Sorts by a floating-point key, largest first; ties keep their order. -/
def sortDescending {α : Type} (key : α → Float) (xs : List α) : List α :=
  (xs.map fun a => (Text.floatRank (key a), a)).mergeSort (fun a b => b.1 ≤ a.1) |>.map (·.2)

structure PhraseSet where
  categories : OrderedMap Category Nat
  identifiers : List Identifier
  phrases : List Phrase
deriving Inhabited

namespace PhraseSet

/-- A candidate survives if it occurs in as many categories as the stream has. -/
def phrase? (t : Tally) (words : List String) (c : Candidate) : Option Phrase :=
  if c.counts.present = t.categories.size then
    some {
      words
      identifiers := (sortDescending Identifier.score c.identifiers).map (·.name)
      counts := c.counts
      totals := ⟨t.total .type, t.total .function, t.total .variable⟩ }
  else none

def ofTally (t : Tally) : PhraseSet where
  categories := t.categories
  identifiers := t.identifierList
  phrases := (candidates t.identifierList).toList.filterMap fun (words, c) => phrase? t words c

/-- The tags of one line: words of a letter and a name. A line that is empty or that starts with
a plus or an exclamation mark holds none. -/
def lineTags (line : List Char) : List (Char × String) :=
  match Text.trim line with
  | [] => []
  | '+' :: _ => []
  | '!' :: _ => []
  | line => (Text.words line).filterMap fun word =>
    match word with
    | [] => none
    | letter :: name => some (letter, String.ofList name)

/-- Every tag of a text. -/
def textTags (text : String) : List (Char × String) := (Text.lines text.toList).flatMap lineTags

def ofPairs (map : RoleMap) (tags : List (Char × String)) : PhraseSet :=
  ofTally (tags.foldl (fun t (letter, name) => t.add map letter name) .empty)

def ofTags (map : RoleMap) (text : String) : PhraseSet := ofPairs map (textTags text)

def ofFeatures (map : RoleMap) (features : List Feature) : PhraseSet :=
  ofPairs map (features.map fun f => (f.role.code, f.name))

def renderCategories (s : PhraseSet) : String :=
  "\x7b" ++ String.intercalate ", " (s.categories.toList.map fun (category, n) =>
    category.letter.toString ++ ": " ++ toString n) ++ "\x7d"

end PhraseSet

end NameFlow.Vocabulary
