import NameFlow.OrderedMap
import NameFlow.Text.Line
import NameFlow.Vocabulary.Error

/-!
# Key files

A key file names the terms that a glossary should find. A plus sign opens an entry, every line
after it lists spellings of one term, and an empty line closes the entry. A name that is opened
again starts from nothing, at its first place.
-/

namespace NameFlow.Vocabulary

set_option autoImplicit false

/-- Entries in order of first opening, each with a list of spellings for every term. -/
structure KeyFile where
  entries : OrderedMap String (List (List String))

namespace KeyFile

/-- The entries so far and the one that is open. -/
structure State where
  entries : OrderedMap String (List (List String))
  current : Option String

def readLine (s : State) (line : Nat × List Char) : Except Error State :=
  match Text.content line.2 with
  | [] => .ok { s with current := none }
  | '+' :: rest =>
    match Text.trim rest with
    | [] => .error (.keyFile line.1 .noName)
    | name => .ok ⟨s.entries.insert (String.ofList name) [], some (String.ofList name)⟩
  | content =>
    match s.current with
    | none => .error (.keyFile line.1 (.outsideEntry (String.ofList content)))
    | some name =>
      let spellings := (Text.words content).map String.ofList
      .ok { s with entries := s.entries.update name fun terms => terms.getD [] ++ [spellings] }

def parse (text : String) : Except Error KeyFile := do
  let s ← (Text.numberedLines text).foldlM readLine ⟨∅, none⟩
  return ⟨s.entries⟩

end KeyFile

end NameFlow.Vocabulary
