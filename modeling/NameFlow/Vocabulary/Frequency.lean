import NameFlow.Vocabulary.Error
import NameFlow.Vocabulary.PhraseSet

/-!
# Frequency lists

A frequency list says in how many streams each phrase survived. The number of streams itself
is kept under a key that is no phrase. Counts are 64-bit words, so that behind the largest comes
zero. Written lists hold only what occurred at least twice, most frequent first.
-/

namespace NameFlow.Vocabulary

set_option autoImplicit false

/-- The key of the number of streams. -/
def totalKey : String := "*"

structure FrequencyList where
  counts : OrderedMap String UInt64

namespace FrequencyList

def empty : FrequencyList := ⟨(∅ : OrderedMap String UInt64).insert totalKey 0⟩

instance : Inhabited FrequencyList := ⟨empty⟩

def increment (m : OrderedMap String UInt64) (key : String) : OrderedMap String UInt64 :=
  m.update key fun n => n.getD 0 + 1

/-- Counts one stream, and every phrase of it once. -/
def add (l : FrequencyList) (s : PhraseSet) : FrequencyList :=
  ⟨(s.phrases.map Phrase.key).foldl increment (increment l.counts totalKey)⟩

def get? (l : FrequencyList) (key : String) : Option Nat := (l.counts.get? key).map UInt64.toNat

def total (l : FrequencyList) : Nat := (l.get? totalKey).getD 0

def entries (l : FrequencyList) : List (String × Nat) :=
  l.counts.toList.map fun (key, n) => (key, n.toNat)

/-- The entries that are written, in the order in which they are. -/
def writtenEntries (l : FrequencyList) : List (String × Nat) :=
  (l.entries.filter fun e => 2 ≤ e.2).mergeSort fun a b => b.2 ≤ a.2

def header : String := "# phrases list\n"

def renderEntry (e : String × Nat) : String := toString e.2 ++ " " ++ e.1 ++ "\n"

def render (l : FrequencyList) : String :=
  header ++ String.join (l.writtenEntries.map renderEntry)

/-- The entry of a line: a count, a blank and a phrase. A line that says nothing has none. -/
def readLine (line : Nat × List Char) : Except Error (Option (String × Nat)) :=
  match Text.content line.2 with
  | [] => .ok none
  | content =>
    match content.dropWhile (· ≠ ' ') with
    | [] => .error (.frequency line.1 (.noPhrase (String.ofList content)))
    | _ :: phrase =>
      let count := content.takeWhile (· ≠ ' ')
      match Text.readCount count with
      | .ok n => .ok (some (String.ofList (Text.trim phrase), n))
      | .error fault => .error (.frequency line.1 (.badCount (String.ofList count) fault))

/-- Reads a list; of several counts for one phrase the last holds. -/
def parse (text : String) : Except Error FrequencyList := do
  let read ← (Text.numberedLines text).mapM readLine
  let counts : OrderedMap String UInt64 :=
    (read.filterMap id).foldl (fun m (phrase, n) => m.insert phrase (.ofNat n)) ∅
  if counts.contains totalKey then return ⟨counts⟩ else throw .missingTotal

/-- Whether two lists hold the same counts, in whatever order. -/
def same (l m : FrequencyList) : Bool :=
  l.counts.size = m.counts.size && l.entries.all fun (key, n) => m.get? key = some n

end FrequencyList

end NameFlow.Vocabulary
