/-!
# The words of an identifier

An identifier is read from its end. A word ends in digits, if it has any, and its letters are
either small, with at most one capital in front, or all capitals. Everything else separates
words, and so do digits with no letter before them.
-/

namespace NameFlow.Vocabulary

set_option autoImplicit false

/-- The word being read, its characters in order and in lower case. -/
inductive Pending
  /-- Digits, before which a letter may stand. -/
  | digits (word : List Char)
  /-- A word of small letters. -/
  | small (word : List Char)
  /-- A word of capitals. -/
  | capital (word : List Char)
deriving DecidableEq, Repr

structure Reading where
  pending : Pending
  words : List (List Char)
deriving DecidableEq, Repr

/-- The words read, with the pending one if it has letters. -/
def Reading.finish (r : Reading) : List (List Char) :=
  match r.pending with
  | .digits _ => r.words
  | .small word => word :: r.words
  | .capital word => word :: r.words

/-- Takes in the character before those read so far. -/
def Reading.take (c : Char) (r : Reading) : Reading :=
  if c.isLower then
    match r.pending with
    | .digits word => ⟨.small (c :: word), r.words⟩
    | .small word => ⟨.small (c :: word), r.words⟩
    | .capital word => ⟨.small [c], word :: r.words⟩
  else if c.isUpper then
    match r.pending with
    | .digits word => ⟨.capital (c.toLower :: word), r.words⟩
    | .small word => ⟨.digits [], (c.toLower :: word) :: r.words⟩
    | .capital word => ⟨.capital (c.toLower :: word), r.words⟩
  else if c.isDigit then
    match r.pending with
    | .digits word => ⟨.digits (c :: word), r.words⟩
    | _ => ⟨.digits [c], r.finish⟩
  else ⟨.digits [], r.finish⟩

/-- The words of an identifier in lower case. -/
def splitChars (cs : List Char) : List (List Char) :=
  (cs.foldr Reading.take ⟨.digits [], []⟩).finish

def splitWords (name : String) : List String := (splitChars name.toList).map String.ofList

end NameFlow.Vocabulary
