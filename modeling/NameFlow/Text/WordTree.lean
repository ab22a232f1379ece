/-!
# Trees of words as text

A set of words is written as a tree of shared beginnings: a stem, and in parentheses what may
follow it, separated by commas. `IN(,K(,Y),TO)` stands for IN, INK, INKY and INTO. The text may be
cut into lines at any place.
-/

namespace NameFlow.Text.WordTree

set_option autoImplicit false

/-- How far a word was found while a tree is read. -/
structure Search where
  /-- What is left of the word behind the path to this place, if the word goes along it. -/
  rest : Option (List Char)
  /-- The same for every open parenthesis, the innermost first. -/
  outer : List (Option (List Char))
  /-- Whether the word ended where a path did. -/
  found : Bool
deriving DecidableEq, Repr, Inhabited

namespace Search

/-- The word is one of the tree's if nothing of it is left where a path ends. -/
def atEnd (s : Search) : Bool := s.found || s.rest = some []

/-- Goes along one character. -/
def along (c : Char) : List Char → Option (List Char)
  | [] => none
  | d :: word => if d = c then some word else none

def step (s : Search) (c : Char) : Search :=
  if c = '(' then { s with outer := s.rest :: s.outer }
  else if c = ',' then { s with rest := s.outer.head?.join, found := s.atEnd }
  else if c = ')' then { rest := none, outer := s.outer.tail, found := s.atEnd }
  else { s with rest := s.rest.bind (along c) }

def line (s : Search) (text : String) : Search := text.toList.foldl step s

end Search

/-- Whether a word is one of those that a tree, given in lines, stands for. -/
def contains (tree : List String) (word : List Char) : Bool :=
  (tree.foldl Search.line ⟨some word, [], false⟩).atEnd

end NameFlow.Text.WordTree
