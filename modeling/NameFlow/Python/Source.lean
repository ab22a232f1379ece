import NameFlow.Python.Syntax

/-!
# Source text

Characters keep the byte offset at which they stand, so that a place in the text can be told
long after line endings have been read as plain newlines.
-/

namespace NameFlow.Python

set_option autoImplicit false

/-- A character and its byte offset. -/
structure Located where
  char : Char
  offset : Nat
deriving DecidableEq, Repr, Inhabited

/-- The characters from an offset on. A carriage return, alone or before a newline, ends a line. -/
def locate : Nat → List Char → List Located
  | _, [] => []
  | o, '\r' :: '\n' :: cs => ⟨'\n', o⟩ :: locate (o + 2) cs
  | o, '\r' :: cs => ⟨'\n', o⟩ :: locate (o + 1) cs
  | o, c :: cs => ⟨c, o⟩ :: locate (o + c.utf8Size) cs

/-- Counts the offsets anew from the given one. -/
def relocate : Nat → List Located → List Located
  | _, [] => []
  | o, c :: cs => ⟨c.char, o⟩ :: relocate (o + c.char.utf8Size) cs

/-- The offsets at which lines start, ascending. -/
structure LineStarts where
  toList : List Nat
deriving DecidableEq, Repr, Inhabited

namespace LineStarts

/-- A text taken for a single line. -/
def single : LineStarts := ⟨[0]⟩

/-- The offsets just after the newlines of a text that begins at an offset. -/
def after : Nat → List Char → List Nat
  | _, [] => []
  | o, c :: cs =>
    if c = '\n' then (o + 1) :: after (o + 1) cs else after (o + c.utf8Size) cs

/-- Lines start at the beginning and after every newline, and nowhere else. -/
def ofText (text : String) : LineStarts := ⟨0 :: after 0 text.toList⟩

def position (starts : LineStarts) (offset : Nat) : Position :=
  let line := max 1 (starts.toList.countP (· ≤ offset))
  ⟨line, offset - starts.toList.getD (line - 1) 0⟩

end LineStarts

/-- What makes a text no program. -/
inductive Fault
  | inconsistentIndentation
  | brokenContinuation
  | strayCharacter
  | strayBracket
  | unclosedBracket
  | unterminatedString
  | malformedNumber
  | malformedEscape
  | malformedField
  | mixedLiterals
  | repeatedName (name : String)
  | unexpected (wanted : String)
deriving DecidableEq, Repr, Inhabited

def Fault.message : Fault → String
  | .inconsistentIndentation => "inconsistent indentation"
  | .brokenContinuation => "nothing may follow a line continuation"
  | .strayCharacter => "unknown character"
  | .strayBracket => "bracket without a partner"
  | .unclosedBracket => "bracket never closed"
  | .unterminatedString => "unterminated string"
  | .malformedNumber => "malformed number"
  | .malformedEscape => "malformed escape sequence"
  | .malformedField => "malformed replacement field"
  | .mixedLiterals => "bytes and text cannot be joined"
  | .repeatedName name => "repeated name " ++ name
  | .unexpected wanted => "expected " ++ wanted

structure SyntaxError where
  fault : Fault
  offset : Nat
deriving DecidableEq, Repr, Inhabited

def SyntaxError.message (e : SyntaxError) : String :=
  e.fault.message ++ " at byte " ++ toString e.offset

end NameFlow.Python
