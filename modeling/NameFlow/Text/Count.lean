/-!
# Counts as text

A count is written in decimal and is less than 2⁶⁴. Reading allows one plus sign and leading
zeros, and goes from left to right: the first digit that is none, or that makes the number too
large, is what is reported.
-/

namespace NameFlow.Text

set_option autoImplicit false

/-- Why a text is no count. -/
inductive CountFault
  | empty
  | notDigit
  | tooLarge
deriving DecidableEq, Repr, Inhabited

def CountFault.message : CountFault → String
  | .empty => "cannot parse integer from empty string"
  | .notDigit => "invalid digit found in string"
  | .tooLarge => "number too large to fit in target type"

def countLimit : Nat := Nat.pow 2 64

/-- Reads digits behind a number already read. -/
def readDigits (n : Nat) : List Char → Except CountFault Nat
  | [] => .ok n
  | c :: cs =>
    if c.isDigit then
      let n := n * 10 + (c.toNat - '0'.toNat)
      if n < countLimit then readDigits n cs else .error .tooLarge
    else .error .notDigit

def readCount (cs : List Char) : Except CountFault Nat :=
  match cs with
  | [] => .error .empty
  | ['+'] => .error .notDigit
  | '+' :: cs => readDigits 0 cs
  | cs => readDigits 0 cs

end NameFlow.Text
