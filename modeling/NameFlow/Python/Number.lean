import NameFlow.Text.Hexadecimal

/-!
# Numeric literals

A number is read off the front of a text, and what remains is given back. Digits may be
grouped by single underscores. A letter right after a number is an error unless it begins a
word that can follow an operand.
-/

namespace NameFlow.Python.Number

set_option autoImplicit false

def isOctalDigit (c : Char) : Bool := '0' ≤ c && c ≤ '7'

def isBinaryDigit (c : Char) : Bool := c = '0' || c = '1'

/-- Digits and single underscores before digits, after a first digit or a base. -/
def moreDigits (isDigit : Char → Bool) : List Char → Option (List Char)
  | [] => some []
  | '_' :: c :: cs => if isDigit c then moreDigits isDigit cs else none
  | ['_'] => none
  | c :: cs => if isDigit c then moreDigits isDigit cs else some (c :: cs)

/-- At least one digit, which an underscore may precede. -/
def baseDigits (isDigit : Char → Bool) : List Char → Option (List Char)
  | '_' :: cs => moreDigits isDigit ('_' :: cs)
  | c :: cs => if isDigit c then moreDigits isDigit cs else none
  | [] => none

def isWordChar (c : Char) : Bool := c.isAlphanum || c = '_' || c.toNat ≥ 0x80

/-- Whether a text begins with a word that ends there. -/
def startsWithWord (word : List Char) (cs : List Char) : Bool :=
  word.isPrefixOf cs && !((cs.drop word.length).head?.any isWordChar)

/-- Whether a number may end before this text. -/
def mayEnd (cs : List Char) : Bool :=
  match cs with
  | [] => true
  | c :: _ =>
    !isWordChar c ||
      [['a', 'n', 'd'], ['e', 'l', 's', 'e'], ['f', 'o', 'r'], ['o', 'r'], ['n', 'o', 't']].any
        (startsWithWord · cs) ||
      [['i', 'f'], ['i', 'n'], ['i', 's']].any (·.isPrefixOf cs)

/-- What is left of a text after a number, and whether the number is imaginary. -/
structure Reading where
  rest : List Char
  imaginary : Bool

def finish (imaginary : Bool) (cs : List Char) : Option Reading :=
  if mayEnd cs then some ⟨cs, imaginary⟩ else none

def isImaginaryMark (c : Char) : Bool := c = 'j' || c = 'J'

def isExponentMark (c : Char) : Bool := c = 'e' || c = 'E'

def suffix (cs : List Char) : Option Reading :=
  match cs with
  | c :: rest => if isImaginaryMark c then finish true rest else finish false cs
  | [] => finish false []

def exponent (cs : List Char) : Option Reading :=
  match cs with
  | e :: rest =>
    if isExponentMark e then
      match rest with
      | s :: d :: more =>
        if s = '+' || s = '-' then
          if d.isDigit then (moreDigits Char.isDigit more).bind suffix else none
        else if s.isDigit then (moreDigits Char.isDigit (d :: more)).bind suffix
        else finish false cs
      | [d] => if d.isDigit then suffix [] else if d = '+' || d = '-' then none else finish false cs
      | [] => finish false cs
    else suffix cs
  | [] => suffix []

def fraction (cs : List Char) : Option Reading :=
  match cs with
  | d :: rest => if d.isDigit then (moreDigits Char.isDigit rest).bind exponent else exponent cs
  | [] => exponent []

def afterInteger (cs : List Char) : Option Reading :=
  match cs with
  | '.' :: rest => fraction rest
  | _ => exponent cs

/-- Zeros, grouped like digits. -/
def zeros : List Char → Option (List Char)
  | '_' :: d :: cs => if d = '0' then zeros cs else if d.isDigit then some (d :: cs) else none
  | ['_'] => none
  | '0' :: cs => zeros cs
  | cs => some cs

/-- Only zero may be written with leading zeros, unless a fraction, an exponent or an
imaginary mark follows. -/
def afterZero (cs : List Char) : Option Reading :=
  (zeros cs).bind fun cs =>
    match cs with
    | d :: rest =>
      if d.isDigit then
        (moreDigits Char.isDigit rest).bind fun rest =>
          match rest with
          | c :: _ =>
            if c = '.' || isExponentMark c || isImaginaryMark c then afterInteger rest else none
          | [] => none
      else afterInteger cs
    | [] => afterInteger []

/-- An integer in a base that is no multiple of ten ends where its digits do. -/
def inBase (isDigit : Char → Bool) (cs : List Char) : Option Reading :=
  (baseDigits isDigit cs).bind fun rest =>
    if rest.head?.any Char.isDigit then none else finish false rest

/-- Reads a number off a text that begins with a digit, or with a point before a digit. -/
def read (cs : List Char) : Option Reading :=
  match cs with
  | '0' :: b :: rest =>
    if b = 'x' || b = 'X' then inBase Text.isHexDigit rest
    else if b = 'o' || b = 'O' then inBase isOctalDigit rest
    else if b = 'b' || b = 'B' then inBase isBinaryDigit rest
    else afterZero (b :: rest)
  | ['0'] => some ⟨[], false⟩
  | '.' :: rest => fraction rest
  | _ :: rest => (moreDigits Char.isDigit rest).bind afterInteger
  | [] => none

end NameFlow.Python.Number
