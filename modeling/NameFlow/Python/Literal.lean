import NameFlow.Python.Number
import NameFlow.Python.Source
import NameFlow.Text.CharacterName

/-!
# String literals

A string literal is a marker of letters, an opening quote, a body and the same quote again.
Its value plays no part in the analysis; only its form does, and in formatted literals the
expressions of the replacement fields.
-/

namespace NameFlow.Python

set_option autoImplicit false

structure Literal where
  raw : Bool
  bytes : Bool
  formatted : Bool
  body : List Located
deriving DecidableEq, Repr, Inhabited

namespace Literal

/-- The kinds of literal that letters before a quote stand for. -/
def ofMarker? (marker : String) : Option Literal :=
  match marker.toLower with
  | "" => some ⟨false, false, false, []⟩
  | "u" => some ⟨false, false, false, []⟩
  | "r" => some ⟨true, false, false, []⟩
  | "b" => some ⟨false, true, false, []⟩
  | "f" => some ⟨false, false, true, []⟩
  | "br" => some ⟨true, true, false, []⟩
  | "rb" => some ⟨true, true, false, []⟩
  | "fr" => some ⟨true, false, true, []⟩
  | "rf" => some ⟨true, false, true, []⟩
  | _ => none

/-- Splits at the closing quote. A backslash shields the character after it, and only a body
between triple quotes spans lines. -/
def splitBody (quote : Char) (triple : Bool) : List Located → Option (List Located × List Located)
  | [] => none
  | c :: cs =>
    if c.char = '\\' then
      match cs with
      | [] => none
      | d :: ds => (splitBody quote triple ds).map fun (body, rest) => (c :: d :: body, rest)
    else if c.char = quote then
      if triple then
        match cs with
        | d :: e :: rest =>
          if d.char = quote && e.char = quote then some ([], rest)
          else (splitBody quote triple (d :: e :: rest)).map fun (body, rest) => (c :: body, rest)
        | _ => none
      else some ([], cs)
    else if c.char = '\n' && !triple then none
    else (splitBody quote triple cs).map fun (body, rest) => (c :: body, rest)

/-- A given number of hexadecimal digits that name a code point. -/
def hexEscape (count : Nat) (cs : List Char) : Bool :=
  let digits := cs.take count
  digits.length = count && digits.all Text.isHexDigit && Text.hexValue digits ≤ 0x10FFFF

/-- A character's name between braces. -/
def nameEscape (cs : List Char) : Bool :=
  match cs with
  | '{' :: rest =>
    Text.isCharacterName (rest.takeWhile (· ≠ '}')) && !(rest.dropWhile (· ≠ '}')).isEmpty
  | _ => false

/-- Whether every escape sequence that has a fixed form has that form. -/
def escapesValid (bytes : Bool) : List Char → Bool
  | [] => true
  | '\\' :: c :: cs =>
    (match c with
     | 'x' => hexEscape 2 cs
     | 'u' => bytes || hexEscape 4 cs
     | 'U' => bytes || hexEscape 8 cs
     | 'N' => bytes || nameEscape cs
     | _ => true) && escapesValid bytes cs
  | _ :: cs => escapesValid bytes cs

/-- Whether a text stands for nothing: a backslash joins two lines. -/
def isEmptyText (raw : Bool) : List Char → Bool
  | [] => true
  | '\\' :: '\n' :: cs => !raw && isEmptyText raw cs
  | _ => false

/-- Whether a plain literal is well formed; bytes are written in ASCII. -/
def isValid (l : Literal) : Bool :=
  (l.raw || escapesValid l.bytes (l.body.map (·.char))) &&
    (!l.bytes || l.body.all fun c => c.char.toNat < 0x80)

end Literal

end NameFlow.Python
