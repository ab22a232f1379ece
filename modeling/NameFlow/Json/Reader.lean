import NameFlow.Json.Document
import NameFlow.Text.Hexadecimal

/-!
# Reading JSON

Reading follows the grammar and decodes nothing: a string is checked for the shape of its escapes
only. `decode` says which characters a string stands for, if its escapes make up any.
-/

namespace NameFlow.Json

set_option autoImplicit false

inductive Fault
  | expectedValue
  | expectedColon
  | expectedItemEnd
  | expectedFieldEnd
  | expectedKey
  | trailingComma
  | trailingCharacters
  | invalidNumber
  | invalidEscape
  | controlCharacter
  | endOfText
deriving DecidableEq, Repr, Inhabited

def Fault.message : Fault → String
  | .expectedValue => "expected value"
  | .expectedColon => "expected `:`"
  | .expectedItemEnd => "expected `,` or `]`"
  | .expectedFieldEnd => "expected `,` or `\x7d`"
  | .expectedKey => "key must be a string"
  | .trailingComma => "trailing comma"
  | .trailingCharacters => "trailing characters"
  | .invalidNumber => "invalid number"
  | .invalidEscape => "invalid escape"
  | .controlCharacter => "control character (\\u0000-\\u001F) found while parsing a string"
  | .endOfText => "EOF while parsing a value"

/-- An attempt to read: what was read and what is left, or a fault and what was left when it was
found. -/
abbrev Attempt : Type → Type := Except (Fault × List Char)

def isBlank (c : Char) : Bool := c = ' ' || c = '\n' || c = '\t' || c = '\r'

def skipBlank (cs : List Char) : List Char := cs.dropWhile isBlank

def fail {α : Type} (fault : Fault) (cs : List Char) : Attempt (α × List Char) :=
  .error (if cs.isEmpty then .endOfText else fault, cs)

/-- The rest of a string behind its opening quote, as written. -/
def readString : List Char → Attempt (List Char × List Char)
  | [] => .error (.endOfText, [])
  | '"' :: cs => .ok ([], cs)
  | '\\' :: 'u' :: a :: b :: c :: d :: cs =>
    if [a, b, c, d].all Text.isHexDigit then do
      let (raw, rest) ← readString cs
      return ('\\' :: 'u' :: a :: b :: c :: d :: raw, rest)
    else .error (.invalidEscape, cs)
  | '\\' :: c :: cs =>
    if "\"\\/bfnrt".toList.contains c then do
      let (raw, rest) ← readString cs
      return ('\\' :: c :: raw, rest)
    else .error (.invalidEscape, cs)
  | c :: cs =>
    if c.toNat < 0x20 then .error (.controlCharacter, c :: cs)
    else if c = '\\' then .error (.endOfText, [])
    else do
      let (raw, rest) ← readString cs
      return (c :: raw, rest)

/-- One digit at least. -/
def readDigits (cs : List Char) : Attempt (List Char × List Char) :=
  match cs.takeWhile Char.isDigit with
  | [] => fail .invalidNumber cs
  | digits => .ok (digits, cs.dropWhile Char.isDigit)

/-- The digits before the point; a zero stands alone. -/
def readWhole (cs : List Char) : Attempt (List Char × List Char) :=
  match cs with
  | '0' :: cs =>
    match cs with
    | c :: _ => if c.isDigit then .error (.invalidNumber, cs) else .ok (['0'], cs)
    | [] => .ok (['0'], cs)
  | cs => readDigits cs

def readFraction (cs : List Char) : Attempt (List Char × List Char) :=
  match cs with
  | '.' :: cs => do
    let (digits, cs) ← readDigits cs
    return ('.' :: digits, cs)
  | cs => .ok ([], cs)

def readExponent (cs : List Char) : Attempt (List Char × List Char) :=
  match cs with
  | c :: cs =>
    if c = 'e' || c = 'E' then do
      let (sign, cs) := match cs with
        | '+' :: cs => (['+'], cs)
        | '-' :: cs => (['-'], cs)
        | cs => ([], cs)
      let (digits, cs) ← readDigits cs
      return (c :: sign ++ digits, cs)
    else .ok ([], c :: cs)
  | [] => .ok ([], [])

def readNumber (cs : List Char) : Attempt (Document × List Char) := do
  let (sign, cs) := match cs with
    | '-' :: cs => (['-'], cs)
    | cs => ([], cs)
  let (whole, cs) ← readWhole cs
  let (fraction, cs) ← readFraction cs
  let (exponent, cs) ← readExponent cs
  return (.number (String.ofList (sign ++ whole ++ fraction ++ exponent)), cs)

/-- The items of an array from the first on, given how to read one. -/
def readItems (item : List Char → Attempt (Document × List Char)) :
    Nat → List Char → Attempt (List Document × List Char)
  | 0, cs => .error (.expectedValue, cs)
  | fuel + 1, cs => do
    let (d, cs) ← item cs
    match skipBlank cs with
    | ',' :: cs =>
      match skipBlank cs with
      | ']' :: _ => .error (.trailingComma, skipBlank cs)
      | cs =>
        let (ds, cs) ← readItems item fuel cs
        return (d :: ds, cs)
    | ']' :: cs => return ([d], cs)
    | cs => fail .expectedItemEnd cs

/-- The fields of an object from the first on, given how to read a value. -/
def readFields (value : List Char → Attempt (Document × List Char)) :
    Nat → List Char → Attempt (List (String × Document) × List Char)
  | 0, cs => .error (.expectedKey, cs)
  | fuel + 1, cs => do
    match cs with
    | '"' :: cs =>
      let (name, cs) ← readString cs
      match skipBlank cs with
      | ':' :: cs =>
        let (d, cs) ← value cs
        match skipBlank cs with
        | ',' :: cs =>
          match skipBlank cs with
          | '\x7d' :: _ => .error (.trailingComma, skipBlank cs)
          | cs =>
            let (fields, cs) ← readFields value fuel cs
            return ((String.ofList name, d) :: fields, cs)
        | '\x7d' :: cs => return ([(String.ofList name, d)], cs)
        | cs => fail .expectedFieldEnd cs
      | cs => fail .expectedColon cs
    | cs => fail .expectedKey cs

/-- A word that stands for a value. -/
def readWord (word : String) (d : Document) (cs : List Char) : Attempt (Document × List Char) :=
  if word.toList.isPrefixOf cs then .ok (d, cs.drop word.length) else fail .expectedValue cs

/-- A value nested no deeper than a given number. -/
def readValue : Nat → List Char → Attempt (Document × List Char)
  | 0, cs => .error (.expectedValue, cs)
  | depth + 1, cs =>
    match skipBlank cs with
    | [] => .error (.endOfText, [])
    | '"' :: cs => do
      let (raw, cs) ← readString cs
      return (.string (String.ofList raw), cs)
    | '[' :: cs =>
      match skipBlank cs with
      | ']' :: cs => .ok (.array [], cs)
      | cs => do
        let (items, cs) ← readItems (readValue depth) (cs.length + 1) cs
        return (.array items, cs)
    | '\x7b' :: cs =>
      match skipBlank cs with
      | '\x7d' :: cs => .ok (.object [], cs)
      | cs => do
        let (fields, cs) ← readFields (readValue depth) (cs.length + 1) cs
        return (.object fields, cs)
    | 'n' :: cs => readWord "null" .null ('n' :: cs)
    | 't' :: cs => readWord "true" (.bool true) ('t' :: cs)
    | 'f' :: cs => readWord "false" (.bool false) ('f' :: cs)
    | c :: cs =>
      if c = '-' || c.isDigit then readNumber (c :: cs) else .error (.expectedValue, c :: cs)

/-- Where a fault was found: its line, and its column in bytes, both counted from one. -/
def place (text left : List Char) : Nat × Nat :=
  let seen := text.take (text.length + 1 - left.length)
  let line := seen.reverse.takeWhile (· ≠ '\n')
  (1 + (seen.filter (· = '\n')).length, (line.map Char.utf8Size).foldr (· + ·) 0)

def describe (fault : Fault) (place : Nat × Nat) : String :=
  fault.message ++ " at line " ++ toString place.1 ++ " column " ++ toString place.2

/-- The document of a text, or a description of what is wrong with it. -/
def Document.parse (text : String) : Except String Document :=
  let cs := text.toList
  match readValue (cs.length + 1) cs with
  | .error (fault, left) => .error (describe fault (place cs left))
  | .ok (d, left) =>
    match skipBlank left with
    | [] => .ok d
    | left => .error (describe .trailingCharacters (place cs left))

def isHighSurrogate (n : Nat) : Bool := 0xD800 ≤ n && n < 0xDC00

def isLowSurrogate (n : Nat) : Bool := 0xDC00 ≤ n && n < 0xE000

/-- What a character stands for behind a backslash. -/
def unescape : Char → Char
  | 'b' => '\x08'
  | 'f' => '\x0c'
  | 'n' => '\n'
  | 'r' => '\r'
  | 't' => '\t'
  | c => c

/-- The characters that a string stands for; surrogates have to come in pairs. -/
def decodeChars : List Char → Option (List Char)
  | [] => some []
  | '\\' :: 'u' :: a :: b :: c :: d :: cs =>
    let n := Text.hexValue [a, b, c, d]
    if isLowSurrogate n then none
    else if isHighSurrogate n then
      match cs with
      | '\\' :: 'u' :: a :: b :: c :: d :: cs =>
        let m := Text.hexValue [a, b, c, d]
        if isLowSurrogate m then
          (decodeChars cs).map (Char.ofNat (0x10000 + (n - 0xD800) * 0x400 + (m - 0xDC00)) :: ·)
        else none
      | _ => none
    else (decodeChars cs).map (Char.ofNat n :: ·)
  | '\\' :: c :: cs => (decodeChars cs).map (unescape c :: ·)
  | c :: cs => (decodeChars cs).map (c :: ·)

def decode (raw : String) : Option String := (decodeChars raw.toList).map String.ofList

end NameFlow.Json
