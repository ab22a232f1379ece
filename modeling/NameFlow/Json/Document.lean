/-!
# JSON documents

A document keeps numbers and strings as they are written, so that a reader can decide later what
a literal stands for.
-/

namespace NameFlow.Json

set_option autoImplicit false

inductive Document
  | null
  | bool (value : Bool)
  /-- A number, as written. -/
  | number (literal : String)
  /-- A string, as written between its quotes. -/
  | string (raw : String)
  | array (items : List Document)
  | object (fields : List (String × Document))
deriving Inhabited

def hexDigit (n : Nat) : Char := (Nat.digitChar n)

/-- A character as it is written in a string: quotes, backslashes and control characters are
escaped, all else stands for itself. -/
def encodeChar (c : Char) : List Char :=
  match c with
  | '"' => ['\\', '"']
  | '\\' => ['\\', '\\']
  | '\n' => ['\\', 'n']
  | '\r' => ['\\', 'r']
  | '\t' => ['\\', 't']
  | '\x08' => ['\\', 'b']
  | '\x0c' => ['\\', 'f']
  | c =>
    if c.toNat < 0x20 then
      ['\\', 'u', '0', '0', hexDigit (c.toNat / 16), hexDigit (c.toNat % 16)]
    else [c]

def encode (s : String) : String := String.ofList (s.toList.flatMap encodeChar)

namespace Document

def text (s : String) : Document := .string (encode s)

def nat (n : Nat) : Document := .number (toString n)

def list {α : Type} (f : α → Document) (xs : List α) : Document := .array (xs.map f)

/-- An object with plain names. -/
def record (fields : List (String × Document)) : Document :=
  .object (fields.map fun (name, d) => (encode name, d))

def pad (depth : Nat) : String := String.ofList (List.replicate (2 * depth) ' ')

mutual

/-- Two blanks for every level, one item or field a line. -/
def prettyAt (depth : Nat) : Document → String
  | .null => "null"
  | .bool true => "true"
  | .bool false => "false"
  | .number literal => literal
  | .string raw => "\"" ++ raw ++ "\""
  | .array [] => "[]"
  | .array (d :: ds) =>
    "[\n" ++ pad (depth + 1) ++ prettyAt (depth + 1) d ++ prettyItems (depth + 1) ds ++
      "\n" ++ pad depth ++ "]"
  | .object [] => "\x7b\x7d"
  | .object ((name, d) :: fields) =>
    "\x7b\n" ++ pad (depth + 1) ++ "\"" ++ name ++ "\": " ++ prettyAt (depth + 1) d ++
      prettyFields (depth + 1) fields ++ "\n" ++ pad depth ++ "\x7d"

/-- The items behind the first. -/
def prettyItems (depth : Nat) : List Document → String
  | [] => ""
  | d :: ds => ",\n" ++ pad depth ++ prettyAt depth d ++ prettyItems depth ds

/-- The fields behind the first. -/
def prettyFields (depth : Nat) : List (String × Document) → String
  | [] => ""
  | (name, d) :: fields =>
    ",\n" ++ pad depth ++ "\"" ++ name ++ "\": " ++ prettyAt depth d ++ prettyFields depth fields

end

def pretty (d : Document) : String := prettyAt 0 d

end Document

end NameFlow.Json
