import NameFlow.Python.Literal
import NameFlow.Text.IdentifierChar

/-!
# Tokens

A source text is cut into tokens. Indentation is told by tokens of its own, line ends inside
brackets vanish, and so do comments and blank lines.
-/

namespace NameFlow.Python

set_option autoImplicit false

inductive TokenKind
  | name (id : String)
  | keyword (word : String)
  | number (imaginary : Bool)
  | string (literal : Literal)
  | operator (text : String)
  | newline
  | indent
  | dedent
  | endOfText
deriving DecidableEq, Repr, Inhabited

structure Token where
  kind : TokenKind
  offset : Nat
deriving DecidableEq, Repr, Inhabited

def keywords : List String :=
  ["False", "None", "True", "and", "as", "assert", "async", "await", "break", "class", "continue",
    "def", "del", "elif", "else", "except", "finally", "for", "from", "global", "if", "import",
    "in", "is", "lambda", "nonlocal", "not", "or", "pass", "raise", "return", "try", "while",
    "with", "yield"]

/-- Operators and delimiters; of two that fit, the longer stands first. -/
def operators : List String :=
  ["**=", "//=", ">>=", "<<=", "...", "**", "//", ">>", "<<", "<=", ">=", "==", "!=", "->", "+=",
    "-=", "*=", "/=", "%=", "@=", "&=", "|=", "^=", ":=", "+", "-", "*", "/", "%", "@", "&", "|",
    "^", "~", "<", ">", "(", ")", "[", "]", "\x7b", "\x7d", ",", ":", ".", ";", "="]

/-- Depth of an indentation, counted once with tabs to the next multiple of eight and once with
tabs as single blanks. Two indentations agree only if they agree in both counts. -/
structure Indentation where
  column : Nat
  blanks : Nat
deriving DecidableEq, Repr, Inhabited

/-- What remains to be read, the open indentations and the open brackets, innermost first. -/
structure Reader where
  rest : List Located
  indents : List Indentation
  brackets : List Char
  tokens : Array Token
  /-- No token has been read on this line. -/
  atLineStart : Bool
  /-- Offset just after the text. -/
  ending : Nat

namespace Reader

abbrev Result := Except SyntaxError

def offset (r : Reader) : Nat := (r.rest.head?.map (·.offset)).getD r.ending

def fail {α : Type} (r : Reader) (fault : Fault) : Result α := .error ⟨fault, r.offset⟩

def emit (r : Reader) (kind : TokenKind) : Reader :=
  { r with tokens := r.tokens.push ⟨kind, r.offset⟩ }

/-- The blanks before the first token of a line. A line joined to the one before by a backslash
has the indentation of that one. -/
def indentation : Indentation → Option Indentation → List Located →
    Option (Indentation × List Located)
  | here, fixed, [] => some (fixed.getD here, [])
  | here, fixed, c :: cs =>
    if c.char = ' ' then indentation ⟨here.column + 1, here.blanks + 1⟩ fixed cs
    else if c.char = '\t' then
      indentation ⟨(here.column / 8 + 1) * 8, here.blanks + 1⟩ fixed cs
    else if c.char = '\x0c' then indentation ⟨0, 0⟩ fixed cs
    else if c.char = '\\' then
      match cs with
      | n :: d :: rest =>
        if n.char = '\n' then
          let first := if here.column = 0 then none else some ⟨here.column, here.column⟩
          indentation ⟨0, 0⟩ (fixed.or first) (d :: rest)
        else none
      | _ => none
    else some (fixed.getD here, c :: cs)

/-- Closes indentations deeper than the given one. -/
def dedents (here : Indentation) (r : Reader) : List Indentation → Result Reader
  | [] => r.fail .inconsistentIndentation
  | i :: is =>
    if here.column < i.column then dedents here (r.emit .dedent) is
    else if here = i then .ok { r with indents := i :: is }
    else r.fail .inconsistentIndentation

/-- Compares a line's indentation with the open ones. -/
def indentTo (r : Reader) (here : Indentation) : Result Reader :=
  match r.indents with
  | [] => r.fail .inconsistentIndentation
  | i :: is =>
    if here.column > i.column then
      if here.blanks > i.blanks then .ok { r.emit .indent with indents := here :: i :: is }
      else r.fail .inconsistentIndentation
    else dedents here r (i :: is)

/-- Goes to the first token of a line, over blank lines and lines with a comment only. -/
def startLine (r : Reader) : Result Reader :=
  match indentation ⟨0, 0⟩ none r.rest with
  | none => r.fail .brokenContinuation
  | some (here, rest) =>
    let r' := { r with rest }
    match rest with
    | [] => .ok r'
    | c :: cs =>
      if c.char = '\n' then .ok { r' with rest := cs }
      else if c.char = '#' then
        .ok { r' with rest := (cs.dropWhile (·.char ≠ '\n')).drop 1 }
      else (r'.indentTo here).map fun r' => { r' with atLineStart := false }

def lexString (r : Reader) (marker : Literal) (skip : Nat) : Result Reader :=
  match r.rest.drop skip with
  | [] => r.fail .unterminatedString
  | q :: cs =>
    let triple := (cs.take 2).length = 2 && (cs.take 2).all (·.char = q.char)
    let cs := if triple then cs.drop 2 else cs
    match Literal.splitBody q.char triple cs with
    | none => r.fail .unterminatedString
    | some (body, rest) =>
      let start := q.offset + (if triple then 3 else 1)
      .ok { r.emit (.string { marker with body := relocate start body }) with rest }

def isQuote (c : Char) : Bool := c = '"' || c = '\x27'

def lexWord (r : Reader) : Result Reader :=
  let word := (r.rest.takeWhile (Text.isIdentifierContinue ·.char)).map (·.char)
  let rest := r.rest.drop word.length
  let text := String.ofList word
  match Literal.ofMarker? text with
  | some marker =>
    if rest.head?.any (isQuote ·.char) then lexString r marker word.length
    else .ok { r.emit (.name text) with rest }
  | none =>
    .ok { r.emit (if text ∈ keywords then .keyword text else .name text) with rest }

/-- Characters that a number, or the text just after it, can hold. -/
def isNumberChar (c : Char) : Bool := Number.isWordChar c || c = '.' || c = '+' || c = '-'

def lexNumber (r : Reader) : Result Reader :=
  let run := (r.rest.takeWhile (isNumberChar ·.char)).map (·.char)
  match Number.read run with
  | none => r.fail .malformedNumber
  | some reading =>
    .ok { r.emit (.number reading.imaginary) with
          rest := r.rest.drop (run.length - reading.rest.length) }

def partner : Char → Option Char
  | ')' => some '('
  | ']' => some '['
  | '}' => some '{'
  | _ => none

/-- Keeps account of the open brackets. -/
def track (r : Reader) (op : String) : Result Reader :=
  match op.toList with
  | [c] =>
    if c = '(' || c = '[' || c = '{' then .ok { r with brackets := c :: r.brackets }
    else
      match partner c, r.brackets with
      | none, _ => .ok r
      | some p, b :: bs => if b = p then .ok { r with brackets := bs } else r.fail .strayBracket
      | some _, [] => r.fail .strayBracket
  | _ => .ok r

def lexOperator (r : Reader) : Result Reader :=
  let front := (r.rest.take 3).map (·.char)
  match operators.find? (fun op => op.toList.isPrefixOf front) with
  | none => r.fail .strayCharacter
  | some op => (r.track op).map fun r' =>
      { r'.emit (.operator op) with rest := r.rest.drop op.length }

/-- Ends a line, unless a bracket is open. -/
def endLine (r : Reader) (rest : List Located) : Reader :=
  if r.brackets.isEmpty then { r.emit .newline with rest, atLineStart := true }
  else { r with rest }

/-- Reads one token or skips what separates tokens. -/
def next (r : Reader) : Result Reader :=
  if r.atLineStart && r.brackets.isEmpty then r.startLine
  else
    match r.rest with
    | [] => .ok r
    | c :: cs =>
      if c.char = ' ' || c.char = '\t' || c.char = '\x0c' then .ok { r with rest := cs }
      else if c.char = '#' then .ok { r with rest := cs.dropWhile (·.char ≠ '\n') }
      else if c.char = '\n' then .ok (r.endLine cs)
      else if c.char = '\\' then
        match cs with
        | n :: d :: rest =>
          if n.char = '\n' then .ok { r with rest := d :: rest } else r.fail .brokenContinuation
        | _ => r.fail .brokenContinuation
      else if Text.isIdentifierStart c.char then lexWord r
      else if isQuote c.char then lexString r ⟨false, false, false, []⟩ 0
      else if c.char.isDigit || (c.char = '.' && cs.head?.any (·.char.isDigit)) then lexNumber r
      else lexOperator r

/-- Closes the last line and every indentation. -/
def finish (r : Reader) : Result (List Token) :=
  if r.brackets.isEmpty then
    let r := if r.atLineStart then r else r.emit .newline
    let r := (r.indents.drop 1).foldl (fun r _ => r.emit .dedent) r
    .ok (r.emit .endOfText).tokens.toList
  else r.fail .unclosedBracket

/-- Two rounds consume a character at least, so twice the length of the text bounds the rounds. -/
def loop : Nat → Reader → Result (List Token)
  | 0, r => r.finish
  | fuel + 1, r => if r.rest.isEmpty then r.finish else (r.next).bind (loop fuel)

end Reader

/-- The tokens of located characters, of which `ending` is the offset just after the last. -/
def tokenize (cs : List Located) (ending : Nat) : Except SyntaxError (List Token) :=
  Reader.loop (2 * cs.length + 2)
    { rest := cs, indents := [⟨0, 0⟩], brackets := [], tokens := #[], atLineStart := true, ending }

end NameFlow.Python
