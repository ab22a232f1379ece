import NameFlow.Python.Literal

/-!
# Formatted literals

The body of a formatted literal is a sequence of texts and replacement fields. A field holds
the source of an expression, and its format specification may hold further fields, one level
deep. Doubled braces stand for themselves outside of specifications.
-/

namespace NameFlow.Python.Format

set_option autoImplicit false

inductive Piece
  /-- Literal text, not empty. -/
  | text
  /-- The source of a field's expression. -/
  | field (source : List Located)
  /-- The source of an expression in a format specification. -/
  | inner (source : List Located)
deriving Repr, Inhabited

/-- A stretch of literal text, what follows it, and whether it ended at a doubled brace. -/
structure Stretch where
  text : List Char
  rest : List Located
  doubled : Bool

def Stretch.prepend (c : Char) (s : Stretch) : Stretch := { s with text := c :: s.text }

/-- Literal text up to a brace that means something. Fails at a closing brace outside of a
specification. -/
def stretch (raw top named : Bool) : List Located → Option Stretch
  | [] => some ⟨[], [], false⟩
  | c :: cs =>
    if named then (stretch raw top (c.char ≠ '}') cs).map (.prepend c.char)
    else if c.char = '\\' && !raw then
      match cs with
      | [] => some ⟨['\\'], [], false⟩
      | d :: ds =>
        if d.char = '{' || d.char = '}' then (stretch raw top false (d :: ds)).map (.prepend '\\')
        else
          (stretch raw top (d.char = 'N' && ds.head?.any (·.char = '{')) ds).map fun s =>
            (s.prepend d.char).prepend '\\'
    else if c.char = '{' || c.char = '}' then
      match cs with
      | d :: ds =>
        if top && d.char = c.char then some ⟨[c.char], ds, true⟩
        else if top && c.char = '}' then none
        else some ⟨[], c :: d :: ds, false⟩
      | [] => if top && c.char = '}' then none else some ⟨[], [c], false⟩
    else (stretch raw top false cs).map (.prepend c.char)

def closes (opening closing : Char) : Bool :=
  (opening = '(' && closing = ')') || (opening = '[' && closing = ']') ||
    (opening = '{' && closing = '}')

/-- A quotation inside an expression: its quote and whether it is tripled. -/
structure Quotation where
  quote : Char
  triple : Bool

def addSource (c : Located) (r : Option (List Located × List Located)) :
    Option (List Located × List Located) :=
  r.map fun (source, rest) => (c :: source, rest)

/-- The source of an expression, up to the character that ends it outside of all brackets and
quotations. Backslashes and comments are not allowed in it. -/
def source : Option Quotation → List Char → List Located → Option (List Located × List Located)
  | _, _, [] => none
  | some q, brackets, c :: cs =>
    if c.char = '\\' then none
    else if c.char = q.quote then
      if q.triple then
        match cs with
        | d :: e :: rest =>
          if d.char = q.quote && e.char = q.quote then
            addSource c (addSource d (addSource e (source none brackets rest)))
          else addSource c (source (some q) brackets (d :: e :: rest))
        | rest => addSource c (source (some q) brackets rest)
      else addSource c (source none brackets cs)
    else addSource c (source (some q) brackets cs)
  | none, brackets, c :: cs =>
    if c.char = '\\' || c.char = '#' then none
    else if c.char = '"' || c.char = '\'' then
      match cs with
      | d :: e :: rest =>
        if d.char = c.char && e.char = c.char then
          addSource c (addSource d (addSource e (source (some ⟨c.char, true⟩) brackets rest)))
        else addSource c (source (some ⟨c.char, false⟩) brackets (d :: e :: rest))
      | rest => addSource c (source (some ⟨c.char, false⟩) brackets rest)
    else if c.char = '(' || c.char = '[' || c.char = '{' then
      addSource c (source none (c.char :: brackets) cs)
    else if brackets.isEmpty &&
        (c.char = '!' || c.char = '=' || c.char = '<' || c.char = '>') then
      match cs with
      | d :: rest =>
        if d.char = '=' then addSource c (addSource d (source none brackets rest))
        else if c.char = '<' || c.char = '>' then addSource c (source none brackets (d :: rest))
        else some ([], c :: d :: rest)
      | [] => none
    else if brackets.isEmpty && (c.char = ':' || c.char = '}') then some ([], c :: cs)
    else if c.char = ')' || c.char = ']' || c.char = '}' then
      match brackets with
      | b :: rest => if closes b c.char then addSource c (source none rest cs) else none
      | [] => none
    else addSource c (source none brackets cs)

def isBlank (c : Char) : Bool :=
  c = ' ' || c = '\t' || c = '\n' || c = '\r' || c = '\x0b' || c = '\x0c'

/-- Skips an equals sign after an expression, which asks for the expression's text. -/
def skipEquals (cs : List Located) : Bool × List Located :=
  match cs with
  | c :: rest => if c.char = '=' then (true, rest.dropWhile (isBlank ·.char)) else (false, cs)
  | [] => (false, [])

/-- Skips a conversion, one of three letters after an exclamation mark. -/
def skipConversion (cs : List Located) : Option (List Located) :=
  match cs with
  | c :: d :: e :: rest =>
    if c.char = '!' then
      if (d.char = 's' || d.char = 'r' || d.char = 'a') && (e.char = ':' || e.char = '}') then
        some (e :: rest)
      else none
    else some cs
  | c :: rest => if c.char = '!' then none else some (c :: rest)
  | [] => some []

/-- In a specification every expression is an inner one. -/
def demote : Piece → Option Piece
  | .text => none
  | .field s => some (.inner s)
  | .inner s => some (.inner s)

/-- The pieces from the front of a body on, and what follows them. Specifications nest at most
`levels` deep; each round consumes a part of the body, so its length bounds the rounds. -/
def piecesFrom (raw : Bool) : Nat → Nat → Bool → List Located → Option (List Piece × List Located)
  | 0, _, _, _ => none
  | fuel + 1, levels, top, cs =>
    (stretch raw top false cs).bind fun s =>
      if !(raw || Literal.escapesValid false s.text) then none
      else
        let texts := if Literal.isEmptyText raw s.text then [] else [.text]
        let onward (pieces : List Piece) (rest : List Located) :=
          (piecesFrom raw fuel levels top rest).map fun (more, rest) =>
            (texts ++ pieces ++ more, rest)
        if s.doubled then onward [] s.rest
        else
          match s.rest with
          | [] => some (texts, [])
          | brace :: cs =>
            if brace.char = '}' then some (texts, s.rest)
            else
              match levels with
              | 0 => none
              | levels' + 1 =>
                (source none [] cs).bind fun (expr, rest) =>
                  if expr.all (isBlank ·.char) then none
                  else
                    let (shown, rest) := skipEquals rest
                    let here := if shown then [.text, .field expr] else [.field expr]
                    (skipConversion rest).bind fun rest =>
                      match rest with
                      | c :: after =>
                        if c.char = '}' then onward here after
                        else if c.char = ':' then
                          (piecesFrom raw fuel levels' false after).bind fun (inner, rest) =>
                            match rest with
                            | d :: after =>
                              if d.char = '}' then
                                onward (here ++ inner.filterMap demote) after
                              else none
                            | [] => none
                        else none
                      | [] => none

/-- The pieces of a formatted literal's body. -/
def pieces (l : Literal) : Option (List Piece) :=
  match piecesFrom l.raw (l.body.length + 1) 2 true l.body with
  | some (pieces, []) => some pieces
  | _ => none

end NameFlow.Python.Format
