import NameFlow.Python.Token

/-!
# Reading tokens

A parser takes tokens off the front of a list or says what it wanted instead. It also knows
where the lines of the text start, and a bound on how often anything in the text can repeat.
-/

namespace NameFlow.Python.Grammar

set_option autoImplicit false

structure Env where
  lines : LineStarts
  /-- No less than the number of characters of the text. -/
  bound : Nat

abbrev Parser (α : Type) := ReaderT Env (StateT (List Token) (Except SyntaxError)) α

variable {α : Type}

/-- The kind of the next token. -/
def peek : Parser TokenKind := do
  match (← get) with
  | t :: _ => return t.kind
  | [] => return .endOfText

/-- The kind of the token after the next one. -/
def peekSecond : Parser TokenKind := do
  match (← get) with
  | _ :: t :: _ => return t.kind
  | _ => return .endOfText

def offset : Parser Nat := do
  match (← get) with
  | t :: _ => return t.offset
  | [] => return 0

def fail (fault : Fault) : Parser α := do throw ⟨fault, ← offset⟩

def unexpected (wanted : String) : Parser α := fail (.unexpected wanted)

/-- Passes over the next token. -/
def skip : Parser Unit := modify List.tail

def isNext (kind : TokenKind) : Parser Bool := return (← peek) = kind

def isOperator (text : String) : Parser Bool := isNext (.operator text)

def isKeyword (word : String) : Parser Bool := isNext (.keyword word)

/-- Takes the next token if it is of the given kind. -/
def accept (kind : TokenKind) : Parser Bool := do
  if ← isNext kind then
    skip
    return true
  else return false

def acceptOperator (text : String) : Parser Bool := accept (.operator text)

def acceptKeyword (word : String) : Parser Bool := accept (.keyword word)

/-- Takes the next token if it is one of the operators. -/
def acceptAny (texts : List String) : Parser Bool := do
  match ← peek with
  | .operator text =>
    if text ∈ texts then
      skip
      return true
    else return false
  | _ => return false

def expect (kind : TokenKind) (wanted : String) : Parser Unit := do
  unless ← accept kind do unexpected wanted

def expectOperator (text : String) : Parser Unit := expect (.operator text) text

def expectKeyword (word : String) : Parser Unit := expect (.keyword word) word

def expectName : Parser String := do
  match ← peek with
  | .name id =>
    skip
    return id
  | _ => unexpected "a name"

/-- Runs a parser and takes its tokens only if it succeeds. -/
def attempt? (p : Parser α) : Parser (Option α) := fun env tokens =>
  match p env tokens with
  | .ok (a, rest) => .ok (some a, rest)
  | .error _ => .ok (none, tokens)

/-- Repeats a step until it gives nothing, a given number of times at most. -/
def iterate (step : α → Parser (Option α)) : Nat → α → Parser α
  | 0, a => return a
  | n + 1, a => do
    match ← step a with
    | some a' => iterate step n a'
    | none => return a

/-- Repeats a step until it gives nothing; every success takes a token. -/
def many (step : α → Parser (Option α)) (a : α) : Parser α := do iterate step (← read).bound a

/-- Items separated by commas, and whether a comma stands after the last one. A comma is the last
thing where no further item can start. -/
def commaList (starts : Parser Bool) (item : Parser α) : Parser (List α × Bool) := do
  let first ← item
  let (items, trailing) ← many (fun (items, trailing) => do
    if trailing then
      if ← starts then return some ((← item) :: items, false) else return none
    else if ← acceptOperator "," then return some (items, true)
    else return none) ([first], false)
  return (items.reverse, trailing)

/-- Items between commas up to a closing bracket, which is left in place. -/
def bracketed (closing : String) (item : Parser α) : Parser (List α × Bool) := do
  if ← isOperator closing then return ([], false)
  else commaList (return !(← isOperator closing)) item

end NameFlow.Python.Grammar
