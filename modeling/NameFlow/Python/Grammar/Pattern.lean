import NameFlow.Python.Grammar.Expression

/-!
# Patterns

The patterns of match statements. Nothing in them matters to the flow of names, so they are
recognised and not kept.
-/

namespace NameFlow.Python.Grammar

set_option autoImplicit false

section

variable (expr : Nested) (nested : Parser Unit)

/-- A name that a pattern binds; an underscore binds nothing. -/
def captureName : Parser Unit := do
  if (← expectName) = "_" then unexpected "a name"

def atPattern : Parser Bool := do
  match ← peek with
  | .name _ => return true
  | .number _ => return true
  | .string _ => return true
  | .keyword word => return word ∈ ["None", "True", "False"]
  | .operator text => return text ∈ ["(", "[", "\x7b", "-", "*"]
  | _ => return false

def starPattern : Parser Unit := do
  if ← acceptOperator "*" then discard expectName else nested

/-- Takes a number and says whether it is imaginary. -/
def expectNumber : Parser Bool := do
  match ← peek with
  | .number imaginary =>
    skip
    return imaginary
  | _ => unexpected "a number"

/-- A number with an optional sign, or the sum of a real and an imaginary one. -/
def numberPattern : Parser Unit := do
  discard (acceptOperator "-")
  let imaginary ← expectNumber
  if ← acceptAny ["+", "-"] then
    if imaginary then unexpected "a real number"
    else unless ← expectNumber do unexpected "an imaginary number"

/-- A name with the attributes behind it, and whether there are any. -/
def dottedPattern : Parser Bool := do
  discard expectName
  many (fun _ => do
    if ← acceptOperator "." then
      discard expectName
      return some true
    else return none) false

/-- The arguments of a class pattern: keywords stand after the others. -/
def classArguments : Parser Unit := do
  discard (many (fun ((keyword, more) : Bool × Bool) => do
    if !more || (← isOperator ")") then return none
    else
      match ← peek, ← peekSecond with
      | .name _, .operator "=" =>
        skip
        skip
        nested
        return some (true, ← acceptOperator ",")
      | _, _ =>
        if keyword then unexpected "a keyword"
        else
          nested
          return some (false, ← acceptOperator ",")) (false, true))
  expectOperator ")"

def mappingKey : Parser Unit := do
  match ← peek with
  | .string _ => discard (strings expr)
  | .number _ => numberPattern
  | .operator "-" => numberPattern
  | .keyword word =>
    if word ∈ ["None", "True", "False"] then skip else unexpected "a key"
  | _ => unless ← dottedPattern do unexpected "a key"

/-- The entries of a mapping pattern; the rest of a mapping is captured last. -/
def mappingEntries : Parser Unit := do
  discard (many (fun (more : Bool) => do
    if !more || (← isOperator "\x7d") then return none
    else if ← acceptOperator "**" then
      captureName
      discard (acceptOperator ",")
      return some false
    else
      mappingKey expr
      expectOperator ":"
      nested
      return some (← acceptOperator ",")) true)
  expectOperator "\x7d"

/-- A group or a sequence, after the opening parenthesis. A starred pattern makes a sequence. -/
def groupPattern : Parser Unit := do
  let starred ← isOperator "*"
  let (items, trailing) ← bracketed ")" (starPattern nested)
  if starred && items.length = 1 && !trailing then unexpected ","
  expectOperator ")"

def closedPattern : Parser Unit := do
  match ← peek with
  | .string _ => discard (strings expr)
  | .number _ => numberPattern
  | .operator "-" => numberPattern
  | .keyword word =>
    if word ∈ ["None", "True", "False"] then skip else unexpected "a pattern"
  | .operator "(" =>
    skip
    groupPattern nested
  | .operator "[" =>
    skip
    discard (bracketed "]" (starPattern nested))
    expectOperator "]"
  | .operator "\x7b" =>
    skip
    mappingEntries expr nested
  | .name "_" => skip
  | _ =>
    discard dottedPattern
    if ← acceptOperator "(" then classArguments nested

/-- Alternatives, and a name for what they match. -/
def pattern : Parser Unit := do
  closedPattern expr nested
  discard (many (fun _ => do
    if ← acceptOperator "|" then
      closedPattern expr nested
      return some ()
    else return none) ())
  if ← acceptKeyword "as" then captureName

end

/-- Patterns nested a given number of times at most. -/
def patternTo (expr : Nested) : Nat → Parser Unit
  | 0 => unexpected "less nesting"
  | n + 1 => pattern expr (patternTo expr n)

/-- The patterns of a case: several, or a starred one with a comma, are a sequence. -/
def patterns (nested : Parser Unit) : Parser Unit := do
  let starred ← isOperator "*"
  let (items, trailing) ← commaList atPattern (starPattern nested)
  if starred && items.length = 1 && !trailing then unexpected ","

end NameFlow.Python.Grammar
