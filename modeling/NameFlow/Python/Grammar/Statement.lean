import NameFlow.Python.Grammar.Pattern

/-!
# Statements

The grammar of statements. A block is read by a parser that is handed down, as nested phrases
are in expressions, and the knot is tied at the end.
-/

namespace NameFlow.Python.Grammar

set_option autoImplicit false

section

variable (expr : Nested)

/-- The targets of a deletion. -/
def deletion : Parser Stmt := do
  let (targets, _) ← commaList atExpression (starTarget expr)
  return .delete targets

def raising : Parser Stmt := do
  if ← atExpression then
    let exc ← expr .expression
    let cause ← if ← acceptKeyword "from" then some <$> expr .expression else pure none
    return .raise (some exc) cause
  else return .raise none none

def assertion : Parser Stmt := do
  let test ← expr .expression
  let msg ← if ← acceptOperator "," then some <$> expr .expression else pure none
  return .assert test msg

def nameList : Parser Stmt := do
  discard (commaList (return true) expectName)
  return .opaqueStmt

def dottedName : Parser Unit := do
  discard expectName
  discard (many (fun _ => do
    if ← acceptOperator "." then
      discard expectName
      return some ()
    else return none) ())

def optionalAlias : Parser Unit := do
  if ← acceptKeyword "as" then discard expectName

def importing : Parser Stmt := do
  discard (commaList (return true) (do
    dottedName
    optionalAlias))
  return .opaqueStmt

def importedName : Parser Unit := do
  discard expectName
  optionalAlias

/-- A relative or absolute module, and the names imported from it. -/
def importingFrom : Parser Stmt := do
  let dots ← many (fun _ => do
    if ← acceptAny [".", "..."] then return some true else return none) false
  if dots then
    unless ← isKeyword "import" do dottedName
  else dottedName
  expectKeyword "import"
  if ← acceptOperator "*" then return .opaqueStmt
  else if ← acceptOperator "(" then
    discard (commaList (return !(← isOperator ")")) importedName)
    expectOperator ")"
    return .opaqueStmt
  else
    discard (commaList (return true) importedName)
    return .opaqueStmt

def augmentedOperators : List String :=
  ["+=", "-=", "*=", "/=", "//=", "%=", "@=", "&=", "|=", "^=", ">>=", "<<=", "**="]

/-- The value of an annotated name, if it has one. -/
def annotated (target : Expr) : Parser Stmt := do
  let annotation ← expr .expression
  let value ← if ← acceptOperator "=" then some <$> yieldOrStarExpressions expr else pure none
  return .annAssign target annotation value

/-- What a statement may start with, and whether it can be annotated: a tuple has to stand in
parentheses for that. -/
def leadingExpression : Parser (Expr × Bool) := do
  let (items, trailing) ← commaList atExpression (starExpression expr)
  return (tupleOf items trailing, items.length = 1 && !trailing && !items.any isStarred)

/-- An expression, or an assignment of one of three kinds. -/
def expressionOrAssignment : Parser Stmt := do
  let (first, annotatable) ← leadingExpression expr
  if ← (if annotatable then acceptOperator ":" else return false) then annotated expr first
  else if ← acceptAny augmentedOperators then
    return .augAssign first (← yieldOrStarExpressions expr)
  else
    let chain ← many (fun es => do
      if ← acceptOperator "=" then return some ((← yieldOrStarExpressions expr) :: es)
      else return none) [first]
    match chain with
    | value :: target :: targets => return .assign (target :: targets).reverse value
    | _ => return .expr first

def simpleStatement : Parser Stmt := do
  match ← peek with
  | .keyword "pass" => skip *> return .opaqueStmt
  | .keyword "break" => skip *> return .opaqueStmt
  | .keyword "continue" => skip *> return .opaqueStmt
  | .keyword "return" =>
    skip
    if ← atExpression then return .return (some (← starExpressions expr)) else return .return none
  | .keyword "raise" => skip *> raising expr
  | .keyword "global" => skip *> nameList
  | .keyword "nonlocal" => skip *> nameList
  | .keyword "yield" => return .expr (← yieldExpr expr)
  | .keyword "del" => skip *> deletion expr
  | .keyword "assert" => skip *> assertion expr
  | .keyword "import" => skip *> importing
  | .keyword "from" => skip *> importingFrom
  | _ => expressionOrAssignment expr

/-- A type parameter: a name that may have a bound, or a starred name. -/
def typeParameter : Parser Unit := do
  if ← acceptAny ["*", "**"] then discard expectName
  else
    discard expectName
    if ← acceptOperator ":" then discard (expr .expression)

/-- Type parameters are read and dropped. -/
def typeParameters : Parser Unit := do
  if ← acceptOperator "[" then
    discard (commaList (return !(← isOperator "]")) (typeParameter expr))
    expectOperator "]"

def typeAlias : Parser Stmt := do
  expect (.name "type") "type"
  discard expectName
  typeParameters expr
  expectOperator "="
  discard (expr .expression)
  return .opaqueStmt

/-- Statements on one line, separated by semicolons, of which the first is read as given. -/
def lineFrom (first : Parser Stmt) : Parser (List Stmt) := do
  let first ← first
  let (statements, _) ← many (fun ((ss, more) : List Stmt × Bool) => do
    if !more || (← isNext .newline) then return none
    else
      let s ← simpleStatement expr
      return some (s :: ss, ← acceptOperator ";")) ([first], ← acceptOperator ";")
  expect .newline "the end of the line"
  return statements.reverse

def simpleLine : Parser (List Stmt) := lineFrom expr (simpleStatement expr)

variable (block : Parser (List Stmt))

/-- The block after a colon. -/
def suite : Parser (List Stmt) := do
  expectOperator ":"
  block

def elseSuite : Parser (List Stmt) := do
  if ← acceptKeyword "else" then suite block else return []

/-- A condition with its block, and the alternatives behind it. -/
structure Branch where
  test : Expr
  body : List Stmt

def branch : Parser Branch := do
  let test ← named expr
  return ⟨test, ← suite block⟩

def conditional : Parser Stmt := do
  let first ← branch expr block
  let others ← many (fun bs => do
    if ← acceptKeyword "elif" then return some ((← branch expr block) :: bs) else return none) []
  let orelse ← elseSuite block
  let rest := others.foldl (fun orelse b => [.if b.test b.body orelse]) orelse
  return .if first.test first.body rest

def whileLoop : Parser Stmt := do
  let b ← branch expr block
  return .while b.test b.body (← elseSuite block)

def forLoop : Parser Stmt := do
  let target ← starTargets expr
  expectKeyword "in"
  let iter ← starExpressions expr
  let body ← suite block
  return .for target iter body (← elseSuite block)

def withItem : Parser WithItem := do
  let context ← expr .expression
  let target ← if ← acceptKeyword "as" then some <$> expr .bitOr else pure none
  return ⟨context, target⟩

/-- Items may stand in parentheses if nothing but a colon follows those. -/
def withItems : Parser (List WithItem) := do
  let grouped ← attempt? do
    expectOperator "("
    let (items, _) ← commaList (return !(← isOperator ")")) (withItem expr)
    expectOperator ")"
    unless ← isOperator ":" do unexpected ":"
    return items
  match grouped with
  | some items => return items
  | none => return (← commaList (return true) (withItem expr)).1

def withBlock : Parser Stmt := do
  let items ← withItems expr
  return .with items (← suite block)

/-- A handler; the starred form has to name a type. -/
def handler (star : Bool) : Parser (Handler Stmt) := do
  if star then expectOperator "*"
  if !star && (← isOperator ":") then return ⟨none, none, ← suite block⟩
  else
    let type ← expr .expression
    let name ← if ← acceptKeyword "as" then some <$> expectName else pure none
    return ⟨some type, name, ← suite block⟩

def tryBlock : Parser Stmt := do
  let body ← suite block
  let star := (← peekSecond) = .operator "*"
  let handlers ← many (fun hs => do
    if ← acceptKeyword "except" then return some ((← handler expr block star) :: hs)
    else return none) []
  let orelse ← if handlers.isEmpty then pure [] else elseSuite block
  let finalbody ← if ← acceptKeyword "finally" then suite block
    else if handlers.isEmpty then unexpected "except"
    else pure []
  return .try body handlers.reverse orelse finalbody

def functionDefinition : Parser Stmt := do
  let name ← expectName
  typeParameters expr
  expectOperator "("
  let params ← parameters expr true ")"
  expectOperator ")"
  let returns ← if ← acceptOperator "->" then some <$> expr .expression else pure none
  return .functionDef name params returns (← suite block)

/-- Only the positional arguments of a class are its bases. -/
def classDefinition : Parser Stmt := do
  let name ← expectName
  typeParameters expr
  let bases ← if ← acceptOperator "(" then Prod.fst <$> arguments expr false else pure []
  return .classDef name bases (← suite block)

def asyncStatement : Parser Stmt := do
  if ← acceptKeyword "def" then functionDefinition expr block
  else if ← acceptKeyword "for" then forLoop expr block
  else if ← acceptKeyword "with" then withBlock expr block
  else unexpected "def"

/-- Decorators are read and dropped. -/
def decorated : Parser Stmt := do
  discard (many (fun _ => do
    if ← acceptOperator "@" then
      discard (named expr)
      expect .newline "the end of the line"
      return some ()
    else return none) ())
  if ← acceptKeyword "def" then functionDefinition expr block
  else if ← acceptKeyword "class" then classDefinition expr block
  else
    expectKeyword "async"
    expectKeyword "def"
    functionDefinition expr block

/-- The subject of a match: a starred one needs a comma. -/
def subject : Parser Unit := do
  let starred ← isOperator "*"
  let (items, trailing) ← commaList atExpression (starNamed expr)
  if starred && items.length = 1 && !trailing then unexpected ","

/-- A case with its guard and block. -/
def matchCase : Parser Unit := do
  expect (.name "case") "case"
  patterns (patternTo expr (← read).bound)
  if ← acceptKeyword "if" then discard (named expr)
  discard (suite block)

def matchStatement : Parser Stmt := do
  expect (.name "match") "match"
  subject expr
  expectOperator ":"
  expect .newline "the end of the line"
  expect .indent "an indented block"
  matchCase expr block
  discard (many (fun _ => do
    if ← isNext .dedent then return none
    else
      matchCase expr block
      return some ()) ())
  expect .dedent "the end of the block"
  return .opaqueStmt

/-- A statement, or the statements of a line. An alias of a type stands first in its line. -/
def statement : Parser (List Stmt) := do
  match ← peek with
  | .keyword "def" => skip *> List.singleton <$> functionDefinition expr block
  | .keyword "class" => skip *> List.singleton <$> classDefinition expr block
  | .keyword "if" => skip *> List.singleton <$> conditional expr block
  | .keyword "while" => skip *> List.singleton <$> whileLoop expr block
  | .keyword "for" => skip *> List.singleton <$> forLoop expr block
  | .keyword "with" => skip *> List.singleton <$> withBlock expr block
  | .keyword "try" => skip *> List.singleton <$> tryBlock expr block
  | .keyword "async" => skip *> List.singleton <$> asyncStatement expr block
  | .operator "@" => List.singleton <$> decorated expr block
  | .name "match" =>
    match ← attempt? (matchStatement expr block) with
    | some s => return [s]
    | none => simpleLine expr
  | .name "type" =>
    match ← peekSecond with
    | .name _ => lineFrom expr (typeAlias expr)
    | _ => simpleLine expr
  | _ => simpleLine expr

/-- Statements up to a token that is left in place. -/
def statementsUntil (ending : TokenKind) : Parser (List Stmt) := do
  let chunks ← many (fun chunks => do
    if ← isNext ending then return none
    else return some ((← statement expr block) :: chunks)) []
  return chunks.reverse.flatten

/-- The statements of an indented block, or those on the rest of the line. -/
def blockBody : Parser (List Stmt) := do
  if ← accept .newline then
    expect .indent "an indented block"
    let body ← statementsUntil expr block .dedent
    expect .dedent "the end of the block"
    return body
  else simpleLine expr

end

/-- Blocks nested a given number of times at most. -/
def blockTo (expr : Nested) : Nat → Parser (List Stmt)
  | 0 => unexpected "less nesting"
  | n + 1 => blockBody expr (blockTo expr n)

/-- The statements of a whole text. -/
def program : Parser (List Stmt) := do
  let bound := (← read).bound
  let expr := nestedTo bound
  let body ← statementsUntil expr (blockTo expr bound) .endOfText
  expect .endOfText "the end of the text"
  return body

end NameFlow.Python.Grammar
