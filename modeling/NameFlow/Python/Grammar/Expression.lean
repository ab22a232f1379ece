import NameFlow.Python.Format
import NameFlow.Python.Grammar.Parser

/-!
# Expressions

The grammar of expressions, from the loosest binding to the tightest. Every phrase that lies
inside another, in brackets or behind an operator, is read by a parser for a nested level,
which is handed down; the knot is tied once, at the end. Targets of assignments are not told
apart from other expressions.
-/

namespace NameFlow.Python.Grammar

set_option autoImplicit false

/-- The levels of binding at which a nested phrase can start. -/
inductive Level
  | expression
  | disjunction
  | negation
  | bitOr
  | factor

abbrev Nested := Level → Parser Expr

/-- Whether an expression, starred or not, can start with a token. -/
def startsExpression : TokenKind → Bool
  | .name _ => true
  | .number _ => true
  | .string _ => true
  | .keyword word => word ∈ ["None", "True", "False", "not", "lambda", "await"]
  | .operator text => text ∈ ["(", "[", "\x7b", "-", "+", "~", "...", "*"]
  | _ => false

def atExpression : Parser Bool := return startsExpression (← peek)

/-- One item stands for itself, several or one with a comma for a tuple. -/
def tupleOf (items : List Expr) (trailing : Bool) : Expr :=
  match items, trailing with
  | [e], false => e
  | _, _ => .tuple items

section

variable (nested : Nested)

/-- An expression that may bind its value to a name. -/
def named : Parser Expr := do
  match ← peek, ← peekSecond with
  | .name id, .operator ":=" =>
    skip
    skip
    return .namedExpr (.name id) (← nested .expression)
  | _, _ => nested .expression

def starNamed : Parser Expr := do
  if ← acceptOperator "*" then return .starred (← nested .bitOr) else named nested

def starExpression : Parser Expr := do
  if ← acceptOperator "*" then return .starred (← nested .bitOr) else nested .expression

/-- Expressions between commas, not in brackets. -/
def starExpressions : Parser Expr := do
  let (items, trailing) ← commaList atExpression (starExpression nested)
  return tupleOf items trailing

def starTarget : Parser Expr := do
  if ← acceptOperator "*" then return .starred (← nested .bitOr) else nested .bitOr

/-- Targets between commas, as they stand in loops. -/
def starTargets : Parser Expr := do
  let (items, trailing) ← commaList atExpression (starTarget nested)
  return tupleOf items trailing

def yieldExpr : Parser Expr := do
  expectKeyword "yield"
  if ← acceptKeyword "from" then return .yieldFrom (← nested .expression)
  else if ← atExpression then return .yield (some (← starExpressions nested))
  else return .yield none

def yieldOrStarExpressions : Parser Expr := do
  if ← isKeyword "yield" then yieldExpr nested else starExpressions nested

/-- A clause of a comprehension. -/
def generator : Parser (Generator Expr) := do
  discard (acceptKeyword "async")
  expectKeyword "for"
  let target ← starTargets nested
  expectKeyword "in"
  let iter ← nested .disjunction
  let ifs ← many (fun ifs => do
    if ← acceptKeyword "if" then return some ((← nested .disjunction) :: ifs) else return none) []
  return ⟨target, iter, ifs.reverse⟩

def atGenerator : Parser Bool := do
  match ← peek, ← peekSecond with
  | .keyword "for", _ => return true
  | .keyword "async", .keyword "for" => return true
  | _, _ => return false

def generators : Parser (List (Generator Expr)) := do
  let first ← generator nested
  let all ← many (fun gs => do
    if ← atGenerator then return some ((← generator nested) :: gs) else return none) [first]
  return all.reverse

def isStarred : Expr → Bool
  | .starred _ => true
  | _ => false

/-- What follows the first element inside brackets that can hold a comprehension. -/
def elements (closing : String) (kind : ComprehensionKind) (first : Expr) :
    Parser (Expr ⊕ (List Expr × Bool)) := do
  if ← atGenerator then
    if isStarred first then unexpected closing
    else
      let gs ← generators nested
      expectOperator closing
      return .inl (.comprehension kind first none gs)
  else if ← acceptOperator "," then
    let (rest, _) ← bracketed closing (starNamed nested)
    expectOperator closing
    return .inr (first :: rest, true)
  else
    expectOperator closing
    return .inr ([first], false)

/-- A parenthesised expression, a tuple or a generator, after the opening bracket. -/
def parenthesised : Parser Expr := do
  if ← acceptOperator ")" then return .tuple []
  else if ← isKeyword "yield" then
    let e ← yieldExpr nested
    expectOperator ")"
    return e
  else
    let first ← starNamed nested
    match ← elements nested ")" .generator first with
    | .inl e => return e
    | .inr (items, trailing) =>
      if isStarred first && !trailing then unexpected ","
      else return tupleOf items trailing

def listDisplay : Parser Expr := do
  if ← acceptOperator "]" then return .list []
  else
    match ← elements nested "]" .list (← starNamed nested) with
    | .inl e => return e
    | .inr (items, _) => return .list items

/-- An entry of a dictionary display; a spread mapping has no key. -/
def dictEntry : Parser (Option Expr × Expr) := do
  if ← acceptOperator "**" then return (none, ← nested .bitOr)
  else
    let key ← nested .expression
    expectOperator ":"
    return (some key, ← nested .expression)

def dictRest (first : Option Expr × Expr) : Parser Expr := do
  let entries ← if ← acceptOperator "," then
      let (rest, _) ← bracketed "\x7d" (dictEntry nested)
      pure (first :: rest)
    else pure [first]
  expectOperator "\x7d"
  return .dict (entries.map (·.1)) (entries.map (·.2))

/-- A dictionary or a set, after the opening brace. -/
def braced : Parser Expr := do
  if ← acceptOperator "\x7d" then return .dict [] []
  else if ← isOperator "**" then dictRest nested (← dictEntry nested)
  else if (← isOperator "*") || (← peekSecond) = .operator ":=" then
    setRest (← starNamed nested)
  else
    let first ← nested .expression
    if ← acceptOperator ":" then
      let value ← nested .expression
      if ← atGenerator then
        let gs ← generators nested
        expectOperator "\x7d"
        return .comprehension .dict first (some value) gs
      else dictRest nested (some first, value)
    else setRest first
where
  setRest (first : Expr) : Parser Expr := do
    match ← elements nested "\x7d" .set first with
    | .inl e => return e
    | .inr (items, _) => return .set items

/-- The expression of a replacement field, read as if it stood in parentheses. -/
def fieldExpr (source : List Located) : Parser Expr := do
  let start := (source.head?.map (·.offset)).getD 0
  let ending := (source.getLast?.map fun c => c.offset + c.char.utf8Size).getD 0
  let tokens ← tokenize (⟨'(', start - 1⟩ :: source ++ [⟨')', ending⟩]) (ending + 1)
  let outer ← get
  set tokens
  let e ← nested .expression
  expect .newline "the end of a field"
  set outer
  return e

/-- Text next to text is one constant. -/
def joinTexts : List (Option Expr) → List Expr
  | [] => []
  | none :: none :: rest => joinTexts (none :: rest)
  | none :: rest => .constant :: joinTexts rest
  | some e :: rest => e :: joinTexts rest

/-- The parts of a literal: nothing stands for text, fields are formatted values. -/
def literalParts (l : Literal) : Parser (List (Option Expr)) := do
  if l.formatted then
    match Format.pieces l with
    | none => fail .malformedField
    | some pieces =>
      let parts ← pieces.mapM fun piece =>
        match piece with
        | .text => pure [none]
        | .field source => return [some (.formattedValue (← fieldExpr nested source))]
        | .inner source => do
          discard (fieldExpr nested source)
          return []
      return parts.flatten
  else if !l.isValid then fail .malformedEscape
  else return if Literal.isEmptyText l.raw (l.body.map (·.char)) then [] else [none]

/-- Adjacent literals are one. -/
def strings : Parser Expr := do
  let literals ← many (fun ls => do
    match ← peek with
    | .string l =>
      skip
      return some (l :: ls)
    | _ => return none) []
  let literals := literals.reverse
  let parts ← literals.mapM (literalParts nested)
  if literals.any (·.bytes) && literals.any (!·.bytes) then fail .mixedLiterals
  else if literals.any (·.formatted) then return .joinedStr (joinTexts parts.flatten)
  else return .constant

def atom : Parser Expr := do
  match ← peek with
  | .name id =>
    skip
    return .name id
  | .number _ =>
    skip
    return .constant
  | .string _ => strings nested
  | .keyword word =>
    if word ∈ ["None", "True", "False"] then
      skip
      return .constant
    else unexpected "an expression"
  | .operator "..." =>
    skip
    return .constant
  | .operator "(" =>
    skip
    parenthesised nested
  | .operator "[" =>
    skip
    listDisplay nested
  | .operator "\x7b" =>
    skip
    braced nested
  | _ => unexpected "an expression"

/-- The arguments read so far, last first. -/
structure Arguments where
  args : List Expr
  keywords : List (Keyword Expr)
  spread : Bool

/-- A positional argument. A generator needs no parentheses of its own where it is the only
argument of a call. -/
def positionalArgument (lone : Bool) : Parser Expr := do
  let e ← named nested
  if ← atGenerator then
    if lone then
      let gs ← generators nested
      if ← isOperator ")" then return .comprehension .generator e none gs else unexpected ")"
    else unexpected ","
  else return e

/-- Positional arguments stand before keywords, and no starred one after a spread mapping. A
keyword is given once. -/
def argument (inCall : Bool) (a : Arguments) : Parser Arguments := do
  if ← acceptOperator "*" then
    if a.spread then unexpected "a keyword"
    else return { a with args := .starred (← nested .expression) :: a.args }
  else if ← acceptOperator "**" then
    let value ← nested .expression
    return { a with keywords := ⟨none, value⟩ :: a.keywords, spread := true }
  else
    match ← peek, ← peekSecond with
    | .name id, .operator "=" =>
      if a.keywords.any (·.arg = some id) then fail (.repeatedName id)
      else
        skip
        skip
        return { a with keywords := ⟨some id, ← nested .expression⟩ :: a.keywords }
    | _, _ =>
      if a.keywords.isEmpty then
        let e ← positionalArgument nested (inCall && a.args.isEmpty)
        return { a with args := e :: a.args }
      else unexpected "a keyword"

/-- Arguments of a call or a class up to the closing parenthesis, which is taken too. -/
def arguments (inCall : Bool) : Parser (List Expr × List (Keyword Expr)) := do
  let (a, _) ← many (fun ((a, more) : Arguments × Bool) => do
    if !more || (← isOperator ")") then return none
    else
      let a ← argument nested inCall a
      return some (a, ← acceptOperator ",")) (⟨[], [], false⟩, true)
  expectOperator ")"
  return (a.args.reverse, a.keywords.reverse)

def slicePart : Parser (Option Expr) := do
  if ← atExpression then return some (← nested .expression) else return none

/-- An index or a slice. -/
def sliceItem : Parser Expr := do
  if ← acceptOperator "*" then return .starred (← nested .expression)
  else if (← peekSecond) = .operator ":=" then named nested
  else
    let lower ← slicePart nested
    if ← acceptOperator ":" then
      let upper ← slicePart nested
      let step ← if ← acceptOperator ":" then slicePart nested else pure none
      return .slice lower upper step
    else
      match lower with
      | some e => return e
      | none => unexpected "an index"

/-- The index of a subscript up to the closing bracket, which is taken too. -/
def subscriptIndex : Parser Expr := do
  let (items, trailing) ← commaList (return !(← isOperator "]")) (sliceItem nested)
  expectOperator "]"
  match items, trailing with
  | [.starred e], _ => return .tuple [.starred e]
  | _, _ => return tupleOf items trailing

/-- An atom and the attributes, calls and subscripts behind it. -/
def primary : Parser Expr := do
  many (fun e => do
    if ← acceptOperator "." then return some (.attribute e (← expectName))
    else if ← acceptOperator "(" then
      let (args, keywords) ← arguments nested true
      return some (.call e args keywords)
    else if ← acceptOperator "[" then return some (.subscript e (← subscriptIndex nested))
    else return none) (← atom nested)

def awaited : Parser Expr := do
  if ← acceptKeyword "await" then return .await (← primary nested) else primary nested

def power : Parser Expr := do
  let base ← awaited nested
  if ← acceptOperator "**" then return .binOp base (← nested .factor) else return base

def factor : Parser Expr := do
  if ← acceptAny ["+", "-", "~"] then return .unaryOp (← nested .factor) else power nested

/-- Operands of operators that associate to the left. -/
def leftAssociative (operators : List String) (operand : Parser Expr) : Parser Expr := do
  many (fun left => do
    if ← acceptAny operators then return some (.binOp left (← operand)) else return none)
    (← operand)

def term : Parser Expr := leftAssociative ["*", "/", "//", "%", "@"] (factor nested)

def sum : Parser Expr := leftAssociative ["+", "-"] (term nested)

def shift : Parser Expr := leftAssociative ["<<", ">>"] (sum nested)

def bitAnd : Parser Expr := leftAssociative ["&"] (shift nested)

def bitXor : Parser Expr := leftAssociative ["^"] (bitAnd nested)

def bitOr : Parser Expr := leftAssociative ["|"] (bitXor nested)

/-- Takes a comparison operator, which may be two words. -/
def acceptComparison : Parser Bool := do
  if ← acceptAny ["==", "!=", "<", "<=", ">", ">="] then return true
  else
    match ← peek, ← peekSecond with
    | .keyword "not", .keyword "in" =>
      skip
      skip
      return true
    | .keyword "in", _ =>
      skip
      return true
    | .keyword "is", _ =>
      skip
      discard (acceptKeyword "not")
      return true
    | _, _ => return false

def comparison : Parser Expr := do
  let left ← bitOr nested
  let comparators ← many (fun cs => do
    if ← acceptComparison then return some ((← bitOr nested) :: cs) else return none) []
  match comparators with
  | [] => return left
  | _ => return .compare left comparators.reverse

def negation : Parser Expr := do
  if ← acceptKeyword "not" then return .unaryOp (← nested .negation) else comparison nested

/-- Operands joined by one boolean operator. -/
def booleans (word : String) (operand : Parser Expr) : Parser Expr := do
  let first ← operand
  let values ← many (fun vs => do
    if ← acceptKeyword word then return some ((← operand) :: vs) else return none) [first]
  match values with
  | [e] => return e
  | _ => return .boolOp values.reverse

def conjunction : Parser Expr := booleans "and" (negation nested)

def disjunction : Parser Expr := booleans "or" (conjunction nested)

/-- Parameters read so far, last first. -/
structure ParameterList where
  positional : List (Parameter Expr)
  keywordOnly : List (Parameter Expr)
  vararg : Option String
  kwarg : Option String
  slash : Bool
  star : Bool

def ParameterList.names (ps : ParameterList) : List String :=
  (ps.positional ++ ps.keywordOnly).map (·.name) ++ ps.vararg.toList ++ ps.kwarg.toList

/-- The name of a further parameter, which no other one has. -/
def parameterName (ps : ParameterList) : Parser String := do
  let name ← expectName
  if name ∈ ps.names then fail (.repeatedName name) else return name

def annotation? (annotated : Bool) : Parser (Option Expr) := do
  if annotated then
    if ← acceptOperator ":" then return some (← nested .expression) else return none
  else return none

/-- The annotation of a starred parameter may be starred itself. -/
def starAnnotation (annotated : Bool) : Parser Unit := do
  if annotated then
    if ← acceptOperator ":" then discard (starExpression nested)

/-- A positional parameter without an initial value does not follow one with. -/
def plainParameter (annotated : Bool) (ps : ParameterList) : Parser ParameterList := do
  let name ← parameterName ps
  let annotation ← annotation? nested annotated
  let initial ← if ← acceptOperator "=" then some <$> nested .expression else pure none
  let p : Parameter Expr := ⟨name, annotation, initial⟩
  if ps.star then return { ps with keywordOnly := p :: ps.keywordOnly }
  else if initial.isNone && ps.positional.head?.any (·.initial.isSome) then unexpected "="
  else return { ps with positional := p :: ps.positional }

def parameter (annotated : Bool) (ps : ParameterList) : Parser ParameterList := do
  if ps.kwarg.isSome then unexpected "the end of the parameters"
  else if ← acceptOperator "/" then
    if ps.slash || ps.star || ps.positional.isEmpty then unexpected "a parameter"
    else return { ps with slash := true }
  else if ← acceptOperator "**" then
    let name ← parameterName ps
    discard (annotation? nested annotated)
    return { ps with kwarg := some name }
  else if ← acceptOperator "*" then
    if ps.star then unexpected "a parameter"
    else if ← isOperator "," then
      match ← peekSecond with
      | .name _ => return { ps with star := true }
      | _ => unexpected "a name"
    else
      let name ← parameterName ps
      starAnnotation nested annotated
      return { ps with vararg := some name, star := true }
  else plainParameter nested annotated ps

/-- The parameters of a function or a lambda, up to a closing token that is left in place. -/
def parameters (annotated : Bool) (closing : String) : Parser (Parameters Expr) := do
  let (ps, _) ← many (fun ((ps, more) : ParameterList × Bool) => do
    if !more || (← isOperator closing) then return none
    else
      let ps ← parameter nested annotated ps
      return some (ps, ← acceptOperator ",")) (⟨[], [], none, none, false, false⟩, true)
  return ⟨ps.positional.reverse, ps.vararg, ps.keywordOnly.reverse, ps.kwarg⟩

def lambda : Parser Expr := do
  let position := (← read).lines.position (← offset)
  expectKeyword "lambda"
  let params ← parameters nested false ":"
  expectOperator ":"
  return .lambda position params (← nested .expression)

def expression : Parser Expr := do
  if ← isKeyword "lambda" then lambda nested
  else
    let body ← disjunction nested
    if ← acceptKeyword "if" then
      let test ← disjunction nested
      expectKeyword "else"
      return .ifExp test body (← nested .expression)
    else return body

/-- One level of nesting. -/
def atLevel : Level → Parser Expr
  | .expression => expression nested
  | .disjunction => disjunction nested
  | .negation => negation nested
  | .bitOr => bitOr nested
  | .factor => factor nested

end

/-- Phrases nested a given number of times at most. -/
def nestedTo : Nat → Nested
  | 0, _ => unexpected "less nesting"
  | n + 1, level => atLevel (nestedTo n) level

end NameFlow.Python.Grammar
