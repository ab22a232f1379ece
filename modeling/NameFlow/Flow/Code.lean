import NameFlow.Python.Syntax

/-!
# Flow code

A module is flattened into postfix steps before anything is done with it. The code of an
expression leaves one operand, what is known of its value; the code of a target takes one; the
code of a statement or of a type leaves the operands as they were. Which steps a tree gives
does not depend on what the steps are later taken to mean.
-/

namespace NameFlow.Flow

set_option autoImplicit false

open Python

inductive Step
  /-- Puts an operand of which nothing is known. -/
  | unknown
  /-- Takes the top operand away. -/
  | drop
  /-- Puts the top operand once more. -/
  | copy
  /-- Replaces the two top operands by their union. -/
  | join
  /-- Reads a plain name. -/
  | read (name : String)
  /-- Reads an attribute of the top operand. -/
  | readAttribute (name : String)
  /-- Names a type. -/
  | useType (name : String)
  /-- Binds a plain name to the top operand. -/
  | bind (name : String)
  /-- Binds an attribute of the top operand to the operand below it. -/
  | bindAttribute (name : String)
  /-- Binds a parameter that can receive an argument. -/
  | parameter (name : String)
  /-- Calls an operand with positional operands and named operands above it. -/
  | call (arity : Nat) (names : List String)
  /-- Adds the top operand to what the current scope returns. -/
  | giveBack
  /-- Declares a class. -/
  | declareType (name : String)
  | enterType (name : String)
  | leaveType
  | enterFunction (name : String)
  /-- Leaves a function and declares it. -/
  | leaveFunction (name : String)
deriving DecidableEq, Repr

/-- Declares every parameter; a starred one receives no argument. -/
def parameterNames (params : Parameters Expr) : List Step :=
  params.positional.map (.parameter ·.name) ++
    (match params.vararg with
     | some name => [.unknown, .bind name]
     | none => []) ++
    params.keywordOnly.map (.parameter ·.name) ++
    (match params.kwarg with
     | some name => [.unknown, .bind name]
     | none => [])

/-- The names of the keyword arguments that have one. -/
def keywordNames (keywords : List (Keyword Expr)) : List String := keywords.filterMap (·.arg)

mutual

/-- Code that leaves what is known of an expression's value. -/
def exprCode : Expr → List Step
  | .boolOp values => evaluateAll values ++ [.unknown]
  | .binOp left right => exprCode left ++ .drop :: exprCode right
  | .unaryOp operand => exprCode operand
  | .lambda position params body =>
    .enterFunction position.lambdaName :: (parametersCode params ++ exprCode body ++
      [.giveBack, .leaveFunction position.lambdaName, .unknown])
  | .ifExp test body orelse =>
    exprCode test ++ .drop :: (exprCode body ++ exprCode orelse ++ [.join])
  | .namedExpr target value => exprCode value ++ .copy :: targetCode target
  | .dict keys values => evaluateKeys keys ++ evaluateAll values ++ [.unknown]
  | .set elts => evaluateAll elts ++ [.unknown]
  | .comprehension kind element value generators =>
    exprCode element ++ .drop ::
      ((if kind = .dict then evaluate? value else []) ++ generatorsCode generators ++ [.unknown])
  | .await value => exprCode value
  | .yield value => evaluate? value ++ [.unknown]
  | .yieldFrom value => exprCode value ++ [.drop, .unknown]
  | .compare left comparators =>
    exprCode left ++ .drop :: (evaluateAll comparators ++ [.unknown])
  | .call func args keywords =>
    exprCode func ++ argumentsCode args ++ keywordsCode keywords ++
      [.call args.length (keywordNames keywords)]
  | .formattedValue value => exprCode value ++ [.drop, .unknown]
  | .joinedStr values => evaluateAll values ++ [.unknown]
  | .constant => [.unknown]
  | .attribute value attr => exprCode value ++ [.readAttribute attr]
  | .subscript value slice => exprCode value ++ .drop :: (exprCode slice ++ [.drop, .unknown])
  | .slice lower upper step => evaluate? lower ++ evaluate? upper ++ evaluate? step ++ [.unknown]
  | .starred value => exprCode value ++ [.drop, .unknown]
  | .name id => [.read id]
  | .list elts => evaluateAll elts ++ [.unknown]
  | .tuple elts => evaluateAll elts ++ [.unknown]

/-- Evaluates expressions one after another and forgets their values. -/
def evaluateAll : List Expr → List Step
  | [] => []
  | e :: es => exprCode e ++ .drop :: evaluateAll es

def evaluate? : Option Expr → List Step
  | none => []
  | some e => exprCode e ++ [.drop]

def evaluateKeys : List (Option Expr) → List Step
  | [] => []
  | k :: ks => evaluate? k ++ evaluateKeys ks

/-- Evaluates expressions one after another and keeps their values. -/
def argumentsCode : List Expr → List Step
  | [] => []
  | e :: es => exprCode e ++ argumentsCode es

/-- Keeps the values of the arguments that have a name. -/
def keywordsCode : List (Keyword Expr) → List Step
  | [] => []
  | ⟨arg, value⟩ :: ks =>
    exprCode value ++ (if arg.isSome then [] else [.drop]) ++ keywordsCode ks

/-- The target of a comprehension is evaluated, not bound. -/
def generatorsCode : List (Generator Expr) → List Step
  | [] => []
  | ⟨target, iter, ifs⟩ :: gs =>
    exprCode target ++ .drop :: (exprCode iter ++ .drop :: (evaluateAll ifs ++ generatorsCode gs))

def parametersCode : Parameters Expr → List Step
  | ⟨positional, vararg, keywordOnly, kwarg⟩ =>
    parameterNames ⟨positional, vararg, keywordOnly, kwarg⟩ ++
      (initialsCode positional ++ initialsCode keywordOnly)

/-- Annotations and initial values of parameters. -/
def initialsCode : List (Parameter Expr) → List Step
  | [] => []
  | ⟨_, annotation, initial⟩ :: ps => typeCode? annotation ++ evaluate? initial ++ initialsCode ps

/-- Code that binds a target to the top operand. -/
def targetCode : Expr → List Step
  | .name id => [.bind id]
  | .tuple elts => .drop :: targetsCode elts
  | .list elts => .drop :: targetsCode elts
  | .starred value => .drop :: .unknown :: targetCode value
  | .attribute value attr => exprCode value ++ [.bindAttribute attr]
  | .subscript value slice => .drop :: (exprCode value ++ .drop :: (exprCode slice ++ [.drop]))
  | _ => [.drop]

/-- Binds each target to a value of which nothing is known. -/
def targetsCode : List Expr → List Step
  | [] => []
  | e :: es => .unknown :: (targetCode e ++ targetsCode es)

/-- Code of an expression that stands for a type. -/
def typeCode : Expr → List Step
  | .name id => [.useType id]
  | .tuple elts => typesCode elts
  | .list elts => typesCode elts
  | .attribute value attr => exprCode value ++ [.drop, .useType attr]
  | .subscript value slice => typeCode value ++ typeCode slice
  | _ => []

def typesCode : List Expr → List Step
  | [] => []
  | e :: es => typeCode e ++ typesCode es

def typeCode? : Option Expr → List Step
  | none => []
  | some e => typeCode e

end

/-- Binds every target to the top operand. -/
def assignCode (targets : List Expr) : List Step :=
  targets.flatMap (fun target => .copy :: targetCode target) ++ [.drop]

def withItemCode (item : WithItem) : List Step :=
  exprCode item.context ++
    match item.target with
    | some target => targetCode target
    | none => [.drop]

mutual

def stmtCode : Stmt → List Step
  | .functionDef name params returns body =>
    typeCode? returns ++ .enterFunction name ::
      (parametersCode params ++ blockCode body ++ [.leaveFunction name])
  | .classDef name bases body =>
    .declareType name :: (typesCode bases ++ .enterType name :: (blockCode body ++ [.leaveType]))
  | .return value =>
    match value with
    | some e => exprCode e ++ [.giveBack]
    | none => []
  | .delete targets => evaluateAll targets
  | .assign targets value => exprCode value ++ assignCode targets
  | .augAssign target value => .unknown :: (targetCode target ++ exprCode value ++ [.drop])
  | .annAssign target annotation value =>
    typeCode annotation ++
      (match value with
       | some e => exprCode e
       | none => [.unknown]) ++ targetCode target
  | .for target iter body orelse =>
    exprCode iter ++ .drop :: .unknown :: (targetCode target ++ blockCode body ++ blockCode orelse)
  | .while test body orelse => exprCode test ++ .drop :: (blockCode body ++ blockCode orelse)
  | .if test body orelse => exprCode test ++ .drop :: (blockCode body ++ blockCode orelse)
  | .with items body => items.flatMap withItemCode ++ blockCode body
  | .raise exc cause => evaluate? exc ++ evaluate? cause
  | .try body handlers orelse finalbody =>
    blockCode body ++ handlersCode handlers ++ blockCode orelse ++ blockCode finalbody
  | .assert test msg => exprCode test ++ .drop :: evaluate? msg
  | .expr value => exprCode value ++ [.drop]
  | .opaqueStmt => []

/-- Statements one after another. -/
def blockCode : List Stmt → List Step
  | [] => []
  | s :: ss => stmtCode s ++ blockCode ss

def handlersCode : List (Handler Stmt) → List Step
  | [] => []
  | ⟨type, name, body⟩ :: hs =>
    typeCode? type ++
      (match name with
       | some n => [.unknown, .bind n]
       | none => []) ++ blockCode body ++ handlersCode hs

end

end NameFlow.Flow
