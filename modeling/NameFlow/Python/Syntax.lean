/-!
# Syntax trees

The part of Python's syntax that matters to the flow of names. Operators, literals and
decorators leave no trace, and statements that bind nothing the analysis follows are opaque.
-/

namespace NameFlow.Python

set_option autoImplicit false

/-- A place in a source text: lines count from one, columns are bytes from the line's start. -/
structure Position where
  line : Nat
  column : Nat
deriving DecidableEq, Repr, Inhabited

structure Parameter (ε : Type) where
  name : String
  annotation : Option ε
  initial : Option ε
deriving Inhabited

structure Parameters (ε : Type) where
  positional : List (Parameter ε)
  vararg : Option String
  keywordOnly : List (Parameter ε)
  kwarg : Option String
deriving Inhabited

/-- A keyword argument; without a name it is a mapping spread into keywords. -/
structure Keyword (ε : Type) where
  arg : Option String
  value : ε
deriving Inhabited

structure Generator (ε : Type) where
  target : ε
  iter : ε
  ifs : List ε
deriving Inhabited

inductive ComprehensionKind
  | list
  | set
  | dict
  | generator
deriving DecidableEq, Repr, Inhabited

inductive Expr
  | boolOp (values : List Expr)
  | binOp (left right : Expr)
  | unaryOp (operand : Expr)
  | lambda (position : Position) (params : Parameters Expr) (body : Expr)
  | ifExp (test body orelse : Expr)
  | namedExpr (target value : Expr)
  | dict (keys : List (Option Expr)) (values : List Expr)
  | set (elts : List Expr)
  | comprehension (kind : ComprehensionKind) (element : Expr) (value : Option Expr)
      (generators : List (Generator Expr))
  | await (value : Expr)
  | yield (value : Option Expr)
  | yieldFrom (value : Expr)
  | compare (left : Expr) (comparators : List Expr)
  | call (func : Expr) (args : List Expr) (keywords : List (Keyword Expr))
  | formattedValue (value : Expr)
  | joinedStr (values : List Expr)
  | constant
  | attribute (value : Expr) (attr : String)
  | subscript (value slice : Expr)
  | slice (lower upper step : Option Expr)
  | starred (value : Expr)
  | name (id : String)
  | list (elts : List Expr)
  | tuple (elts : List Expr)

instance : Inhabited Expr := ⟨.constant⟩

structure WithItem where
  context : Expr
  target : Option Expr
deriving Inhabited

structure Handler (σ : Type) where
  type : Option Expr
  name : Option String
  body : List σ
deriving Inhabited

inductive Stmt
  | functionDef (name : String) (params : Parameters Expr) (returns : Option Expr)
      (body : List Stmt)
  | classDef (name : String) (bases : List Expr) (body : List Stmt)
  | return (value : Option Expr)
  | delete (targets : List Expr)
  | assign (targets : List Expr) (value : Expr)
  | augAssign (target value : Expr)
  | annAssign (target annotation : Expr) (value : Option Expr)
  | for (target iter : Expr) (body orelse : List Stmt)
  | while (test : Expr) (body orelse : List Stmt)
  | if (test : Expr) (body orelse : List Stmt)
  | with (items : List WithItem) (body : List Stmt)
  | raise (exc cause : Option Expr)
  | try (body : List Stmt) (handlers : List (Handler Stmt)) (orelse finalbody : List Stmt)
  | assert (test : Expr) (msg : Option Expr)
  | expr (value : Expr)
  | opaqueStmt

instance : Inhabited Stmt := ⟨.opaqueStmt⟩

/-- A parsed module with the name of its root scope. -/
structure SourceModule where
  path : String
  root : String
  body : List Stmt
deriving Inhabited

/-- Scope name of a lambda. -/
def Position.lambdaName (p : Position) : String :=
  ":lambda:" ++ toString p.line ++ ":" ++ toString p.column

end NameFlow.Python
