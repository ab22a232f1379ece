/-!
# Scopes and qualified keys

A scope chain is never empty: its innermost scope is the current one. A name has one lexical
key per scope of the chain, the path of that scope followed by the name, and inside a class
body a member key that does not mention where the class stands.
-/

namespace NameFlow

set_option autoImplicit false

/-- What opened a scope. -/
inductive ScopeKind
  | root
  | type
  | function
deriving DecidableEq, Repr, Inhabited

def ScopeKind.label : ScopeKind → String
  | .root => "Root"
  | .type => "Type"
  | .function => "Function"

structure Scope where
  name : String
  kind : ScopeKind
deriving DecidableEq, Repr, Inhabited

def Scope.render (s : Scope) : String :=
  "<Namespace " ++ s.name ++ " (" ++ s.kind.label ++ ")>"

/-- The current scope and those around it, innermost first. -/
structure ScopeChain where
  current : Scope
  outer : List Scope
deriving DecidableEq, Repr, Inhabited

/-- Requests that a chain refuses. -/
inductive ScopeError
  | leftRoot (path : String)
  | notInType (name : String) (current : Scope)
deriving DecidableEq, Repr

def ScopeError.message : ScopeError → String
  | .leftRoot path => "pop() on root namespace " ++ path
  | .notInType name current =>
    "assertion `left == right` failed: member key for " ++ name ++
      " requested outside a type body (" ++ current.render ++ ")"

/-- Key of a member of every class of the given name. -/
def memberKey (type name : String) : String := "+" ++ type ++ "." ++ name

/-- The part of a key after its last dot. -/
def basename (key : String) : String :=
  String.ofList (key.toList.reverse.takeWhile (· != '.')).reverse

namespace ScopeChain

/-- Names from the outermost scope to the first of the list, joined by dots. -/
def joined : List Scope → String
  | [] => ""
  | [s] => s.name
  | s :: rest => joined rest ++ "." ++ s.name

def keysFrom (name : String) : List Scope → List String
  | [] => []
  | s :: rest => (joined (s :: rest) ++ "." ++ name) :: keysFrom name rest

def root (name : String) : ScopeChain := ⟨⟨name, .root⟩, []⟩

def push (c : ScopeChain) (name : String) (kind : ScopeKind) : ScopeChain :=
  ⟨⟨name, kind⟩, c.current :: c.outer⟩

def scopes (c : ScopeChain) : List Scope := c.current :: c.outer

def path (c : ScopeChain) : String := joined c.scopes

def depth (c : ScopeChain) : Nat := c.outer.length

def parent (c : ScopeChain) : Option Scope := c.outer.head?

/-- Leaves the current scope; the root scope cannot be left. -/
def pop (c : ScopeChain) : Except ScopeError (Scope × ScopeChain) :=
  match c.outer with
  | [] => .error (.leftRoot c.path)
  | s :: rest => .ok (c.current, ⟨s, rest⟩)

/-- The chain around the current scope, the chain itself at its root. -/
def leave (c : ScopeChain) : ScopeChain :=
  match c.outer with
  | [] => c
  | s :: rest => ⟨s, rest⟩

/-- Key of a name in the current scope. -/
def key (c : ScopeChain) (name : String) : String := c.path ++ "." ++ name

/-- Keys of a name in every scope of the chain, innermost first. -/
def lexicalKeys (c : ScopeChain) (name : String) : List String := keysFrom name c.scopes

/-- The class whose method is the current scope. A function nested in a method has none. -/
def enclosingType (c : ScopeChain) : Option Scope :=
  match c.current.kind, c.outer with
  | .function, s :: _ => if s.kind = .type then some s else none
  | _, _ => none

/-- Member key of a name in the class body that is the current scope. -/
def memberKey? (c : ScopeChain) (name : String) : Option String :=
  match c.current.kind with
  | .type => some (memberKey c.current.name name)
  | _ => none

/-- As `memberKey?`, with the reason for a refusal. -/
def memberKeyOrError (c : ScopeChain) (name : String) : Except ScopeError String :=
  match c.memberKey? name with
  | some key => .ok key
  | none => .error (.notInType name c.current)

end ScopeChain

end NameFlow
