import NameFlow.Feature
import NameFlow.Flow.Run
import NameFlow.Table

/-!
# Definitions

The definition of a module enters every declared type, function and variable into the table,
under its lexical key and, in a class body, under its member key. No values are propagated;
only the receiver of a method is known, so that attributes assigned through it get a slot.
-/

namespace NameFlow.Flow

set_option autoImplicit false

/-- Conventional name of a method's receiver. -/
def receiverName : String := "self"

/-- The first existing key's set, from the innermost scope outwards. -/
def lookup (t : Table) (scopes : ScopeChain) (name : String) : Option ValueSet :=
  (scopes.lexicalKeys name).findSome? t.get?

namespace Definition

structure State where
  table : Table
  features : Array Feature

def State.emit (s : State) (role : Role) (name : String) : State :=
  { s with features := s.features.push ⟨role, name⟩ }

def State.record (s : State) (key : String) (value : Option Value) : State :=
  { s with table := s.table.record key value }

/-- Also records under the member key when the current scope is a class body. -/
def State.recordMember (s : State) (scopes : ScopeChain) (name : String) (value : Option Value) :
    State :=
  match scopes.memberKey? name with
  | some key => s.record key value
  | none => s

/-- What a variable of this name holds from its declaration on. -/
def receiver (scopes : ScopeChain) (name : String) : Option Value :=
  if name = receiverName then scopes.enclosingType.map (.type ·.name) else none

def declareFunction (scopes : ScopeChain) (name : String) (returns : Option ValueSet)
    (params : List String) (s : State) : State :=
  let f : FunctionValue :=
    ⟨scopes.path, scopes.current.name, scopes.current.kind, name, params⟩
  let s := { s with table := (s.table.recordReturns f returns).recordSignature f }
  ((s.record (scopes.key name) (some (.function f))).recordMember scopes name
    (some (.function f))).emit .functionDefined name

def bindVariable (scopes : ScopeChain) (name : String) (site : Site) (s : State) :
    Option String × State :=
  let s := s.emit .variableDefined name
  match site with
  | .lexical =>
    (some (scopes.key name),
      (s.record (scopes.key name) (receiver scopes name)).recordMember scopes name none)
  | .attribute owner =>
    (none, (owner.getD ∅).types.foldl (fun s type => s.record (memberKey type name) none) s)

def readVariable (scopes : ScopeChain) (name : String) (site : Site) (s : State) :
    Option ValueSet :=
  match site with
  | .lexical =>
    if name = receiverName then (lookup s.table scopes name).bind (·.nonEmpty?) else none
  | .attribute _ => none

end Definition

def definition : Interpretation Definition.State where
  declareType scopes name s :=
    (s.record (scopes.key name) (some (.type name))).emit .typeDefined name
  declareFunction := Definition.declareFunction
  bindVariable scopes name site _ s := Definition.bindVariable scopes name site s
  readVariable scopes name site s := (Definition.readVariable scopes name site s, s)

/-- Enters a module's declarations and lists them as features. -/
def define (t : Table) (m : Python.SourceModule) : Table × List Feature :=
  let s := runModule definition m ⟨t, #[]⟩
  (s.table, s.features.toList)

end NameFlow.Flow
