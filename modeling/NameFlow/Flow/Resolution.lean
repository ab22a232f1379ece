import NameFlow.Flow.Definition

/-!
# Resolution

One resolution of a module looks every used name up in the table, moves call arguments into
the parameters of the functions called and assigned values into their targets, and tags what
it finds. Keys are never added, sets only grow, and it is noted whether one did.
-/

namespace NameFlow.Flow

set_option autoImplicit false

/-- Name of the method that a call of a type reaches. -/
def constructorName : String := "__init__"

namespace Resolution

structure State where
  table : Table
  features : Array Feature
  changed : Bool

namespace State

def emit (s : State) (role : Role) (name : String) : State :=
  { s with features := s.features.push ⟨role, name⟩ }

def merge (s : State) (key : String) (values : ValueSet) : State :=
  let (table, changed) := s.table.merge key values
  { s with table, changed := s.changed || changed }

def mergeReturns (s : State) (key : String) (values : ValueSet) : State :=
  let (table, changed) := s.table.mergeReturns key values
  { s with table, changed := s.changed || changed }

/-- Merges into a key that exists and tags the name it was reached by. -/
def assign (s : State) (key : String) (values : ValueSet) (name : String) : State :=
  if s.table.contains key then (s.merge key values).emit .assigned name else s

end State

/-- Moves positional arguments into the parameters at their places. -/
def bindPositional (s : State) (params : List String) (args : List (Option ValueSet)) : State :=
  (params.zip args).foldl (fun s (key, values) =>
    match values with
    | some values => s.assign key values (basename key)
    | none => s) s

/-- Moves keyword arguments into the first parameter of their name. -/
def bindKeywords (s : State) (params : List String) (named : List (String × Option ValueSet)) :
    State :=
  named.foldl (fun s (name, values) =>
    match values, params.find? (fun key => basename key = name) with
    | some values, some key => s.assign key values name
    | _, _ => s) s

/-- Moves call arguments into the parameters of every declaration of a function. -/
def propagate (args : List (Option ValueSet)) (named : List (String × Option ValueSet))
    (s : State) (f : FunctionValue) : State :=
  let signatures := match s.table.signaturesOf f with
    | [] => [f.params]
    | lists => lists
  signatures.foldl (fun s params =>
    bindKeywords (bindPositional s (f.receiving params) args) (f.receiving params) named)
    (s.emit .functionCalled f.name)

/-- What a call may give, and the functions it may reach. -/
structure Reach where
  result : ValueSet
  targets : ValueSet

def reachValue (t : Table) (r : Reach) : Value → Reach
  | .type name =>
    let constructors := ((t.get? (memberKey name constructorName)).getD ∅).functions
    { result := r.result.insert (.type name)
      targets := (constructors.map Value.function).foldl ValueSet.insert r.targets }
  | .function f =>
    { result := r.result.union ((t.returnsOf f).getD ∅)
      targets := r.targets.insert (.function f) }

def call (callee : Option ValueSet) (args : List (Option ValueSet))
    (named : List (String × Option ValueSet)) (s : State) : Option ValueSet × State :=
  match callee with
  | none => (none, s)
  | some callee =>
    let reach := callee.toList.foldl (reachValue s.table) ⟨∅, ∅⟩
    let s := callee.types.foldl (fun s name => s.emit .typeUsed name) s
    (reach.result.nonEmpty?, reach.targets.functions.foldl (propagate args named) s)

def bindAttribute (owner : Option ValueSet) (name : String) (incoming : ValueSet) (s : State) :
    Option String × State :=
  (owner.getD ∅).types.foldl (fun (bound, s) type =>
    let key := memberKey type name
    if s.table.contains key then
      (some key, ((s.merge key incoming).emit .resolvedThrough type).emit .assigned name)
    else (bound, s)) (none, s)

def bindLexical (scopes : ScopeChain) (name : String) (incoming : ValueSet) (s : State) :
    Option String × State :=
  match (scopes.lexicalKeys name).find? s.table.contains with
  | none => (none, s)
  | some key =>
    let s := (s.merge key incoming).emit .assigned name
    match scopes.memberKey? name with
    | some member => (some key, if s.table.contains member then s.merge member incoming else s)
    | none => (some key, s)

def bindVariable (scopes : ScopeChain) (name : String) (site : Site)
    (incoming : Option ValueSet) (s : State) : Option String × State :=
  match incoming, site with
  | none, _ => (none, s)
  | some incoming, .attribute owner => bindAttribute owner name incoming s
  | some incoming, .lexical => bindLexical scopes name incoming s

def readAttribute (owner : Option ValueSet) (name : String) (s : State) : ValueSet × State :=
  (owner.getD ∅).types.foldl (fun (found, s) type =>
    match s.table.get? (memberKey type name) with
    | some values =>
      (found.union values, (s.emit .resolvedThrough type).emit .variableUsed name)
    | none => (found, s)) (∅, s)

def readVariable (scopes : ScopeChain) (name : String) (site : Site) (s : State) :
    Option ValueSet × State :=
  match site with
  | .attribute owner =>
    let (found, s) := readAttribute owner name s
    (found.nonEmpty?, s)
  | .lexical =>
    match lookup s.table scopes name with
    | some values => (values.nonEmpty?, s.emit .variableUsed name)
    | none => (none, s)

end Resolution

def resolution : Interpretation Resolution.State where
  useType _ name s := s.emit .typeUsed name
  declareFunction scopes name returns _ s :=
    match returns with
    | some values => s.mergeReturns (scopes.key name) values
    | none => s
  call _ := Resolution.call
  bindVariable := Resolution.bindVariable
  readVariable := Resolution.readVariable

/-- One resolution of a module: the table after it, the features met, whether a set grew. -/
def resolve (t : Table) (m : Python.SourceModule) : Table × List Feature × Bool :=
  let s := runModule resolution m ⟨t, #[], false⟩
  (s.table, s.features.toList, s.changed)

end NameFlow.Flow
