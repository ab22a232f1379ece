import NameFlow.Scope

/-!
# Values that flow into names

A value is a declared type or a declared function. Values are told apart by their identity:
a type by its name, a function by the path of its scope and its name. A value set keeps the
order of insertion, and of several values of one identity the first stays.
-/

namespace NameFlow

set_option autoImplicit false

/-- A declared function, method or lambda. -/
structure FunctionValue where
  scopePath : String
  scopeName : String
  scopeKind : ScopeKind
  name : String
  params : List String
deriving DecidableEq, Repr, Inhabited

namespace FunctionValue

def key (f : FunctionValue) : String := f.scopePath ++ "." ++ f.name

def isMethod (f : FunctionValue) : Bool := f.scopeKind = .type

/-- The parameters that call arguments bind to: a method's first one is its receiver. -/
def receiving (f : FunctionValue) (params : List String) : List String :=
  if f.isMethod then params.tail else params

def argumentParams (f : FunctionValue) : List String := f.receiving f.params

end FunctionValue

inductive Value
  | type (name : String)
  | function (f : FunctionValue)
deriving DecidableEq, Repr, Inhabited

/-- What tells two values apart. -/
inductive Identity
  | type (name : String)
  | function (scopePath name : String)
deriving DecidableEq, Repr

namespace Value

def identity : Value → Identity
  | .type name => .type name
  | .function f => .function f.scopePath f.name

def name : Value → String
  | .type name => name
  | .function f => f.name

def typeName? : Value → Option String
  | .type name => some name
  | .function _ => none

def function? : Value → Option FunctionValue
  | .type _ => none
  | .function f => some f

def render : Value → String
  | .type name => "<" ++ name ++ ">"
  | .function f => "<function " ++ f.key ++ ">"

end Value

/-- Values in order of insertion, no identity twice. -/
structure ValueSet where
  toList : List Value
  nodup : (toList.map Value.identity).Nodup
deriving DecidableEq

namespace ValueSet

def empty : ValueSet := ⟨[], List.nodup_nil⟩

instance : EmptyCollection ValueSet := ⟨empty⟩

instance : Inhabited ValueSet := ⟨empty⟩

def identities (s : ValueSet) : List Identity := s.toList.map Value.identity

def contains (s : ValueSet) (v : Value) : Bool := decide (v.identity ∈ s.identities)

/-- Appends a value unless its identity is present. -/
def insert (s : ValueSet) (v : Value) : ValueSet :=
  if h : v.identity ∈ s.toList.map Value.identity then s
  else ⟨s.toList ++ [v], by
    rw [List.map_append, List.nodup_append]
    exact ⟨s.nodup, by simp, by
      intro a ha b hb
      simp only [List.map_cons, List.map_nil, List.mem_singleton] at hb
      subst hb
      exact fun e => h (e ▸ ha)⟩⟩

def ofList (vs : List Value) : ValueSet := vs.foldl insert empty

def union (s t : ValueSet) : ValueSet := t.toList.foldl insert s

def size (s : ValueSet) : Nat := s.toList.length

def isEmpty (s : ValueSet) : Bool := s.toList.isEmpty

def isSubset (s t : ValueSet) : Bool := s.toList.all t.contains

def types (s : ValueSet) : List String := s.toList.filterMap Value.typeName?

def functions (s : ValueSet) : List FunctionValue := s.toList.filterMap Value.function?

/-- Nothing is known of an empty set. -/
def nonEmpty? (s : ValueSet) : Option ValueSet := if s.isEmpty then none else some s

def render (s : ValueSet) : List String := s.toList.map Value.render

theorem identities_insert (s : ValueSet) (v : Value) :
    (s.insert v).identities =
      if v.identity ∈ s.identities then s.identities else s.identities ++ [v.identity] := by
  unfold insert identities
  split <;> simp

end ValueSet

/-- Union of what two sources know, of which either may know nothing. -/
def joinKnown : Option ValueSet → Option ValueSet → Option ValueSet
  | some s, some t => some (s.union t)
  | some s, none => some s
  | none, t => t

end NameFlow
