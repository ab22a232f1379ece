/-!
# Roles and tags

A feature says which role a name plays at one place. It is displayed as the role's letter
followed by the name.
-/

namespace NameFlow

set_option autoImplicit false

inductive Role
  | typeDefined
  | functionDefined
  | variableDefined
  | typeUsed
  | functionCalled
  | assigned
  | resolvedThrough
  | variableUsed
  | typeName
  | functionName
  | variableName
deriving DecidableEq, Repr, Inhabited

def Role.code : Role → Char
  | .typeDefined => 'T'
  | .functionDefined => 'F'
  | .variableDefined => 'V'
  | .typeUsed => 'u'
  | .functionCalled => 'f'
  | .assigned => 'a'
  | .resolvedThrough => 'r'
  | .variableUsed => 'v'
  | .typeName => 't'
  | .functionName => 'f'
  | .variableName => 'v'

structure Feature where
  role : Role
  name : String
deriving DecidableEq, Repr, Inhabited

def Feature.render (f : Feature) : String := String.ofList (f.role.code :: f.name.toList)

/-- The features of one file. -/
structure FileFeatures where
  path : String
  root : String
  definitions : List Feature
  resolutions : List Feature
deriving DecidableEq, Repr, Inhabited

namespace FileFeatures

def all (f : FileFeatures) : List Feature := f.definitions ++ f.resolutions

def count (f : FileFeatures) (role : Role) : Nat := f.all.countP fun x => x.role = role

def contains (f : FileFeatures) (role : Role) (name : String) : Bool :=
  decide (⟨role, name⟩ ∈ f.all)

end FileFeatures

end NameFlow
