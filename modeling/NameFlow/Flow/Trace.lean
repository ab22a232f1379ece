import NameFlow.Flow.Run

/-!
# Traces

A trace is the list of the naming steps of a run, each with the path of the scope it takes
place in. While tracing, a name stands for the type of that name and is bound to its lexical
key; names that start with an underscore are not known at all.
-/

namespace NameFlow.Flow

set_option autoImplicit false

inductive Event
  | declareType (path name : String)
  | enterFunction (path name : String)
  | declareFunction (path name : String) (returns : Option ValueSet) (params : List String)
  | bindVariable (path name : String) (site : Site) (incoming : Option ValueSet)
  | useType (path name : String)
  | call (path : String) (callee : Option ValueSet) (args : List (Option ValueSet))
      (named : List (String × Option ValueSet))
  | readVariable (path name : String) (site : Site)

/-- Whether a trace takes a name for known. -/
def isTraced (name : String) : Bool := name.toList.head? != some '_'

def tracing : Interpretation (Array Event) where
  declareType scopes name s := s.push (.declareType scopes.path name)
  enterFunction scopes name s := s.push (.enterFunction scopes.path name)
  declareFunction scopes name returns params s :=
    s.push (.declareFunction scopes.path name returns params)
  bindVariable scopes name site incoming s :=
    (if isTraced name then some (scopes.key name) else none,
      s.push (.bindVariable scopes.path name site incoming))
  useType scopes name s := s.push (.useType scopes.path name)
  call scopes callee args named s := (callee, s.push (.call scopes.path callee args named))
  readVariable scopes name site s :=
    (if isTraced name then some (.ofList [.type name]) else none,
      s.push (.readVariable scopes.path name site))

/-- Nothing is known and nothing happens. -/
def silence : Interpretation Unit := {}

def traceModule (m : Python.SourceModule) : List Event := (runModule tracing m #[]).toList

def traceExpr (root : String) (e : Python.Expr) : Option ValueSet × List Event :=
  let (v, events) := runExpr tracing root e #[]
  (v, events.toList)

end NameFlow.Flow
