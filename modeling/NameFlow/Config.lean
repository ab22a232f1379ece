import NameFlow.Files.ReadError
import NameFlow.Json.Reader
import NameFlow.Text.Count

/-!
# Configuration

The one thing to configure is how many resolution rounds may run. A configuration is an object,
of which other fields are passed over, or an array of the fields in order; what is left out has
its default.
-/

namespace NameFlow

set_option autoImplicit false

structure Config where
  maxIterations : Nat := 5
deriving DecidableEq, Repr

inductive ConfigError
  | unreadable (path : String) (cause : Files.ReadError)
  | malformed (path : String) (cause : String)
  | zeroIterations
deriving DecidableEq, Repr

def ConfigError.message : ConfigError → String
  | .unreadable path cause => Files.unreadable path cause
  | .malformed path cause => "malformed config " ++ path ++ ": " ++ cause
  | .zeroIterations => "iteration budget must be positive"

/-- The failure behind a failure, where there is one. -/
def ConfigError.cause? : ConfigError → Option String
  | .unreadable _ cause => some cause.message
  | .malformed _ cause => some cause
  | .zeroIterations => none

namespace Config

/-- A budget is a literal of digits only, less than 2⁶⁴. -/
def readBudget : Json.Document → Except String Nat
  | .number literal =>
    match Text.readCount literal.toList with
    | .ok n => .ok n
    | .error _ => .error ("invalid number `" ++ literal ++ "`")
  | _ => .error "expected a number"

/-- The fields of an object, their names decoded. -/
def readNames (fields : List (String × Json.Document)) :
    Except String (List (String × Json.Document)) :=
  fields.mapM fun (raw, d) =>
    match Json.decode raw with
    | some name => .ok (name, d)
    | none => .error "invalid escape"

def ofDocument : Json.Document → Except String Config
  | .object fields => do
    match (← readNames fields).filter (·.1 = "max_iterations") with
    | [] => return {}
    | [(_, d)] => return ⟨← readBudget d⟩
    | _ => throw "duplicate field `max_iterations`"
  | .array [] => .ok {}
  | .array [d] => return ⟨← readBudget d⟩
  | .array _ => .error "trailing characters"
  | _ => .error "expected an object"

def ofText (text : String) : Except String Config := Json.Document.parse text >>= ofDocument

/-- At least one round has to be allowed. -/
def validate (c : Config) : Except ConfigError Unit :=
  if c.maxIterations = 0 then .error .zeroIterations else .ok ()

end Config

end NameFlow
