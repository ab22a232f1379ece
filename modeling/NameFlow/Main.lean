import NameFlow.Command.Run

/-!
# Command line
-/

namespace NameFlow

set_option autoImplicit false

/-- The reason of a failed read, as far as it has a name. -/
def readErrorOf (e : IO.Error) : Files.ReadError :=
  match e with
  | .noFileOrDirectory .. => .notFound
  | .inappropriateType _ code _ => if code = 21 then .isDirectory else .notDirectory
  | e => .other (toString e)

def readFile : Files.Reader IO := fun path => ExceptT.mk do
  try
    return .ok (← IO.FS.readBinFile path)
  catch e =>
    return .error (readErrorOf e)

end NameFlow

def main (args : List String) : IO UInt32 := do
  let outcome ← NameFlow.Command.run NameFlow.readFile args NameFlow.Python.parse
  IO.print outcome.stdout
  IO.eprint outcome.stderr
  return outcome.exit.toUInt32
