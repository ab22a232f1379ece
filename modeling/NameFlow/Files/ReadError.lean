/-!
# Failures to read a file
-/

namespace NameFlow.Files

set_option autoImplicit false

/-- Why a file's text cannot be had. -/
inductive ReadError
  | notFound
  | isDirectory
  | notDirectory
  | notText
  | other (text : String)
deriving DecidableEq, Repr, Inhabited

def ReadError.message : ReadError → String
  | .notFound => "No such file or directory (os error 2)"
  | .isDirectory => "Is a directory (os error 21)"
  | .notDirectory => "Not a directory (os error 20)"
  | .notText => "stream did not contain valid UTF-8"
  | .other text => text

/-- The message about a path that could not be read. -/
def unreadable (path : String) (cause : ReadError) : String :=
  "I/O error: " ++ path ++ ": " ++ cause.message

end NameFlow.Files
