import NameFlow.Files.Load

/-!
# Failures

A failure of a command and what led to it, outermost first.
-/

namespace NameFlow.Command

set_option autoImplicit false

structure Failure where
  message : String
  causes : List String
deriving DecidableEq, Repr

namespace Failure

def ofVocabulary (e : Vocabulary.Error) : Failure := ⟨e.message, e.cause?.toList⟩

def ofConfig (e : ConfigError) : Failure := ⟨e.message, e.cause?.toList⟩

def ofUnreadable (path : String) (cause : Files.ReadError) : Failure :=
  ⟨Files.unreadable path cause, [cause.message]⟩

/-- Says what was being done when a failure arose. -/
def within (context : String) (f : Failure) : Failure := ⟨context, f.message :: f.causes⟩

/-- A text with its later lines indented like the first. -/
def indented (first later text : String) : String :=
  first ++ String.intercalate ("\n" ++ later) (text.splitOn "\n")

/-- Causes are numbered if there are several. -/
def renderCauses : List String → List String
  | [cause] => [indented "    " "    " cause]
  | causes => causes.zipIdx.map fun (cause, i) =>
    indented ("    " ++ toString i ++ ": ") "       " cause

def render (f : Failure) : String :=
  "Error: " ++ f.message ++ "\n" ++
    if f.causes.isEmpty then ""
    else "\nCaused by:\n" ++ String.join ((renderCauses f.causes).map (· ++ "\n"))

end Failure

end NameFlow.Command
