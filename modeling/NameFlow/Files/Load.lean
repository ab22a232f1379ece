import NameFlow.Config
import NameFlow.Files.Path
import NameFlow.Python.Program
import NameFlow.Vocabulary.Evaluation

/-!
# Loading files

What files hold, given a way to read their bytes and a parser of programs. A module whose bytes
are no text is one that does not parse; any other file has to be text.
-/

namespace NameFlow.Files

set_option autoImplicit false

/-- A way to read the bytes of a file. -/
abbrev Reader (m : Type → Type) : Type := String → ExceptT ReadError m ByteArray

/-- A parser of programs. -/
abbrev Parser : Type := String → Except Python.SyntaxError (List Python.Stmt)

inductive LoadError
  | unreadable (path : String) (cause : ReadError)
  | unparsable (path : String)
deriving DecidableEq, Repr

section Loading

variable {m : Type → Type} [Monad m] (read : Reader m)

/-- Reads and parses a module, which is named after its path. -/
def loadModule (path : String) (parse : Parser := Python.parse) :
    ExceptT LoadError m Python.SourceModule := do
  match ← (read path).run with
  | .error cause => throw (.unreadable path cause)
  | .ok bytes =>
    match String.fromUTF8? bytes with
    | none => throw (.unparsable path)
    | some text =>
      match parse text with
      | .error _ => throw (.unparsable path)
      | .ok body => return ⟨path, rootName path, body⟩

def loadText (path : String) : ExceptT ReadError m String := do
  match String.fromUTF8? (← read path) with
  | none => throw .notText
  | some text => return text

/-- Reads a vocabulary file, given what its text holds. -/
def loadWith {α : Type} (parse : String → Except Vocabulary.Error α) (path : String) :
    ExceptT Vocabulary.Error m α := do
  match ← (loadText read path).run with
  | .error cause => throw (.unreadable path cause)
  | .ok text => ExceptT.mk (pure (parse text))

def loadPhrases (map : Vocabulary.RoleMap) (path : String) :
    ExceptT Vocabulary.Error m Vocabulary.PhraseSet :=
  loadWith read (fun text => .ok (.ofTags map text)) path

def loadFrequencies (path : String) : ExceptT Vocabulary.Error m Vocabulary.FrequencyList :=
  loadWith read Vocabulary.FrequencyList.parse path

def loadGlossary (path : String) : ExceptT Vocabulary.Error m Vocabulary.Glossary :=
  loadWith read (fun text => do
    Vocabulary.Glossary.ofFrequencies (← Vocabulary.FrequencyList.parse text)) path

def loadKeys (path : String) : ExceptT Vocabulary.Error m Vocabulary.KeyFile :=
  loadWith read Vocabulary.KeyFile.parse path

/-- Reads a configuration that allows at least one round. -/
def loadConfig (path : String) : ExceptT ConfigError m Config := do
  match ← (loadText read path).run with
  | .error cause => throw (.unreadable path cause)
  | .ok text =>
    match Config.ofText text with
    | .error cause => throw (.malformed path cause)
    | .ok config =>
      match config.validate with
      | .error e => throw e
      | .ok () => return config

end Loading

end NameFlow.Files
