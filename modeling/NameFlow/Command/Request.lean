import NameFlow.Command.Arguments
import NameFlow.Text.Count
import NameFlow.Vocabulary.Roles

/-!
# Requests

What the words of a command line ask for. A command line that asks for nothing known is refused
as a whole.
-/

namespace NameFlow.Command

set_option autoImplicit false

structure TagsRequest where
  maxIterations : Option Nat
  config : Option String
  json : Bool
  files : List String
deriving DecidableEq, Repr

structure GlossaryRequest where
  phrases : String
  threshold : Nat
  keys : Option String
  uses : String
  verbose : Bool
  presets : List Vocabulary.Preset
  streams : List String
deriving DecidableEq, Repr

inductive Request
  | version
  | tags (request : TagsRequest)
  | idents (files : List String)
  | freq (streams : List String)
  | glossary (request : GlossaryRequest)
deriving DecidableEq, Repr

def debugOption : OptionSpec := ⟨"debug", some 'd', .flag⟩

def tagsOptions : List OptionSpec :=
  [debugOption, ⟨"max-iterations", some 'm', .value⟩, ⟨"config", none, .value⟩,
    ⟨"json", none, .flag⟩]

def glossaryOptions : List OptionSpec :=
  [debugOption, ⟨"phrases", some 'p', .value⟩, ⟨"threshold", some 'n', .value⟩,
    ⟨"keys", some 'k', .value⟩, ⟨"uses", none, .value⟩, ⟨"verbose", some 'a', .count⟩,
    ⟨"preset", none, .values⟩]

/-- A path is not empty. -/
def readPath (text : String) : Option String := if text.isEmpty then none else some text

def readNumber (text : String) : Option Nat := (Text.readCount text.toList).toOption

/-- The words behind a command that takes nothing but files. -/
def readFiles (words : List String) : Option (List String) := do
  let given ← Given.ofWords [debugOption] words
  given.operands.mapM readPath

def readTags (words : List String) : Option TagsRequest := do
  let given ← Given.ofWords tagsOptions words
  return {
    maxIterations := ← (given.value? "max-iterations").mapM readNumber
    config := ← (given.value? "config").mapM readPath
    json := given.has "json"
    files := ← given.operands.mapM readPath }

def readGlossary (words : List String) : Option GlossaryRequest := do
  let given ← Given.ofWords glossaryOptions words
  return {
    phrases := ← readPath ((given.value? "phrases").getD "data/phrases-python.lst")
    threshold := ← readNumber ((given.value? "threshold").getD "50")
    keys := ← (given.value? "keys").mapM readPath
    uses := ← readPath ((given.value? "uses").getD "uses")
    verbose := given.has "verbose"
    presets := ← (given.values "preset").mapM Vocabulary.Preset.ofName?
    streams := ← given.operands.mapM readPath }

def topOptions : List OptionSpec := [debugOption, ⟨"version", some 'V', .flag⟩]

def readCommand (name : String) (words : List String) : Option Request :=
  match name with
  | "tags" => (readTags words).map .tags
  | "idents" => (readFiles words).map .idents
  | "freq" => (readFiles words).map .freq
  | "glossary" => (readGlossary words).map .glossary
  | _ => none

/-- Goes through what stands before the name of the command. The version is shown as soon as it
is asked for, whatever follows. -/
def readTop (debug : Bool) : List Item → Option Request
  | .option "debug" none :: items => if debug then none else readTop true items
  | .option "version" none :: _ => some .version
  | .operand name rest :: _ => readCommand name rest
  | _ => none

def Request.ofWords (words : List String) : Option Request :=
  readTop false (scan topOptions words)

end NameFlow.Command
