import NameFlow.Command.Failure
import NameFlow.Flow.Analysis
import NameFlow.Flow.Identifiers
import NameFlow.Json.Document

/-!
# Corpora

The input files of one run. A file that does not parse stays among the inputs without a module;
one that cannot be read ends the run. Every input gives one block of output, in order.
-/

namespace NameFlow.Command

set_option autoImplicit false

open Python (SourceModule)

structure Input where
  path : String
  /-- The place of the file's module among the modules, if it has one. -/
  index : Option Nat
deriving DecidableEq, Repr

structure Corpus where
  inputs : List Input
  modules : List SourceModule

namespace Corpus

def empty : Corpus := ⟨[], []⟩

/-- Takes in one more file, given the module that it parses to. -/
def add (c : Corpus) (path : String) (parsed : Option SourceModule) : Corpus where
  inputs := c.inputs ++ [⟨path, parsed.map fun _ => c.modules.length⟩]
  modules := c.modules ++ parsed.toList

def ofOutcomes (outcomes : List (String × Option SourceModule)) : Corpus :=
  outcomes.foldl (fun c (path, parsed) => c.add path parsed) .empty

section Loading

variable {m : Type → Type} [Monad m] (read : Files.Reader m) (parse : Files.Parser)

/-- The module of a file, or none if it does not parse. -/
def outcome (path : String) : ExceptT Failure m (String × Option SourceModule) := do
  match ← (Files.loadModule read path parse).run with
  | .ok parsed => return (path, some parsed)
  | .error (.unparsable _) => return (path, none)
  | .error (.unreadable path cause) =>
    throw ((Failure.ofUnreadable path cause).within ("failed to load " ++ path))

def load (paths : List String) : ExceptT Failure m Corpus := do
  return ofOutcomes (← paths.mapM (outcome read parse))

end Loading

/-- The paths of the files that did not parse. -/
def failed (c : Corpus) : List String :=
  (c.inputs.filter (·.index.isNone)).map (·.path)

end Corpus

/-- What is printed for one input: its features, if it parsed. -/
structure Block where
  path : String
  features : Option (List Feature)
deriving DecidableEq, Repr

namespace Block

def render (b : Block) : String :=
  match b.features with
  | some features =>
    "+ " ++ b.path ++ "\n" ++ String.join (features.map fun f => f.render ++ "\n") ++ "\n"
  | none => "! " ++ b.path ++ "\n\n"

def renderAll (blocks : List Block) : String := String.join (blocks.map render)

end Block

namespace Corpus

/-- One block for each input, with the features found for its module. -/
def blocks (c : Corpus) (features : List (List Feature)) : List Block :=
  c.inputs.map fun input => ⟨input.path, input.index.map fun i => (features[i]?).getD []⟩

/-- The blocks of resolved features. -/
def tagBlocks (c : Corpus) (a : Flow.Analysis) : List Block := c.blocks (a.files.map (·.all))

/-- The blocks of declared identifiers. -/
def identifierBlocks (c : Corpus) : List Block := c.blocks (c.modules.map Flow.identifiers)

end Corpus

/-- The outcome of an analysis in full. -/
structure TagsReport where
  iterations : Nat
  converged : Bool
  files : List FileFeatures
  failed : List String

namespace TagsReport

def of (c : Corpus) (a : Flow.Analysis) : TagsReport :=
  ⟨a.iterations, a.converged, a.files, c.failed⟩

def featureDocument (f : Feature) : Json.Document :=
  .record [("role", .text f.role.code.toString), ("name", .text f.name)]

def fileDocument (f : FileFeatures) : Json.Document :=
  .record [("path", .text f.path), ("root", .text f.root),
    ("definitions", .list featureDocument f.definitions),
    ("resolutions", .list featureDocument f.resolutions)]

def document (r : TagsReport) : Json.Document :=
  .record [("iterations", .nat r.iterations), ("converged", .bool r.converged),
    ("files", .list fileDocument r.files), ("failed", .list .text r.failed)]

def render (r : TagsReport) : String := r.document.pretty ++ "\n"

end TagsReport

end NameFlow.Command
