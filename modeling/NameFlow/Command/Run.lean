import NameFlow.Command.Corpus
import NameFlow.Command.Request

/-!
# Running requests

A request prints as it goes, so what was printed before a failure stays printed.
-/

namespace NameFlow.Command

set_option autoImplicit false

/-- What a run of the program shows. -/
structure Outcome where
  exit : Nat
  stdout : String
  stderr : String
deriving DecidableEq, Repr

/-- A computation that prints and may fail. -/
abbrev Run (m : Type → Type) : Type → Type := ExceptT Failure (StateT String m)

section Running

variable {m : Type → Type} [Monad m]

def print (text : String) : Run m Unit := modify (· ++ text)

/-- Goes on with what was loaded, or fails in the command's own terms. -/
def attempt {ε α : Type} (failure : ε → Failure) (x : ExceptT ε m α) : Run m α := do
  match ← (x.run : m (Except ε α)) with
  | .ok a => return a
  | .error e => throw (failure e)

variable (read : Files.Reader m) (parse : Files.Parser)

def runTags (request : TagsRequest) : Run m Unit := do
  let config ← match request.config with
    | some path => attempt .ofConfig (Files.loadConfig read path)
    | none => pure {}
  let config : Config := ⟨request.maxIterations.getD config.maxIterations⟩
  attempt .ofConfig (ExceptT.mk (pure config.validate))
  let corpus ← attempt id (Corpus.load read parse request.files)
  let analysis := Flow.analyze config.maxIterations corpus.modules
  print (if request.json then (TagsReport.of corpus analysis).render
    else Block.renderAll (corpus.tagBlocks analysis))

def runIdents (files : List String) : Run m Unit := do
  let corpus ← attempt id (Corpus.load read parse files)
  print (Block.renderAll corpus.identifierBlocks)

/-- The frequencies of phrases over streams. -/
def runFreq (streams : List String) : Run m Unit := do
  let sets ← streams.mapM fun path =>
    attempt .ofVocabulary (Files.loadPhrases read default path)
  print (sets.foldl .add (.empty : Vocabulary.FrequencyList)).render

/-- A phrase of a ranking, with its shares and its best identifiers if asked for. -/
def renderRanked (verbose : Bool) (p : Vocabulary.Phrase) : String :=
  (if verbose then p.render ++ " " ++ String.intercalate " " (p.identifiers.take 3) else p.key) ++
    "\n"

/-- The best phrases of one stream. -/
def renderStream (g : Vocabulary.Glossary) (limit : Nat) (verbose : Bool) (path : String)
    (s : Vocabulary.PhraseSet) : String :=
  "+ " ++ path ++ "\n" ++ (if verbose then "# " ++ s.renderCategories ++ "\n" else "") ++
    String.join ((g.top s limit).map (renderRanked verbose))

def runGlossary (request : GlossaryRequest) : Run m Unit := do
  let map := Vocabulary.RoleMap.ofPresets request.presets
  let context (e : Vocabulary.Error) : Failure :=
    (Failure.ofVocabulary e).within ("failed to load phrase list " ++ request.phrases)
  let g ← attempt context (Files.loadGlossary read request.phrases)
  match request.keys with
  | some path =>
    let keys ← attempt .ofVocabulary (Files.loadKeys read path)
    let load (name : String) : Run m Vocabulary.PhraseSet :=
      attempt .ofVocabulary
        (Files.loadPhrases read map (Files.join request.uses (name ++ ".lst")))
    let report ← Vocabulary.evaluate g keys request.threshold load
    print (report.render request.verbose)
  | none =>
    for path in request.streams do
      let s ← attempt .ofVocabulary (Files.loadPhrases read map path)
      print (renderStream g request.threshold request.verbose path s)

def runRequest : Request → Run m Unit
  | .version => print "flowtag 0.4.0\n"
  | .tags request => runTags read parse request
  | .idents files => runIdents read parse files
  | .freq streams => runFreq read streams
  | .glossary request => runGlossary read request

end Running

/-- Runs the program on the words of a command line. -/
def run {m : Type → Type} [Monad m] (read : Files.Reader m) (words : List String)
    (parse : Files.Parser := Python.parse) : m Outcome := do
  match Request.ofWords words with
  | none => return ⟨2, "", "usage: flowtag [-d] tags|idents|freq|glossary [OPTIONS] [FILES]\n"⟩
  | some request =>
    let (result, printed) ← ((runRequest read parse request).run).run ""
    match result with
    | .ok () => return ⟨0, printed, ""⟩
    | .error failure => return ⟨1, printed, failure.render⟩

end NameFlow.Command
