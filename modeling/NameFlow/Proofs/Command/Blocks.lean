import NameFlow.Command.Run
import NameFlow.Proofs.Command.Report
import NameFlow.Proofs.Flow.Separation

/-!
# The blocks of a run

The inputs of a run, their modules and what is found in the modules are lists of their own, which
indexes and places hold together. A file that does not parse has no module, so that the places of
inputs and modules differ; still every input gets what was found in its own module, and the blocks
that are printed tell what is read from the printed report. All of this holds for every parser.
-/

namespace NameFlow

set_option autoImplicit false

open Python (SourceModule)

namespace Flow

theorem definitionRound_getElem? (t : Table) {ms : List SourceModule} {i : Nat} {m : SourceModule}
    (h : ms[i]? = some m) :
    (definitionRound t ms).2[i]? = some (define (definitionRound t (ms.take i)).1 m).2 := by
  induction ms generalizing t i with
  | nil => cases h
  | cons x ms ih =>
    cases i with
    | zero =>
      obtain rfl : x = m := Option.some.inj h
      rfl
    | succ i => exact ih (define t x).1 h

theorem resolutionRound_getElem? (t : Table) {ms : List SourceModule} {i : Nat} {m : SourceModule}
    (h : ms[i]? = some m) :
    (resolutionRound t ms).2.features[i]? =
      some (resolve (resolutionRound t (ms.take i)).1 m).2.1 := by
  induction ms generalizing t i with
  | nil => cases h
  | cons x ms ih =>
    cases i with
    | zero =>
      obtain rfl : x = m := Option.some.inj h
      rfl
    | succ i => exact ih (resolve t x).1 h

/-- What entering the declarations of the module at a place finds. -/
def definitionsAt (ms : List SourceModule) (i : Nat) (m : SourceModule) : List Feature :=
  (define (definitionRound ∅ (ms.take i)).1 m).2

/-- What resolving the module at a place finds in the round after the first `n`. -/
def resolutionsAt (n : Nat) (ms : List SourceModule) (i : Nat) (m : SourceModule) : List Feature :=
  (resolve (resolutionRound (afterRounds ms (definitionRound ∅ ms).1 n) (ms.take i)).1 m).2.1

/-- At the place of a module are the features that were found in it. -/
theorem files_getElem? (n : Nat) {ms : List SourceModule} {i : Nat} {m : SourceModule}
    (h : ms[i]? = some m) :
    (analyze (n + 1) ms).files[i]? =
      some ⟨m.path, m.root, definitionsAt ms i m, resolutionsAt n ms i m⟩ := by
  have hdefinitions := definitionRound_getElem? ∅ h
  have hresolutions :
      (fixpoint (n + 1) (definitionRound ∅ ms).1 ms).resolutions[i]? =
        some (resolutionsAt n ms i m) := by
    rw [fixpoint_resolutions]
    exact resolutionRound_getElem? _ h
  have hzip : (ms.zip ((definitionRound ∅ ms).2.zip
      (fixpoint (n + 1) (definitionRound ∅ ms).1 ms).resolutions))[i]? =
        some (m, definitionsAt ms i m, resolutionsAt n ms i m) :=
    List.getElem?_zip_eq_some.mpr ⟨h, List.getElem?_zip_eq_some.mpr ⟨hdefinitions, hresolutions⟩⟩
  show (fileFeatures ms _ _)[i]? = _
  unfold fileFeatures
  rw [List.getElem?_map, hzip]
  rfl

end Flow

namespace Command

section Failing

variable {ε α β : Type} {x : ExceptT ε Id α}

theorem run_bind_of_ok {a : α} (h : x.run = .ok a) (f : α → ExceptT ε Id β) :
    (x >>= f).run = (f a).run := by
  obtain rfl : x = ExceptT.mk (.ok a) := h
  rfl

theorem run_bind_of_error {e : ε} (h : x.run = .error e) (f : α → ExceptT ε Id β) :
    (x >>= f).run = .error e := by
  obtain rfl : x = ExceptT.mk (.error e) := h
  rfl

theorem run_mapM_of_ok {f : α → ExceptT ε Id β} {g : α → β} {xs : List α}
    (h : ∀ x ∈ xs, (f x).run = .ok (g x)) : (xs.mapM f).run = .ok (xs.map g) := by
  induction xs with
  | nil => rfl
  | cons x xs ih =>
    rw [List.forall_mem_cons] at h
    rw [List.mapM_cons, run_bind_of_ok h.1, run_bind_of_ok (ih h.2)]
    rfl

theorem run_mapM_of_error {f : α → ExceptT ε Id β} {xs : List α}
    (h : ∃ x ∈ xs, ∃ e, (f x).run = .error e) : ∃ e, (xs.mapM f).run = .error e := by
  induction xs with
  | nil =>
    obtain ⟨x, hx, _⟩ := h
    exact absurd hx List.not_mem_nil
  | cons y xs ih =>
    rw [List.mapM_cons]
    cases hy : (f y).run with
    | error e => exact ⟨e, run_bind_of_error hy _⟩
    | ok b =>
      rw [run_bind_of_ok hy]
      obtain ⟨x, hx, e, he⟩ := h
      rcases List.mem_cons.mp hx with rfl | hx
      · rw [hy] at he
        cases he
      · obtain ⟨e', he'⟩ := ih ⟨x, hx, e, he⟩
        exact ⟨e', run_bind_of_error he' _⟩

end Failing

namespace Corpus

section Outcomes

/-- The inputs of some files, of which the first module has the given index. -/
def inputsFrom : Nat → List (String × Option SourceModule) → List Input
  | _, [] => []
  | i, (path, parsed) :: outcomes =>
    ⟨path, parsed.map fun _ => i⟩ :: inputsFrom (i + parsed.toList.length) outcomes

theorem ofOutcomes_eq (outcomes : List (String × Option SourceModule)) :
    ofOutcomes outcomes = ⟨inputsFrom 0 outcomes, outcomes.filterMap (·.2)⟩ := by
  have hfold : ∀ c : Corpus, outcomes.foldl (fun c outcome => c.add outcome.1 outcome.2) c =
      ⟨c.inputs ++ inputsFrom c.modules.length outcomes,
        c.modules ++ outcomes.filterMap (·.2)⟩ := by
    induction outcomes with
    | nil =>
      intro c
      simp [inputsFrom]
    | cons outcome outcomes ih =>
      intro c
      obtain ⟨path, parsed⟩ := outcome
      rw [List.foldl_cons, ih]
      cases parsed with
      | none => simp [add, inputsFrom]
      | some m => simp [add, inputsFrom]
  exact hfold .empty

theorem inputsFrom_indexes (i : Nat) (outcomes : List (String × Option SourceModule)) :
    (inputsFrom i outcomes).filterMap (·.index) =
      List.range' i (outcomes.filterMap (·.2)).length := by
  induction outcomes generalizing i with
  | nil => rfl
  | cons outcome outcomes ih =>
    obtain ⟨path, parsed⟩ := outcome
    rw [inputsFrom]
    cases parsed with
    | none => simp [ih]
    | some m => simp [ih, List.range'_succ]

/-- Each input has the path of its file, and its index is the place of the file's module. -/
theorem inputsFrom_modules {ms : List SourceModule} {i : Nat}
    (outcomes : List (String × Option SourceModule)) (h : ms.drop i = outcomes.filterMap (·.2)) :
    List.Forall₂ (fun outcome input => input.path = outcome.1 ∧
      input.index.map (fun i => ms[i]?) = outcome.2.map some) outcomes (inputsFrom i outcomes) := by
  induction outcomes generalizing i with
  | nil => exact .nil
  | cons outcome outcomes ih =>
    obtain ⟨path, parsed⟩ := outcome
    cases parsed with
    | none => exact .cons ⟨rfl, rfl⟩ (ih h)
    | some m =>
      have hdrop : ms.drop i = m :: outcomes.filterMap (·.2) := h
      have hm : ms[i]? = some m := by
        rw [← List.head?_drop, hdrop]
        rfl
      have hrest : ms.drop (i + 1) = outcomes.filterMap (·.2) := by
        rw [← List.tail_drop, hdrop]
        rfl
      exact .cons ⟨rfl, congrArg some hm⟩ (ih hrest)

end Outcomes

section Loading

variable (read : Files.Reader Id) (parse : Files.Parser)

/-- The module that a path loads to, if it does. -/
def parsed (path : String) : Option SourceModule := (Files.loadModule read path parse).run.toOption

def Unreadable (path : String) : Prop := ∃ cause, (read path).run = .error cause

variable {read} {path : String} {paths : List String}

theorem loadModule_of_unreadable {cause : Files.ReadError} (h : (read path).run = .error cause) :
    (Files.loadModule read path parse).run = .error (.unreadable path cause) := by
  unfold Files.loadModule
  rw [h]
  rfl

theorem loadModule_of_bytes {bytes : ByteArray} (h : (read path).run = .ok bytes) :
    (Files.loadModule read path parse).run =
      match String.fromUTF8? bytes with
      | none => .error (.unparsable path)
      | some text =>
        match parse text with
        | .error _ => .error (.unparsable path)
        | .ok body => .ok ⟨path, Files.rootName path, body⟩ := by
  unfold Files.loadModule
  rw [h]
  change (match String.fromUTF8? bytes with
    | none => (throw (Files.LoadError.unparsable path) : ExceptT Files.LoadError Id SourceModule)
    | some text =>
      match parse text with
      | .error _ => throw (Files.LoadError.unparsable path)
      | .ok body => return ⟨path, Files.rootName path, body⟩).run = _
  cases String.fromUTF8? bytes with
  | none => rfl
  | some text =>
    dsimp only
    cases parse text with
    | error e => rfl
    | ok body => rfl

/-- A file that can be read holds no module, or one that is named after its path. -/
theorem loadModule_of_readable (h : ¬Unreadable read path) :
    (Files.loadModule read path parse).run = .error (.unparsable path) ∨
      ∃ body, (Files.loadModule read path parse).run = .ok ⟨path, Files.rootName path, body⟩ := by
  cases hread : (read path).run with
  | error cause => exact absurd ⟨cause, hread⟩ h
  | ok bytes =>
    rw [loadModule_of_bytes parse hread]
    cases String.fromUTF8? bytes with
    | none => exact Or.inl rfl
    | some text =>
      dsimp only
      cases parse text with
      | error e => exact Or.inl rfl
      | ok body => exact Or.inr ⟨body, rfl⟩

theorem path_of_parsed {m : SourceModule} (h : parsed read parse path = some m) :
    m.path = path := by
  unfold parsed at h
  by_cases hread : Unreadable read path
  · obtain ⟨cause, hread⟩ := hread
    rw [loadModule_of_unreadable parse hread] at h
    cases h
  · rcases loadModule_of_readable parse hread with hload | ⟨body, hload⟩
    · rw [hload] at h
      cases h
    · rw [hload] at h
      rw [← Option.some.inj h]

theorem outcome_of_readable (h : ¬Unreadable read path) :
    (outcome read parse path).run = .ok (path, parsed read parse path) := by
  unfold parsed
  rcases loadModule_of_readable parse h with hload | ⟨body, hload⟩
  · simp only [outcome, hload]
    rfl
  · simp only [outcome, hload]
    rfl

theorem outcome_of_unreadable (h : Unreadable read path) :
    ∃ failure, (outcome read parse path).run = .error failure := by
  obtain ⟨cause, hread⟩ := h
  simp only [outcome, loadModule_of_unreadable parse hread]
  exact ⟨_, rfl⟩

theorem load_of_readable (h : ∀ path ∈ paths, ¬Unreadable read path) :
    (load read parse paths).run =
      .ok (ofOutcomes (paths.map fun path => (path, parsed read parse path))) := by
  have hmap := run_mapM_of_ok fun path hpath => outcome_of_readable parse (h path hpath)
  unfold load
  rw [run_bind_of_ok hmap]
  rfl

theorem load_of_unreadable (h : ∃ path ∈ paths, Unreadable read path) :
    ∃ failure, (load read parse paths).run = .error failure := by
  obtain ⟨path, hpath, hunreadable⟩ := h
  obtain ⟨failure, hfailure⟩ :=
    run_mapM_of_error ⟨path, hpath, outcome_of_unreadable parse hunreadable⟩
  exact ⟨failure, run_bind_of_error hfailure _⟩

end Loading

theorem map_range_getElem? {α : Type} (l : List α) (d : α) :
    (List.range l.length).map (fun i => (l[i]?).getD d) = l := by
  apply List.ext_getElem?
  intro i
  rw [List.getElem?_map]
  by_cases hi : i < l.length
  · rw [List.getElem?_range hi, List.getElem?_eq_getElem hi]
    simp [hi]
  · rw [List.getElem?_eq_none (by simpa using hi), List.getElem?_eq_none (by simpa using hi)]
    rfl

/-- The corpus of the files at the given paths: its inputs are the paths in their order, its
modules those that parse, counted from zero, and an input's index leads to its own module. -/
structure Holds (parsed : String → Option SourceModule) (paths : List String) (c : Corpus) :
    Prop where
  inputs : List.Forall₂ (fun path input => input.path = path ∧
    input.index.map (fun i => c.modules[i]?) = (parsed path).map some) paths c.inputs
  indexes : c.inputs.filterMap (·.index) = List.range c.modules.length
  modules : c.modules = paths.filterMap parsed

theorem holds_ofOutcomes (parsed : String → Option SourceModule) (paths : List String) :
    Holds parsed paths (ofOutcomes (paths.map fun path => (path, parsed path))) := by
  rw [ofOutcomes_eq]
  constructor
  · have hinputs := inputsFrom_modules (paths.map fun path => (path, parsed path)) List.drop_zero
    exact List.forall₂_map_left_iff.mp hinputs
  · rw [inputsFrom_indexes, List.range_eq_range']
  · rw [List.filterMap_map]
    rfl

variable {parsed : String → Option SourceModule} {paths : List String} {c : Corpus}

theorem Holds.exists_module (h : Holds parsed paths c) {input : Input} (hinput : input ∈ c.inputs)
    {i : Nat} (hi : input.index = some i) :
    ∃ m, c.modules[i]? = some m ∧ parsed input.path = some m := by
  obtain ⟨path, _, hpath, hmodule⟩ := Flow.Resolution.exists_of_forall₂ h.inputs.flip hinput
  rw [hi, Option.map_some, ← hpath] at hmodule
  cases hparsed : parsed input.path with
  | none =>
    rw [hparsed] at hmodule
    cases hmodule
  | some m =>
    rw [hparsed] at hmodule
    exact ⟨m, Option.some.inj hmodule, rfl⟩

theorem Holds.index_lt (h : Holds parsed paths c) {input : Input} (hinput : input ∈ c.inputs)
    {i : Nat} (hi : input.index = some i) : i < c.modules.length := by
  rw [← List.mem_range, ← h.indexes]
  exact List.mem_filterMap.mpr ⟨input, hinput, hi⟩

/-- The block of an input with a module shows the definitions and then the resolutions that were
found in this very module, after `n` rounds and one more. Without a module it shows that there is
none. -/
def OwnBlock (n : Nat) (c : Corpus) (input : Input) (b : Block) : Prop :=
  b.path = input.path ∧
    match input.index with
    | none => b.features = none ∧ b.render = "! " ++ input.path ++ "\n\n"
    | some i => ∃ m defs ress, c.modules[i]? = some m ∧
      (Flow.analyze (n + 1) c.modules).files[i]? = some ⟨input.path, m.root, defs, ress⟩ ∧
      defs = Flow.definitionsAt c.modules i m ∧ ress = Flow.resolutionsAt n c.modules i m ∧
      b.features = some (defs ++ ress) ∧
      b.render = "+ " ++ input.path ++ "\n" ++
        String.join ((defs ++ ress).map fun f => f.role.code.toString ++ f.name ++ "\n") ++ "\n"

/-- A report, as it was read, that tells what was found in a corpus after `n` rounds and one more,
and tells the same as the blocks. -/
structure Agree (n : Nat) (c : Corpus) (blocks : List Block) (shown : ShownReport) : Prop where
  iterations : shown.iterations = toString (Flow.analyze (n + 1) c.modules).iterations
  converged : shown.converged = (Flow.analyze (n + 1) c.modules).converged
  files : shown.files = (Flow.analyze (n + 1) c.modules).files.map fun f => ⟨f.path, f.root,
    f.definitions.map fun d => (d.role.code.toString, d.name),
    f.resolutions.map fun r => (r.role.code.toString, r.name)⟩
  failed : shown.failed = (c.inputs.filter (·.index.isNone)).map (·.path)
  parsedBlocks : blocks.filterMap (fun b => b.features.map fun features =>
      (b.path, features.map fun f => (f.role.code.toString, f.name))) =
    shown.files.map fun f => (f.path, f.definitions ++ f.resolutions)
  failedBlocks : (blocks.filter (·.features.isNone)).map (·.path) = shown.failed

theorem render_of_features {b : Block} {features : List Feature}
    (h : b.features = some features) :
    b.render = "+ " ++ b.path ++ "\n" ++
      String.join (features.map fun f => f.role.code.toString ++ f.name ++ "\n") ++ "\n" := by
  have hlines : (features.map fun f => f.render ++ "\n") =
      features.map fun f => f.role.code.toString ++ f.name ++ "\n" :=
    List.map_congr_left fun f _ => congrArg (· ++ "\n") f.render_eq_shown
  unfold Block.render
  rw [h, ← hlines]

theorem failed_tagBlocks (c : Corpus) (a : Flow.Analysis) :
    ((c.tagBlocks a).filter (·.features.isNone)).map (·.path) = c.failed := by
  unfold tagBlocks blocks failed
  rw [List.filter_map, List.map_map]
  congr 1
  apply List.filter_congr
  intro input _
  exact Option.isNone_map

section Blocks

variable (h : Holds parsed paths c) (hpaths : ∀ path m, parsed path = some m → m.path = path)
  (n : Nat)

include h hpaths

/-- What the analysis has found for an input that parsed. -/
theorem Holds.file_of_input {input : Input} (hinput : input ∈ c.inputs) {i : Nat}
    (hi : input.index = some i) :
    ∃ m, c.modules[i]? = some m ∧ (Flow.analyze (n + 1) c.modules).files[i]? =
      some ⟨input.path, m.root, Flow.definitionsAt c.modules i m,
        Flow.resolutionsAt n c.modules i m⟩ := by
  obtain ⟨m, hm, hparsed⟩ := h.exists_module hinput hi
  have hfile := Flow.files_getElem? n hm
  rw [hpaths _ _ hparsed] at hfile
  exact ⟨m, hm, hfile⟩

theorem Holds.ownBlocks :
    List.Forall₂ (OwnBlock n c) c.inputs (c.tagBlocks (Flow.analyze (n + 1) c.modules)) := by
  unfold tagBlocks blocks
  rw [List.forall₂_map_right_iff, List.forall₂_same]
  intro input hinput
  refine ⟨rfl, ?_⟩
  cases hi : input.index with
  | none => exact ⟨rfl, rfl⟩
  | some i =>
    obtain ⟨m, hm, hfile⟩ := h.file_of_input hpaths n hinput hi
    have hfeatures : (((Flow.analyze (n + 1) c.modules).files.map (·.all))[i]?).getD [] =
        Flow.definitionsAt c.modules i m ++ Flow.resolutionsAt n c.modules i m := by
      rw [List.getElem?_map, hfile]
      rfl
    refine ⟨m, _, _, hm, hfile, rfl, rfl, congrArg some hfeatures, ?_⟩
    exact render_of_features (congrArg some hfeatures)

/-- The blocks with features are the files of the analysis. -/
theorem Holds.shown :
    (c.tagBlocks (Flow.analyze (n + 1) c.modules)).filterMap
        (fun b => b.features.map fun features => (b.path, features)) =
      (Flow.analyze (n + 1) c.modules).files.map
        fun f => (f.path, f.definitions ++ f.resolutions) := by
  let files := (Flow.analyze (n + 1) c.modules).files
  let shown := files.map fun f => (f.path, f.definitions ++ f.resolutions)
  have hlength : c.modules.length = shown.length := by
    rw [List.length_map, Flow.length_files]
  have hshown : ∀ input ∈ c.inputs,
      (input.index.map fun i => (input.path, ((files.map (·.all))[i]?).getD [])) =
        input.index.map fun i => (shown[i]?).getD ("", []) := by
    intro input hinput
    cases hi : input.index with
    | none => rfl
    | some i =>
      obtain ⟨m, _, hfile⟩ := h.file_of_input hpaths n hinput hi
      rw [Option.map_some, Option.map_some, List.getElem?_map, List.getElem?_map, hfile]
      rfl
  -- The indexes count the files, so that looking them up gives the files in their order.
  have hmap := map_range_getElem? shown ("", [])
  rw [← hlength, ← h.indexes, List.map_filterMap, ← List.filterMap_congr hshown] at hmap
  refine Eq.trans ?_ hmap
  unfold tagBlocks blocks
  rw [List.filterMap_map]
  apply List.filterMap_congr
  intro input _
  exact Option.map_map _ _ _

/-- What is read from the printed report agrees with the printed blocks. -/
theorem Holds.agree :
    ∃ shown, ShownReport.ofText? (TagsReport.of c (Flow.analyze (n + 1) c.modules)).render =
        some shown ∧
      Agree n c (c.tagBlocks (Flow.analyze (n + 1) c.modules)) shown := by
  refine ⟨_, ShownReport.ofText?_render _, rfl, rfl, rfl, rfl, ?_, failed_tagBlocks c _⟩
  -- What is read holds the tags as texts, the blocks hold the features themselves.
  have hshown := congrArg (List.map fun b => (b.1, b.2.map Feature.shown)) (h.shown hpaths n)
  simp only [List.map_filterMap, Option.map_map, List.map_map, Function.comp_def,
    List.map_append] at hshown
  rw [List.map_map]
  exact hshown

end Blocks

end Corpus

section Printing

variable {ε α β : Type} {x : ExceptT ε Id α}

theorem attempt_of_ok {a : α} (h : x.run = .ok a) (failure : ε → Failure) (f : α → Run Id β)
    (out : String) : ((attempt failure x >>= f).run).run out = ((f a).run).run out := by
  obtain rfl : x = ExceptT.mk (.ok a) := h
  rfl

theorem attempt_of_error {e : ε} (h : x.run = .error e) (failure : ε → Failure) (f : α → Run Id β)
    (out : String) : ((attempt failure x >>= f).run).run out = (.error (failure e), out) := by
  obtain rfl : x = ExceptT.mk (.error e) := h
  rfl

variable (read : Files.Reader Id) (parse : Files.Parser) (request : TagsRequest)

/-- What a request does once its configuration is known. -/
def tagsWith (config : Config) : Run Id Unit := do
  let config : Config := ⟨request.maxIterations.getD config.maxIterations⟩
  attempt .ofConfig (ExceptT.mk (pure config.validate))
  let corpus ← attempt id (Corpus.load read parse request.files)
  let analysis := Flow.analyze config.maxIterations corpus.modules
  print (if request.json then (TagsReport.of corpus analysis).render
    else Block.renderAll (corpus.tagBlocks analysis))

def configOf : ExceptT ConfigError Id Config :=
  match request.config with
  | some path => Files.loadConfig read path
  | none => pure {}

theorem runTags_run (out : String) :
    ((runTags read parse request).run).run out =
      ((attempt .ofConfig (configOf read request) >>= tagsWith read parse request).run).run out := by
  obtain ⟨maxIterations, config, json, files⟩ := request
  cases config with
  | none => rfl
  | some path => rfl

/-- The number of rounds that a request allows, by itself or else by its configuration. -/
def Budget (n : Nat) : Prop :=
  ∃ config : Config, (configOf read request).run = .ok config ∧
    request.maxIterations.getD config.maxIterations = n

variable {read parse request}

/-- What a request allows does not depend on the form of its output. -/
theorem Budget.json {n : Nat} (h : Budget read request n) (json : Bool) :
    Budget read { request with json := json } n := h

theorem runTags_of_loaded {n : Nat} (hbudget : Budget read request (n + 1)) {c : Corpus}
    (hload : (Corpus.load read parse request.files).run = .ok c) (out : String) :
    ((runTags read parse request).run).run out =
      (.ok (), out ++ if request.json then
          (TagsReport.of c (Flow.analyze (n + 1) c.modules)).render
        else Block.renderAll (c.tagBlocks (Flow.analyze (n + 1) c.modules))) := by
  obtain ⟨config, hconfig, hn⟩ := hbudget
  have hvalid : (ExceptT.mk (pure (Config.mk (n + 1)).validate) : ExceptT ConfigError Id Unit).run =
      .ok () := rfl
  rw [runTags_run, attempt_of_ok hconfig]
  unfold tagsWith
  rw [hn]
  dsimp only
  rw [attempt_of_ok hvalid, attempt_of_ok hload]
  rfl

theorem runTags_of_unloaded {failure : Failure}
    (hload : (Corpus.load read parse request.files).run = .error failure) (out : String) :
    ∃ failure, ((runTags read parse request).run).run out = (.error failure, out) := by
  rw [runTags_run]
  cases hconfig : (configOf read request).run with
  | error e => exact ⟨_, attempt_of_error hconfig _ _ out⟩
  | ok config =>
    rw [attempt_of_ok hconfig]
    unfold tagsWith
    dsimp only
    cases hvalid : (Config.mk (request.maxIterations.getD config.maxIterations)).validate with
    | error e => exact ⟨_, attempt_of_error rfl _ _ out⟩
    | ok =>
      rw [attempt_of_ok (x := ExceptT.mk (pure (.ok _))) rfl]
      exact ⟨_, attempt_of_error hload _ _ out⟩

end Printing

open Corpus in
/-- If all files of a request can be read and it allows a round, each file gets its own block, and
the blocks show what is read from the printed report. If some file cannot be read, nothing is
printed. -/
theorem runTags_shows_each_file (read : Files.Reader Id) (parse : Files.Parser)
    (request : TagsRequest) (out : String) :
    (∀ n, Budget read request (n + 1) → (∀ path ∈ request.files, ¬Unreadable read path) →
      ∃ c, (load read parse request.files).run = .ok c ∧
        c.Holds (parsed read parse) request.files ∧
        (∀ input ∈ c.inputs, ∀ i, input.index = some i →
          i < (Flow.analyze (n + 1) c.modules).files.length) ∧
        ∃ blocks text shown, List.Forall₂ (OwnBlock n c) c.inputs blocks ∧
          ((runTags read parse { request with json := false }).run).run out =
            (.ok (), out ++ String.join (blocks.map (·.render))) ∧
          ((runTags read parse { request with json := true }).run).run out = (.ok (), out ++ text) ∧
          ShownReport.ofText? text = some shown ∧
          Agree n c blocks shown) ∧
    ((∃ path ∈ request.files, Unreadable read path) →
      ∃ failure, ((runTags read parse request).run).run out = (.error failure, out)) := by
  constructor
  · intro n hbudget hreadable
    have hload := load_of_readable parse hreadable
    have hholds := holds_ofOutcomes (parsed read parse) request.files
    have hpaths : ∀ path m, parsed read parse path = some m → m.path = path :=
      fun _ _ => path_of_parsed parse
    obtain ⟨shown, hshown, hagree⟩ := hholds.agree hpaths n
    refine ⟨_, hload, hholds, ?_, _, _, shown, hholds.ownBlocks hpaths n,
      runTags_of_loaded (hbudget.json false) hload out,
      runTags_of_loaded (hbudget.json true) hload out, hshown, hagree⟩
    intro input hinput i hi
    rw [Flow.length_files]
    exact hholds.index_lt hinput hi
  · intro hunreadable
    obtain ⟨failure, hload⟩ := load_of_unreadable parse hunreadable
    exact runTags_of_unloaded hload out

/-- A file with a module, one that does not parse, and no others. -/
def heldFiles : Files.Reader Id := fun path =>
  if path = "shelf.py" then pure "def put(book):\n    shelf = book\n".toUTF8
  else if path = "broken.py" then pure "def (\n".toUTF8
  else throw .notFound

/-- A parser that knows a single program. -/
def heldParser : Files.Parser := fun text =>
  if text = "def put(book):\n    shelf = book\n" then
    .ok [.functionDef "put" ⟨[⟨"book", none, none⟩], none, [], none⟩ none
      [.assign [.name "shelf"] (.name "book")]]
  else .error ⟨.unexpected "name", 4⟩

/-- Files that are given twice and stand between others that do not parse. -/
def heldPaths : List String := ["broken.py", "shelf.py", "broken.py", "shelf.py"]

def taggingOf (json : Bool) (files : List String) : TagsRequest := ⟨some 2, none, json, files⟩

def heldText : String :=
  "! broken.py\n\n+ shelf.py\nVbook\nVshelf\nFput\nvbook\n\n" ++
  "! broken.py\n\n+ shelf.py\nVbook\nVshelf\nFput\nvbook\n\n"

def heldShown : ShownReport :=
  let shelf : ShownFile := ⟨"shelf.py", "shelf", [("V", "book"), ("V", "shelf"), ("F", "put")],
    [("v", "book")]⟩
  ⟨"1", true, [shelf, shelf], ["broken.py", "broken.py"]⟩

open Corpus in
theorem shelf_shown_twice :
    (Budget heldFiles (taggingOf false heldPaths) 2 ∧
      (∀ path ∈ heldPaths, ¬Unreadable heldFiles path) ∧
      ∃ (c : Corpus) (blocks : List Block) (text : String),
        c.Holds (parsed heldFiles heldParser) heldPaths ∧
        List.Forall₂ (OwnBlock 1 c) c.inputs blocks ∧
        String.join (blocks.map (·.render)) = heldText ∧
        ((runTags heldFiles heldParser (taggingOf true heldPaths)).run).run "" = (.ok (), text) ∧
        ShownReport.ofText? text = some heldShown ∧
        Agree 1 c blocks heldShown) ∧
    Unreadable heldFiles "lost.py" ∧
      ∃ failure, ((runTags heldFiles heldParser (taggingOf false ["shelf.py", "lost.py"])).run).run
        "" = (.error failure, "") := by
  have hbudget : Budget heldFiles (taggingOf false heldPaths) 2 := ⟨{}, rfl, rfl⟩
  have hreadable : ∀ path ∈ heldPaths, ¬Unreadable heldFiles path := by
    rintro path hpath ⟨cause, hcause⟩
    simp only [heldPaths, List.mem_cons, List.not_mem_nil, or_false] at hpath
    rcases hpath with rfl | rfl | rfl | rfl <;> cases hcause
  have hlost : Unreadable heldFiles "lost.py" := ⟨.notFound, rfl⟩
  have hlast : "lost.py" ∈ ["shelf.py", "lost.py"] := .tail _ (.head _)
  obtain ⟨c, hload, hholds, _, blocks, text, shown, hblocks, hrun, hjson, hshown, hagree⟩ :=
    (runTags_shows_each_file heldFiles heldParser (taggingOf false heldPaths) "").1 1 hbudget
      hreadable
  rw [String.empty_append] at hrun hjson
  have htext : (((runTags heldFiles heldParser (taggingOf false heldPaths)).run).run "").2 =
      heldText := by decide +kernel
  have hc : c = ofOutcomes (heldPaths.map fun path => (path, parsed heldFiles heldParser path)) :=
    Except.ok.inj (hload.symm.trans (load_of_readable heldParser hreadable))
  have hheld : shown = heldShown := by
    obtain ⟨iterations, converged, files, failed⟩ := shown
    obtain ⟨rfl, rfl, rfl, rfl, _, _⟩ := hagree
    rw [hc]
    decide +kernel
  subst hheld
  exact ⟨⟨hbudget, hreadable, c, blocks, text, hholds, hblocks,
    (congrArg Prod.snd hrun).symm.trans htext, hjson, hshown, hagree⟩,
    hlost, (runTags_shows_each_file heldFiles heldParser _ "").2 ⟨_, hlast, hlost⟩⟩

end Command

end NameFlow
