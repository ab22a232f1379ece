import NameFlow.Proofs.Flow.Declaration
import NameFlow.Proofs.Flow.Phrase

/-!
# Where the steps of a module are taken

A module's code alone decides which steps are taken in which scopes. Every chain of scopes on the
way ends in the module's root, and its class scopes bear names of classes that the tree declares.
What a step leaves behind for good can be relied on at the end of the run.
-/

namespace NameFlow.Flow

set_option autoImplicit false

open Python

universe u

section Visited

variable {σ : Type u}

/-- What each step does at its visit is still there at the end, if no step undoes it. -/
theorem run_visited (i : Interpretation σ) (Done : ScopeChain → Step → σ → Prop)
    (hdo : ∀ (s : State σ) x, Done s.scopes x (step i s x).inner)
    (hkeep : ∀ (s : State σ) x c y, Done c y s.inner → Done c y (step i s x).inner)
    (code : List Step) (s : State σ) :
    ∀ v ∈ visits s.scopes code, Done v.1 v.2 (run i code s).inner := by
  have hrun : ∀ (code : List Step) (s : State σ) c y,
      Done c y s.inner → Done c y (run i code s).inner := by
    intro code
    induction code with
    | nil => exact fun _ _ _ h => h
    | cons x code ih => exact fun s c y h => ih (step i s x) c y (hkeep s x c y h)
  induction code generalizing s with
  | nil => exact nofun
  | cons x code ih =>
    rw [visits, List.forall_mem_cons, ← step_scopes i s x]
    exact ⟨hrun code (step i s x) s.scopes x (hdo s x), ih (step i s x)⟩

theorem runModule_visited (i : Interpretation σ) (Done : ScopeChain → Step → σ → Prop)
    (hdo : ∀ (s : State σ) x, Done s.scopes x (step i s x).inner)
    (hkeep : ∀ (s : State σ) x c y, Done c y s.inner → Done c y (step i s x).inner)
    (m : SourceModule) (a : σ) : ∀ v ∈ moduleVisits m, Done v.1 v.2 (runModule i m a) :=
  run_visited i Done hdo hkeep (blockCode m.body) (.start m.root a)

end Visited

section Chains

/-- What entering and leaving scopes keeps of a chain holds wherever a step is taken. -/
theorem scopes_of_mem_visits {P : ScopeChain → Prop} {code : List Step} {c : ScopeChain}
    (hstart : P c) (hleave : ∀ {c}, P c → P c.leave)
    (htype : ∀ {c n}, .enterType n ∈ code → P c → P (c.push n .type))
    (hfunction : ∀ {c n}, .enterFunction n ∈ code → P c → P (c.push n .function)) :
    ∀ v ∈ visits c code, P v.1 := by
  induction code generalizing c with
  | nil => exact nofun
  | cons x code ih =>
    rw [visits, List.forall_mem_cons]
    refine ⟨hstart, ih ?_ (fun hn => htype (List.mem_cons_of_mem x hn))
      (fun hn => hfunction (List.mem_cons_of_mem x hn))⟩
    cases x with
    | enterType n => exact htype List.mem_cons_self hstart
    | enterFunction n => exact hfunction List.mem_cons_self hstart
    | leaveType => exact hleave hstart
    | leaveFunction n => exact hleave hstart
    | _ => exact hstart

/-- The outermost scope is the root scope of the given name. -/
def Rooted (root : String) (c : ScopeChain) : Prop := ∃ inner, c.scopes = inner ++ [⟨root, .root⟩]

theorem mem_scopes_leave {c : ScopeChain} {s : Scope} (h : s ∈ c.leave.scopes) : s ∈ c.scopes := by
  obtain ⟨current, outer⟩ := c
  cases outer with
  | nil => exact h
  | cons s' rest => exact List.mem_cons_of_mem current h

theorem Rooted.push {root : String} {c : ScopeChain} (h : Rooted root c) (name : String)
    (kind : ScopeKind) : Rooted root (c.push name kind) := by
  obtain ⟨inner, hinner⟩ := h
  refine ⟨⟨name, kind⟩ :: inner, ?_⟩
  rw [List.cons_append, ← hinner]
  rfl

theorem Rooted.leave {root : String} {c : ScopeChain} (h : Rooted root c) : Rooted root c.leave := by
  obtain ⟨current, outer⟩ := c
  obtain ⟨inner, hinner⟩ := h
  cases outer with
  | nil => exact ⟨inner, hinner⟩
  | cons s rest =>
    cases inner with
    | nil => exact nomatch (List.cons.inj hinner).2
    | cons _ inner => exact ⟨inner, (List.cons.inj hinner).2⟩

theorem rooted_of_mem_moduleVisits {m : SourceModule} :
    ∀ v ∈ moduleVisits m, Rooted m.root v.1 :=
  scopes_of_mem_visits ⟨[], rfl⟩ Rooted.leave (fun _ h => h.push _ _) (fun _ h => h.push _ _)

end Chains

section Classes

mutual

/-- The names of the classes that a statement declares, nested ones included. -/
def stmtClasses : Stmt → List String
  | .functionDef _ _ _ body => blockClasses body
  | .classDef name _ body => name :: blockClasses body
  | .for _ _ body orelse => blockClasses body ++ blockClasses orelse
  | .while _ body orelse => blockClasses body ++ blockClasses orelse
  | .if _ body orelse => blockClasses body ++ blockClasses orelse
  | .with _ body => blockClasses body
  | .try body handlers orelse finalbody =>
    blockClasses body ++ handlersClasses handlers ++ blockClasses orelse ++ blockClasses finalbody
  | _ => []

def blockClasses : List Stmt → List String
  | [] => []
  | s :: ss => stmtClasses s ++ blockClasses ss

def handlersClasses : List (Handler Stmt) → List String
  | [] => []
  | ⟨_, _, body⟩ :: hs => blockClasses body ++ handlersClasses hs

end

abbrev Clause.classes : Clause → List String
  | .statement st => stmtClasses st
  | .block ss => blockClasses ss
  | .handlers hs => handlersClasses hs

/-- The names of the classes that a module declares. -/
def declaredClasses (m : SourceModule) : List String := blockClasses m.body

/-- The class that a step declares or whose body it enters. -/
def Step.className? : Step → Option String
  | .declareType name => some name
  | .enterType name => some name
  | _ => none

def classSteps (code : List Step) : List String := code.filterMap Step.className?

@[simp] theorem classSteps_nil : classSteps [] = [] := rfl

@[simp] theorem classSteps_cons (x : Step) (code : List Step) :
    classSteps (x :: code) = x.className?.toList ++ classSteps code := by
  unfold classSteps
  cases hx : x.className? <;> simp [hx]

@[simp] theorem classSteps_append (code code' : List Step) :
    classSteps (code ++ code') = classSteps code ++ classSteps code' := List.filterMap_append

theorem classSteps_parameterNames (params : Parameters Expr) :
    classSteps (parameterNames params) = [] := by
  have hparameters : ∀ ps : List (Parameter Expr), classSteps (ps.map (.parameter ·.name)) = [] := by
    intro ps
    induction ps with
    | nil => rfl
    | cons p ps ih => simp [Step.className?, ih]
  obtain ⟨positional, vararg, keywordOnly, kwarg⟩ := params
  unfold parameterNames
  cases vararg <;> cases kwarg <;> simp [hparameters, Step.className?]

/-- No class is declared within an expression. -/
theorem Phrase.classSteps_eq_nil (p : Phrase) : classSteps p.code = [] := by
  have h := p.built
  induction h with
  | @comprehension kind _ _ _ _ _ _ ih ih' ih'' =>
    by_cases hk : kind = .dict <;> simp [exprCode, Step.className?, hk, ih, ih', ih'']
  | @keywordsCons arg _ _ _ _ ih ih' =>
    cases arg <;> simp [keywordsCode, Step.className?, ih, ih']
  | targetOther h => simp [targetCode_of_not_isTarget h, Step.className?]
  | typeOther h => simp [typeCode_of_not_isType h]
  | constant | name | valuesNil | valueNone | keysNil | argumentsNil | keywordsNil | generatorsNil
  | initialsNil | targetName | targetsNil | typeName | typesNil | typeNone => rfl
  | unaryOp _ ih | await _ ih | yieldFrom _ ih | formattedValue _ ih | attr _ ih | starred _ ih
  | boolOp _ ih | set _ ih | joinedStr _ ih | list _ ih | tuple _ ih | yield _ ih
  | valueSome _ ih => simp [exprCode, evaluate?, Step.className?, ih]
  | targetTuple _ ih | targetList _ ih | targetStarred _ ih | targetAttribute _ ih
  | typeTuple _ ih | typeList _ ih | typeAttribute _ ih | typeSome _ ih =>
    simp [targetCode, typeCode, typeCode?, Step.className?, ih]
  | binOp _ _ ih ih' | lambda _ _ ih ih' | namedExpr _ _ ih ih' | dict _ _ ih ih'
  | compare _ _ ih ih' | subscript _ _ ih ih' => simp [exprCode, Step.className?, ih, ih']
  | valuesCons _ _ ih ih' | keysCons _ _ ih ih' | argumentsCons _ _ ih ih'
  | parameters _ _ ih ih' =>
    simp [evaluateAll, evaluateKeys, argumentsCode, parametersCode, classSteps_parameterNames,
      Step.className?, ih, ih']
  | targetSubscript _ _ ih ih' | targetsCons _ _ ih ih' | typeSubscript _ _ ih ih'
  | typesCons _ _ ih ih' =>
    simp [targetCode, targetsCode, typeCode, typesCode, Step.className?, ih, ih']
  | ifExp _ _ _ ih ih' ih'' | call _ _ _ ih ih' ih'' | slice _ _ _ ih ih' ih''
  | initialsCons _ _ _ ih ih' ih'' =>
    simp [exprCode, initialsCode, Step.className?, ih, ih', ih'']
  | generatorsCons _ _ _ _ ih ih' ih'' ih3 =>
    simp [generatorsCode, Step.className?, ih, ih', ih'', ih3]

@[simp] theorem classSteps_exprCode (e : Expr) : classSteps (exprCode e) = [] :=
  Phrase.classSteps_eq_nil (.value e)

@[simp] theorem classSteps_targetCode (e : Expr) : classSteps (targetCode e) = [] :=
  Phrase.classSteps_eq_nil (.target e)

theorem classSteps_assignCode (targets : List Expr) : classSteps (assignCode targets) = [] := by
  unfold assignCode
  induction targets with
  | nil => rfl
  | cons target targets ih => simpa [Step.className?] using ih

theorem classSteps_withItems (items : List WithItem) :
    classSteps (items.flatMap withItemCode) = [] := by
  induction items with
  | nil => rfl
  | cons item items ih =>
    obtain ⟨context, target⟩ := item
    cases target <;> simp [withItemCode, Step.className?, ih]

/-- The classes named in a statement's code are those that it declares. -/
theorem Clause.mem_classSteps_iff (q : Clause) (n : String) :
    n ∈ classSteps q.code ↔ n ∈ q.classes := by
  have h := q.built
  induction h with
  | functionDef _ ih | classDef _ ih | withStmt _ ih =>
    simp [stmtCode, stmtClasses, Step.className?, classSteps_withItems,
      Phrase.classSteps_eq_nil (.parameters _), Phrase.classSteps_eq_nil (.types _),
      Phrase.classSteps_eq_nil (.type? _), ih]
  | forStmt _ _ ih ih' | whileStmt _ _ ih ih' | ifStmt _ _ ih ih' =>
    simp [stmtCode, stmtClasses, Step.className?, ih, ih']
  | tryStmt _ _ _ _ ih ih' ih'' ih3 => simp [stmtCode, stmtClasses, ih, ih', ih'', ih3]
  | returnNone | opaqueStmt | blockNil | handlersNil => exact Iff.rfl
  | returnSome | delete | assign | augAssign | annAssignNone | annAssignSome | raise | assert
  | expr =>
    simp [stmtCode, stmtClasses, Step.className?, classSteps_assignCode,
      Phrase.classSteps_eq_nil (.values _), Phrase.classSteps_eq_nil (.value? _),
      Phrase.classSteps_eq_nil (.type _)]
  | blockCons _ _ ih ih' => simp [blockCode, blockClasses, ih, ih']
  | @handlersCons _ name _ _ _ _ ih ih' =>
    cases name <;>
      simp [handlersCode, handlersClasses, Step.className?, Phrase.classSteps_eq_nil (.type? _), ih,
        ih']

/-- Every class scope of the chain is named in the list. -/
def ClassesIn (classes : List String) (c : ScopeChain) : Prop :=
  ∀ s ∈ c.scopes, s.kind = .type → s.name ∈ classes

theorem mem_declaredClasses {m : SourceModule} {x : Step} {n : String}
    (hx : x ∈ blockCode m.body) (hn : x.className? = some n) : n ∈ declaredClasses m :=
  (Clause.mem_classSteps_iff (.block m.body) n).mp (List.mem_filterMap.mpr ⟨x, hx, hn⟩)

theorem ClassesIn.push {classes : List String} {c : ScopeChain} (h : ClassesIn classes c)
    {name : String} {kind : ScopeKind} (hname : kind = .type → name ∈ classes) :
    ClassesIn classes (c.push name kind) := by
  intro s hs hkind
  rcases List.mem_cons.mp hs with rfl | hs
  · exact hname hkind
  · exact h s hs hkind

theorem classesIn_of_mem_moduleVisits {m : SourceModule} :
    ∀ v ∈ moduleVisits m, ClassesIn (declaredClasses m) v.1 := by
  apply scopes_of_mem_visits
  · intro s hs hkind
    rw [List.mem_singleton.mp hs] at hkind
    exact nomatch hkind
  · exact fun h s hs => h s (mem_scopes_leave hs)
  · exact fun hn h => h.push fun _ => mem_declaredClasses hn rfl
  · exact fun _ h => h.push nofun

theorem mem_code_of_mem_visits {c : ScopeChain} {code : List Step} :
    ∀ v ∈ visits c code, v.2 ∈ code := by
  induction code generalizing c with
  | nil => exact nofun
  | cons x code ih =>
    rw [visits, List.forall_mem_cons]
    exact ⟨List.mem_cons_self, fun v hv => List.mem_cons_of_mem x (ih v hv)⟩

theorem declared_of_mem_moduleVisits {m : SourceModule} {v : ScopeChain × Step} {n : String}
    (hv : v ∈ moduleVisits m) (hn : v.2.className? = some n) : n ∈ declaredClasses m :=
  mem_declaredClasses (mem_code_of_mem_visits v hv) hn

end Classes

section Functions

/-- A key that a visited step gives to a parameter. -/
def ParameterAt (V : ScopeChain → Step → Prop) (key : String) : Prop :=
  ∃ c n, V c (.parameter n) ∧ key = c.key n

/-- A function that a visited step declares. -/
def FunctionAt (V : ScopeChain → Step → Prop) (f : FunctionValue) : Prop :=
  ∃ c n, V c (.leaveFunction n) ∧ f = Definition.functionValue c.leave n f.params

/-- Every function declared so far, and every parameter of the open ones, has its visit. -/
structure Traced (V : ScopeChain → Step → Prop) (q : State (List FunctionValue)) : Prop where
  params : ∀ key ∈ q.frame.params, ParameterAt V key
  outer : ∀ frame ∈ q.outerFrames, ∀ key ∈ frame.params, ParameterAt V key
  functions : ∀ f ∈ q.inner, FunctionAt V f ∧ ∀ key ∈ f.params, ParameterAt V key

theorem Traced.step {V : ScopeChain → Step → Prop} {q : State (List FunctionValue)} {x : Step}
    (h : Traced V q) (hx : V q.scopes x) : Traced V (Flow.step declaring q x) := by
  have hleave : Traced V q.leave := by
    refine ⟨?_, fun frame hframe => h.outer frame (List.mem_of_mem_tail hframe), h.functions⟩
    obtain ⟨scopes, frame, outer, operands, inner⟩ := q
    cases outer with
    | nil => exact nofun
    | cons frame' outer => exact h.outer frame' List.mem_cons_self
  have henter : ∀ name kind, Traced V (q.enter name kind) :=
    fun _ _ => ⟨nofun, List.forall_mem_cons.mpr ⟨h.params, h.outer⟩, h.functions⟩
  cases x with
  | parameter n =>
    refine ⟨fun key hkey => ?_, h.outer, h.functions⟩
    rcases List.mem_append.mp hkey with hkey | hkey
    · exact h.params key hkey
    · exact ⟨q.scopes, n, hx, List.mem_singleton.mp hkey⟩
  | enterType n => exact henter n .type
  | enterFunction n => exact henter n .function
  | leaveType => exact hleave
  | leaveFunction n =>
    refine ⟨hleave.params, hleave.outer, fun f hf => ?_⟩
    rcases List.mem_append.mp hf with hf | hf
    · exact h.functions f hf
    · obtain rfl := List.mem_singleton.mp hf
      exact ⟨⟨q.scopes, n, hx, rfl⟩, h.params⟩
  | _ => exact ⟨h.params, h.outer, h.functions⟩

theorem Traced.run {V : ScopeChain → Step → Prop} {code : List Step}
    {q : State (List FunctionValue)} (h : Traced V q) (hv : ∀ v ∈ visits q.scopes code, V v.1 v.2) :
    Traced V (Flow.run declaring code q) := by
  induction code generalizing q with
  | nil => exact h
  | cons x code ih =>
    rw [visits, List.forall_mem_cons, ← step_scopes declaring q x] at hv
    exact ih (h.step hv.1) hv.2

/-- A declared function is left at one of the module's steps, and its parameters are bound at
others. -/
theorem visits_of_declared {m : SourceModule} {f : FunctionValue} (hf : f ∈ declaredFunctions m) :
    FunctionAt (fun c x => (c, x) ∈ moduleVisits m) f ∧
      ∀ key ∈ f.params, ParameterAt (fun c x => (c, x) ∈ moduleVisits m) key := by
  have hstart : Traced (fun c x => (c, x) ∈ moduleVisits m) (.start m.root []) :=
    ⟨nofun, nofun, nofun⟩
  exact (hstart.run fun v hv => hv).functions f hf

end Functions

end NameFlow.Flow
