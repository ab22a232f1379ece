import NameFlow.Flow.Code
import NameFlow.Value

/-!
# Running flow code

A run keeps the scope chain, what the open functions return so far, and a stack of operands.
What a step means beyond that is given by an interpretation, which is told the scope chain at
every step and may keep a state of its own.
-/

namespace NameFlow.Flow

set_option autoImplicit false

universe u

/-- Where a variable's name stands. -/
inductive Site
  /-- A plain name, looked up through the scopes. -/
  | lexical
  /-- The name of an attribute, with what is known of its owner. -/
  | attribute (owner : Option ValueSet)
deriving DecidableEq

/-- The meaning of the steps that name something; by default nothing happens. -/
structure Interpretation (σ : Type u) where
  declareType : ScopeChain → String → σ → σ := fun _ _ s => s
  /-- Takes place in the scope around the function, before its parameters. -/
  enterFunction : ScopeChain → String → σ → σ := fun _ _ s => s
  /-- Takes place in the scope around the function, after its body. -/
  declareFunction : ScopeChain → String → Option ValueSet → List String → σ → σ :=
    fun _ _ _ _ s => s
  /-- Gives the key that the name was bound to, if there is one. -/
  bindVariable : ScopeChain → String → Site → Option ValueSet → σ → Option String × σ :=
    fun _ _ _ _ s => (none, s)
  useType : ScopeChain → String → σ → σ := fun _ _ s => s
  call : ScopeChain → Option ValueSet → List (Option ValueSet) →
      List (String × Option ValueSet) → σ → Option ValueSet × σ := fun _ _ _ _ s => (none, s)
  readVariable : ScopeChain → String → Site → σ → Option ValueSet × σ := fun _ _ _ s => (none, s)

/-- What an open scope has collected. -/
structure Frame where
  returns : Option ValueSet
  params : List String
deriving DecidableEq, Inhabited

def Frame.start : Frame := ⟨none, []⟩

structure State (σ : Type u) where
  scopes : ScopeChain
  frame : Frame
  outerFrames : List Frame
  operands : List (Option ValueSet)
  inner : σ

namespace State

variable {σ : Type u}

def start (root : String) (inner : σ) : State σ := ⟨.root root, .start, [], [], inner⟩

def top (s : State σ) : Option ValueSet := s.operands.head?.join

def put (s : State σ) (v : Option ValueSet) : State σ := { s with operands := v :: s.operands }

def pop (s : State σ) : State σ := { s with operands := s.operands.tail }

def enter (s : State σ) (name : String) (kind : ScopeKind) : State σ :=
  { s with
    scopes := s.scopes.push name kind
    frame := .start
    outerFrames := s.frame :: s.outerFrames }

def leave (s : State σ) : State σ :=
  { s with
    scopes := s.scopes.leave
    frame := s.outerFrames.headD .start
    outerFrames := s.outerFrames.tail }

end State

variable {σ : Type u}

def step (i : Interpretation σ) (s : State σ) : Step → State σ
  | .unknown => s.put none
  | .drop => s.pop
  | .copy => s.put s.top
  | .join => s.pop.pop.put (joinKnown s.pop.top s.top)
  | .read name =>
    let (v, inner) := i.readVariable s.scopes name .lexical s.inner
    { s with inner }.put v
  | .readAttribute name =>
    let (v, inner) := i.readVariable s.scopes name (.attribute s.top) s.inner
    { s.pop with inner }.put v
  | .useType name => { s with inner := i.useType s.scopes name s.inner }
  | .bind name =>
    { s.pop with inner := (i.bindVariable s.scopes name .lexical s.top s.inner).2 }
  | .bindAttribute name =>
    { s.pop.pop with
      inner := (i.bindVariable s.scopes name (.attribute s.top) s.pop.top s.inner).2 }
  | .parameter name =>
    let (key, inner) := i.bindVariable s.scopes name .lexical none s.inner
    { s with inner, frame := { s.frame with params := s.frame.params ++ key.toList } }
  | .call arity names =>
    let named := (s.operands.take names.length).reverse
    let rest := s.operands.drop names.length
    let args := (rest.take arity).reverse
    let rest := rest.drop arity
    let (v, inner) := i.call s.scopes rest.head?.join args (names.zip named) s.inner
    { s with inner, operands := v :: rest.tail }
  | .giveBack =>
    { s.pop with frame := { s.frame with returns := joinKnown s.frame.returns s.top } }
  | .declareType name => { s with inner := i.declareType s.scopes name s.inner }
  | .enterType name => s.enter name .type
  | .leaveType => s.leave
  | .enterFunction name =>
    { s with inner := i.enterFunction s.scopes name s.inner }.enter name .function
  | .leaveFunction name =>
    let s' := s.leave
    { s' with inner := i.declareFunction s'.scopes name s.frame.returns s.frame.params s'.inner }

/-- Takes steps one after another. -/
def run (i : Interpretation σ) (code : List Step) (s : State σ) : State σ := code.foldl (step i) s

@[simp] theorem run_nil (i : Interpretation σ) (s : State σ) : run i [] s = s := rfl

theorem run_cons (i : Interpretation σ) (c : Step) (code : List Step) (s : State σ) :
    run i (c :: code) s = run i code (step i s c) := rfl

theorem run_append (i : Interpretation σ) (code code' : List Step) (s : State σ) :
    run i (code ++ code') s = run i code' (run i code s) := List.foldl_append

/-- Runs a module's body from its root scope and gives the interpretation's last state. -/
def runModule (i : Interpretation σ) (m : Python.SourceModule) (inner : σ) : σ :=
  (run i (blockCode m.body) (.start m.root inner)).inner

/-- Runs an expression from a root scope; the result is what is known of its value. -/
def runExpr (i : Interpretation σ) (root : String) (e : Python.Expr) (inner : σ) :
    Option ValueSet × σ :=
  let s := run i (exprCode e) (.start root inner)
  (s.top, s.inner)

end NameFlow.Flow
