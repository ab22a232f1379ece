import NameFlow.Proofs.Flow.Balance
import NameFlow.Proofs.Flow.Simulation

/-!
# The record of a run

A recording interpretation does what another one does and writes down every request that the run
makes of it. The values in the record depend on the answers that were given; its outline, which
leaves the values out, depends on the tree alone.
-/

namespace NameFlow.Flow

set_option autoImplicit false

open Python

universe u v

/-- One request of a run, with all that is passed. -/
inductive HookCall
  | declareType (scopes : ScopeChain) (name : String)
  | enterFunction (scopes : ScopeChain) (name : String)
  | declareFunction (scopes : ScopeChain) (name : String) (returns : Option ValueSet)
      (params : List String)
  | bindVariable (scopes : ScopeChain) (name : String) (site : Site) (incoming : Option ValueSet)
  | useType (scopes : ScopeChain) (name : String)
  | call (scopes : ScopeChain) (callee : Option ValueSet) (args : List (Option ValueSet))
      (named : List (String × Option ValueSet))
  | readVariable (scopes : ScopeChain) (name : String) (site : Site)
deriving DecidableEq

/-- A request without its values: of a site it is known whether it is an attribute, of a call how
many arguments stand at which places and names. -/
inductive Outline
  | declareType (scopes : ScopeChain) (name : String)
  | enterFunction (scopes : ScopeChain) (name : String)
  | declareFunction (scopes : ScopeChain) (name : String)
  | bindVariable (scopes : ScopeChain) (name : String) (isAttribute : Bool)
  | useType (scopes : ScopeChain) (name : String)
  | call (scopes : ScopeChain) (arity : Nat) (names : List String)
  | readVariable (scopes : ScopeChain) (name : String) (isAttribute : Bool)
deriving DecidableEq, Repr

def Site.isAttribute : Site → Bool
  | .lexical => false
  | .attribute _ => true

def HookCall.outline : HookCall → Outline
  | .declareType c name => .declareType c name
  | .enterFunction c name => .enterFunction c name
  | .declareFunction c name _ _ => .declareFunction c name
  | .bindVariable c name site _ => .bindVariable c name site.isAttribute
  | .useType c name => .useType c name
  | .call c _ args named => .call c args.length (named.map Prod.fst)
  | .readVariable c name site => .readVariable c name site.isAttribute

variable {σ : Type u} {τ : Type v}

/-- Answers as the interpretation does and adds each request to a list. -/
def Interpretation.recording (i : Interpretation σ) : Interpretation (σ × List HookCall) where
  declareType c name s := (i.declareType c name s.1, s.2 ++ [.declareType c name])
  enterFunction c name s := (i.enterFunction c name s.1, s.2 ++ [.enterFunction c name])
  declareFunction c name returns params s :=
    (i.declareFunction c name returns params s.1, s.2 ++ [.declareFunction c name returns params])
  bindVariable c name site incoming s :=
    let r := i.bindVariable c name site incoming s.1
    (r.1, r.2, s.2 ++ [.bindVariable c name site incoming])
  useType c name s := (i.useType c name s.1, s.2 ++ [.useType c name])
  call c callee args named s :=
    let r := i.call c callee args named s.1
    (r.1, r.2, s.2 ++ [.call c callee args named])
  readVariable c name site s :=
    let r := i.readVariable c name site s.1
    (r.1, r.2, s.2 ++ [.readVariable c name site])

/-- The requests that the run of a module makes, in their order. -/
def hookCalls (i : Interpretation σ) (m : SourceModule) (a : σ) : List HookCall :=
  (runModule i.recording m (a, [])).2

section Faithful

/-- The state of the recorded interpretation. -/
def State.unrecorded (s : State (σ × List HookCall)) : State σ :=
  ⟨s.scopes, s.frame, s.outerFrames, s.operands, s.inner.1⟩

theorem step_unrecorded (i : Interpretation σ) (s : State (σ × List HookCall)) (x : Step) :
    (step i.recording s x).unrecorded = step i s.unrecorded x := by
  cases x <;> rfl

theorem run_unrecorded (i : Interpretation σ) (code : List Step) (s : State (σ × List HookCall)) :
    (run i.recording code s).unrecorded = run i code s.unrecorded := by
  induction code generalizing s with
  | nil => rfl
  | cons x code ih => rw [run_cons, run_cons, ih, step_unrecorded]

/-- Writing the requests down does not change the run. -/
theorem runModule_recording (i : Interpretation σ) (m : SourceModule) (a : σ)
    (calls : List HookCall) : (runModule i.recording m (a, calls)).1 = runModule i m a :=
  congrArg State.inner (run_unrecorded i (blockCode m.body) (.start m.root (a, calls)))

end Faithful

section Folds

/-- Each hook changes what is seen of the state as the request says. -/
structure Folds (i : Interpretation σ) (seen : σ → τ) (next : τ → HookCall → τ) : Prop where
  declareType : ∀ c n x, seen (i.declareType c n x) = next (seen x) (.declareType c n)
  enterFunction : ∀ c n x, seen (i.enterFunction c n x) = next (seen x) (.enterFunction c n)
  declareFunction : ∀ c n returns params x,
    seen (i.declareFunction c n returns params x) =
      next (seen x) (.declareFunction c n returns params)
  bindVariable : ∀ c n site v x,
    seen (i.bindVariable c n site v x).2 = next (seen x) (.bindVariable c n site v)
  useType : ∀ c n x, seen (i.useType c n x) = next (seen x) (.useType c n)
  call : ∀ c f args named x,
    seen (i.call c f args named x).2 = next (seen x) (.call c f args named)
  readVariable : ∀ c n site x,
    seen (i.readVariable c n site x).2 = next (seen x) (.readVariable c n site)

namespace Folds

variable {i : Interpretation σ} {seen : σ → τ} {next : τ → HookCall → τ}

theorem step (hi : Folds i seen next) {start : τ} {s : State (σ × List HookCall)}
    (h : seen s.inner.1 = s.inner.2.foldl next start) (x : Step) :
    seen (Flow.step i.recording s x).inner.1 =
      (Flow.step i.recording s x).inner.2.foldl next start := by
  have hsnoc : ∀ {y : σ} {call : HookCall}, seen y = next (seen s.inner.1) call →
      seen y = (s.inner.2 ++ [call]).foldl next start := by
    intro y call hy
    rw [List.foldl_append, ← h]
    exact hy
  cases x with
  | unknown | drop | copy | join | giveBack | enterType | leaveType => exact h
  | read | readAttribute => exact hsnoc (hi.readVariable _ _ _ _)
  | bind | bindAttribute | parameter => exact hsnoc (hi.bindVariable _ _ _ _ _)
  | useType => exact hsnoc (hi.useType _ _ _)
  | call => exact hsnoc (hi.call _ _ _ _ _)
  | declareType => exact hsnoc (hi.declareType _ _ _)
  | enterFunction => exact hsnoc (hi.enterFunction _ _ _)
  | leaveFunction => exact hsnoc (hi.declareFunction _ _ _ _ _)

theorem run (hi : Folds i seen next) {start : τ} (code : List Step)
    {s : State (σ × List HookCall)} (h : seen s.inner.1 = s.inner.2.foldl next start) :
    seen (Flow.run i.recording code s).inner.1 =
      (Flow.run i.recording code s).inner.2.foldl next start := by
  induction code generalizing s with
  | nil => exact h
  | cons x code ih => exact ih (hi.step h x)

/-- What is seen at the end of a run is a fold over its requests. -/
theorem runModule (hi : Folds i seen next) (m : SourceModule) (a : σ) :
    seen (Flow.runModule i m a) = (hookCalls i m a).foldl next (seen a) := by
  rw [← runModule_recording i m a []]
  exact hi.run (blockCode m.body) rfl

end Folds

end Folds

section Replay

/-- The state in which a request leaves the interpretation. -/
def Interpretation.answer (i : Interpretation σ) (x : σ) : HookCall → σ
  | .declareType c name => i.declareType c name x
  | .enterFunction c name => i.enterFunction c name x
  | .declareFunction c name returns params => i.declareFunction c name returns params x
  | .bindVariable c name site incoming => (i.bindVariable c name site incoming x).2
  | .useType c name => i.useType c name x
  | .call c callee args named => (i.call c callee args named x).2
  | .readVariable c name site => (i.readVariable c name site x).2

/-- The state after requests; in a run it is the state in which the next request is made. -/
def Interpretation.replay (i : Interpretation σ) (x : σ) (calls : List HookCall) : σ :=
  calls.foldl i.answer x

theorem Interpretation.replay_append (i : Interpretation σ) (x : σ) (calls calls' : List HookCall) :
    i.replay x (calls ++ calls') = i.replay (i.replay x calls) calls' := List.foldl_append

theorem folds_answer (i : Interpretation σ) : Folds i id i.answer := by
  constructor <;> intros <;> rfl

/-- A run ends where its record leads to. -/
theorem runModule_eq_replay (i : Interpretation σ) (m : SourceModule) (a : σ) :
    runModule i m a = i.replay a (hookCalls i m a) := (folds_answer i).runModule m a

end Replay

section Evaluations

/-- The same state, with the given requests on record before the others. -/
def State.following (calls : List HookCall) (s : State (σ × List HookCall)) :
    State (σ × List HookCall) :=
  { s with inner := (s.inner.1, calls ++ s.inner.2) }

theorem step_following (i : Interpretation σ) (calls : List HookCall)
    (s : State (σ × List HookCall)) (x : Step) :
    step i.recording (s.following calls) x = (step i.recording s x).following calls := by
  cases x <;>
    simp [step, State.following, State.put, State.pop, State.top, State.enter, State.leave,
      Interpretation.recording]

/-- What is on record before a run has no influence on it. -/
theorem run_following (i : Interpretation σ) (calls : List HookCall) (code : List Step)
    (s : State (σ × List HookCall)) :
    run i.recording code (s.following calls) = (run i.recording code s).following calls := by
  induction code generalizing s with
  | nil => rfl
  | cons x code ih => rw [run_cons, run_cons, step_following, ih]

/-- The requests that an expression makes when it is evaluated in a state. -/
def exprCalls (i : Interpretation σ) (c : ScopeChain) (x : σ) (e : Expr) : List HookCall :=
  (walkExpr i.recording c (x, []) e).2.2

theorem walkExpr_recording (i : Interpretation σ) (e : Expr) (c : ScopeChain)
    (s : σ × List HookCall) :
    walkExpr i.recording c s e =
      ((walkExpr i c s.1 e).1, (walkExpr i c s.1 e).2, s.2 ++ exprCalls i c s.1 e) := by
  obtain ⟨x, calls⟩ := s
  have hplain := run_unrecorded i (exprCode e) ⟨c, .start, [], [], (x, calls)⟩
  have hrecord := run_following i calls (exprCode e) ⟨c, .start, [], [], (x, [])⟩
  simp only [State.following, State.unrecorded, run_exprCode, List.append_nil] at hplain hrecord
  simp only [State.mk.injEq, List.cons.injEq, true_and, and_true] at hplain hrecord
  have hcalls := congrArg Prod.snd hrecord.2
  exact Prod.ext hplain.1 (Prod.ext hplain.2 hcalls)

end Evaluations

section Outlines

/-- What a step taken in the given scopes asks for. -/
def stepOutline (c : ScopeChain) : Step → Option Outline
  | .read name => some (.readVariable c name false)
  | .readAttribute name => some (.readVariable c name true)
  | .useType name => some (.useType c name)
  | .bind name | .parameter name => some (.bindVariable c name false)
  | .bindAttribute name => some (.bindVariable c name true)
  | .call arity names => some (.call c arity names)
  | .declareType name => some (.declareType c name)
  | .enterFunction name => some (.enterFunction c name)
  | .leaveFunction name => some (.declareFunction c.leave name)
  | _ => none

/-- A step asks for what its outline says, provided that its operands are there. -/
theorem step_outlines (i : Interpretation σ) {s : State (σ × List HookCall)} {x : Step}
    (hx : x.takes ≤ s.operands.length) :
    (step i.recording s x).inner.2.map HookCall.outline =
      s.inner.2.map HookCall.outline ++ (stepOutline s.scopes x).toList := by
  cases x with
  | call arity names =>
    have htakes : 1 + arity + names.length ≤ s.operands.length := hx
    have hargs : (((s.operands.drop names.length).take arity).reverse).length = arity := by
      simp only [List.length_reverse, List.length_take, List.length_drop]
      omega
    have hnames : (names.zip (s.operands.take names.length).reverse).map Prod.fst = names := by
      apply List.map_fst_zip
      simp only [List.length_reverse, List.length_take]
      omega
    simp only [step, Interpretation.recording, List.map_append, List.map_cons, List.map_nil,
      HookCall.outline, hargs, hnames, stepOutline, Option.toList_some]
  | unknown | drop | copy | join | giveBack | enterType name | leaveType =>
    exact (List.append_nil _).symm
  | _ =>
    simp [step, Interpretation.recording, State.put, State.enter, State.leave, HookCall.outline,
      Site.isAttribute, stepOutline]

theorem run_outlines (i : Interpretation σ) {code : List Step} {s : State (σ × List HookCall)}
    {l l' : Load} (hs : Bears s l) (hl : l.run code = some l') :
    (run i.recording code s).inner.2.map HookCall.outline =
      s.inner.2.map HookCall.outline ++
        (visits s.scopes code).filterMap fun v => stepOutline v.1 v.2 := by
  induction code generalizing s l with
  | nil => exact (List.append_nil _).symm
  | cons x code ih =>
    obtain ⟨after, hx, hcode⟩ := Option.bind_eq_some_iff.1 (Load.run_cons l x code ▸ hl)
    have htakes : x.takes ≤ s.operands.length := Nat.le_trans (Load.takes_le hx) hs.operands
    rw [run_cons, ih (hs.step i.recording hx) hcode, step_outlines i htakes, step_scopes, visits,
      List.append_assoc]
    congr 1
    cases hout : stepOutline s.scopes x <;> simp [hout]

/-- The outline of a run can be read off the code of the module. -/
theorem outline_hookCalls (i : Interpretation σ) (m : SourceModule) (a : σ) :
    (hookCalls i m a).map HookCall.outline =
      (moduleVisits m).filterMap fun v => stepOutline v.1 v.2 :=
  run_outlines i (bears_empty (.start m.root (a, []))) (load_blockCode m.body 0 0)

/-- Runs of two interpretations on one module make the same requests up to their values, and the
requests on record are those of the runs themselves. -/
theorem hookCalls_independent (i : Interpretation σ) (j : Interpretation τ) (m : SourceModule)
    (a : σ) (b : τ) :
    (hookCalls i m a).map HookCall.outline = (hookCalls j m b).map HookCall.outline ∧
      (runModule i.recording m (a, [])).1 = runModule i m a ∧
      (runModule j.recording m (b, [])).1 = runModule j m b := by
  refine ⟨?_, runModule_recording i m a [], runModule_recording j m b []⟩
  rw [outline_hookCalls i, outline_hookCalls j]

end Outlines

end NameFlow.Flow
