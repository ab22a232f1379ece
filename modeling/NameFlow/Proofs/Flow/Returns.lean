import NameFlow.Proofs.Flow.Functions
import NameFlow.Proofs.Flow.Recording

/-!
# What functions return

A run keeps what the current scope returns so far in one place and puts it away while an inner scope
is open. When it leaves a function, it has collected there what the walks of the function's own
return statements gave, in their order, and nothing else.
-/

namespace NameFlow.Flow

set_option autoImplicit false

open Python

universe u

variable {σ : Type u} (i : Interpretation σ)

/-! ## Return statements -/

section Statements

mutual

/-- The return statements of the scope around a statement, each with the state in which its
expression is walked. Those of inner functions and classes belong to other scopes. -/
def stmtReturned (c : ScopeChain) (x : σ) : Stmt → List (Expr × σ)
  | .return value => value.toList.map fun e => (e, x)
  | .for target iter body orelse =>
    let x := walkTarget i c none (walkExpr i c x iter).2 target
    blockReturned c x body ++ blockReturned c (walkBlock i c (none, x) body).2 orelse
  | .while test body orelse =>
    let x := (walkExpr i c x test).2
    blockReturned c x body ++ blockReturned c (walkBlock i c (none, x) body).2 orelse
  | .if test body orelse =>
    let x := (walkExpr i c x test).2
    blockReturned c x body ++ blockReturned c (walkBlock i c (none, x) body).2 orelse
  | .with items body => blockReturned c (items.foldl (walkItem i c) x) body
  | .try body handlers orelse finalbody =>
    let tried := (walkBlock i c (none, x) body).2
    let handled := (walkHandlers i c (none, tried) handlers).2
    blockReturned c x body ++ handlersReturned c tried handlers ++ blockReturned c handled orelse ++
      blockReturned c (walkBlock i c (none, handled) orelse).2 finalbody
  | _ => []

def blockReturned (c : ScopeChain) (x : σ) : List Stmt → List (Expr × σ)
  | [] => []
  | s :: ss => stmtReturned c x s ++ blockReturned c (walkStmt i c (none, x) s).2 ss

def handlersReturned (c : ScopeChain) (x : σ) : List (Handler Stmt) → List (Expr × σ)
  | [] => []
  | ⟨type, name, body⟩ :: hs =>
    let x := walkUnknown i c (walkType? i c x type) name
    blockReturned c x body ++ handlersReturned c (walkBlock i c (none, x) body).2 hs

end

abbrev Clause.returned (c : ScopeChain) (x : σ) : Clause → List (Expr × σ)
  | .statement st => stmtReturned i c x st
  | .block ss => blockReturned i c x ss
  | .handlers hs => handlersReturned i c x hs

/-- What is returned so far has no influence on the state. -/
theorem Clause.after_state (q : Clause) : ∀ (c : ScopeChain) {r r' : Option ValueSet × σ},
    r.2 = r'.2 → (q.after i c r).2 = (q.after i c r').2 := by
  have h := q.built
  induction h with
  | forStmt _ _ ih ih' | whileStmt _ _ ih ih' | ifStmt _ _ ih ih' =>
    intro c r r' h
    simp only [walkStmt, h]
    apply ih'
    exact ih c rfl
  | withStmt _ ih =>
    intro c r r' h
    simp only [walkStmt, h]
    exact ih c rfl
  | tryStmt _ _ _ _ ih ih' ih'' ih3 =>
    intro c r r' h
    apply ih3
    apply ih''
    apply ih'
    exact ih c h
  | returnNone | opaqueStmt | blockNil | handlersNil => exact fun _ _ _ h => h
  | blockCons _ _ ih ih' =>
    intro c r r' h
    apply ih'
    exact ih c h
  | handlersCons _ _ ih ih' =>
    intro c r r' h
    simp only [walkHandlers, h]
    apply ih'
    exact ih c rfl
  | _ =>
    intro c r r' h
    simp only [walkStmt, h]

theorem Clause.map_fst_returned (q : Clause) :
    ∀ (c : ScopeChain) (x : σ), (q.returned i c x).map Prod.fst = q.returns := by
  have h := q.built
  induction h with
  | forStmt _ _ ih ih' | whileStmt _ _ ih ih' | ifStmt _ _ ih ih' =>
    intro c x
    simp [stmtReturned, stmtReturns, ih, ih']
  | withStmt _ ih =>
    intro c x
    simp [stmtReturned, stmtReturns, ih]
  | tryStmt _ _ _ _ ih ih' ih'' ih3 =>
    intro c x
    simp [stmtReturned, stmtReturns, ih, ih', ih'', ih3]
  | blockCons _ _ ih ih' | handlersCons _ _ ih ih' =>
    intro c x
    simp [blockReturned, blockReturns, handlersReturned, handlersReturns, ih, ih']
  | _ => exact fun _ _ => rfl

/-- What is returned grows by the values of the expressions, each walked in its state. -/
def Gathers (c : ScopeChain) (rs : List (Expr × σ)) (before after : Option ValueSet) : Prop :=
  after = (rs.map fun r => (walkExpr i c r.2 r.1).1).foldl joinKnown before

variable {i} in
theorem Gathers.append {c : ScopeChain} {rs rs' : List (Expr × σ)}
    {before between after : Option ValueSet} (h : Gathers i c rs before between)
    (h' : Gathers i c rs' between after) : Gathers i c (rs ++ rs') before after := by
  unfold Gathers at h h' ⊢
  rw [List.map_append, List.foldl_append, ← h]
  exact h'

theorem Clause.gathers (q : Clause) : ∀ (c : ScopeChain) {r : Option ValueSet × σ} {x : σ},
    r.2 = x → Gathers i c (q.returned i c x) r.1 (q.after i c r).1 := by
  have h := q.built
  induction h with
  | @forStmt _ _ body _ _ _ ih ih' | @whileStmt _ body _ _ _ ih ih'
  | @ifStmt _ body _ _ _ ih ih' =>
    intro c r x h
    simp only [stmtReturned, walkStmt, h]
    apply (ih c (r := (r.1, _)) rfl).append
    exact ih' c (Clause.after_state i (.block body) c rfl)
  | withStmt _ ih =>
    intro c r x h
    simp only [stmtReturned, walkStmt, h]
    exact ih c rfl
  | @tryStmt body handlers orelse _ _ _ _ _ ih ih' ih'' ih3 =>
    intro c r x h
    have hbody : (walkBlock i c r body).2 = (walkBlock i c (none, x) body).2 :=
      Clause.after_state i (.block body) c h
    have hhandlers : (walkHandlers i c (walkBlock i c r body) handlers).2 =
        (walkHandlers i c (none, (walkBlock i c (none, x) body).2) handlers).2 :=
      Clause.after_state i (.handlers handlers) c hbody
    apply Gathers.append
    · exact ((ih c h).append (ih' c hbody)).append (ih'' c hhandlers)
    · exact ih3 c (Clause.after_state i (.block orelse) c hhandlers)
  | returnSome =>
    intro c r x h
    rw [← h]
    rfl
  | @blockCons st _ _ _ ih ih' =>
    intro c r x h
    apply (ih c h).append
    exact ih' c (Clause.after_state i (.statement st) c h)
  | @handlersCons _ _ body _ _ _ ih ih' =>
    intro c r x h
    simp only [handlersReturned, walkHandlers, h]
    apply (ih c (r := (r.1, _)) rfl).append
    exact ih' c (Clause.after_state i (.block body) c rfl)
  | _ => exact fun _ _ _ _ => rfl

end Statements

/-! ## Functions -/

section Functions

/-- The union of the sets that are known, in their order; nothing if none is known. -/
def collected (values : List (Option ValueSet)) : Option ValueSet :=
  match values.filterMap id with
  | [] => none
  | s :: ss => some (ss.foldl ValueSet.union s)

theorem foldl_joinKnown_some (values : List (Option ValueSet)) (s : ValueSet) :
    values.foldl joinKnown (some s) = some ((values.filterMap id).foldl ValueSet.union s) := by
  induction values generalizing s with
  | nil => rfl
  | cons v values ih =>
    cases v with
    | none => exact ih s
    | some t => exact ih (s.union t)

theorem foldl_joinKnown_none (values : List (Option ValueSet)) :
    values.foldl joinKnown none = collected values := by
  induction values with
  | nil => rfl
  | cons v values ih =>
    cases v with
    | none => exact ih
    | some s => exact foldl_joinKnown_some values s

theorem mem_foldl_joinKnown {values : List (Option ValueSet)} {r : Option ValueSet}
    {v : Identity} : v ∈ (values.foldl joinKnown r).getD ∅ ↔
      v ∈ r.getD ∅ ∨ ∃ w ∈ values, v ∈ w.getD ∅ := by
  induction values generalizing r with
  | nil => simp
  | cons w values ih => rw [List.foldl_cons, ih, mem_joinKnown, List.exists_mem_cons_iff, or_assoc]

theorem mem_getD_collected {values : List (Option ValueSet)} {v : Identity} :
    v ∈ (collected values).getD ∅ ↔ ∃ w ∈ values, v ∈ w.getD ∅ := by
  rw [← foldl_joinKnown_none, mem_foldl_joinKnown]
  exact or_iff_right (ValueSet.not_mem_empty v)

namespace FunctionTree

variable (f : FunctionTree)

/-- The expressions that a function returns itself. -/
def ownReturns : List Expr :=
  match f.body with
  | .statements body => blockReturns body
  | .value e => [e]

/-- The same, each with the state in which it is walked if the body is walked in the given one. -/
def returned (x : σ) : List (Expr × σ) :=
  match f.body with
  | .statements body => blockReturned i f.inside x body
  | .value e => [(e, x)]

/-- What a function returns if its body is walked in the given state. -/
def result (x : σ) : Option ValueSet :=
  collected ((f.returned i x).map fun r => (walkExpr i f.inside r.2 r.1).1)

/-- The state after the body. -/
def left (x : σ) : σ :=
  match f.body with
  | .statements body => (walkBlock i f.inside (none, x) body).2
  | .value e => (walkExpr i f.inside x e).2

/-- The keys of the parameters and the state in which the body is walked, for a function that is
entered in a state. -/
def opened (x : σ) : List String × σ :=
  walkParameters i f.inside (i.enterFunction f.scopes f.name x) f.params

theorem map_fst_returned (x : σ) : (f.returned i x).map Prod.fst = f.ownReturns := by
  unfold returned ownReturns
  split
  · exact Clause.map_fst_returned i (.block _) _ x
  · rfl

theorem result_of_value {f : FunctionTree} {e : Expr} (h : f.body = .value e) (x : σ) :
    f.result i x = (walkExpr i f.inside x e).1 := by
  unfold result returned
  rw [h, ← foldl_joinKnown_none]
  exact joinKnown_none _

theorem run_code (outer : List Frame) (ops : List (Option ValueSet)) (x : σ) :
    run i f.code ⟨f.inside, .start, outer, ops, i.enterFunction f.scopes f.name x⟩ =
      ⟨f.inside, ⟨f.result i (f.opened i x).2, (f.opened i x).1⟩, outer, ops,
        f.left i (f.opened i x).2⟩ := by
  unfold code Frame.start
  rw [run_append, run_parametersCode]
  change run i f.body.code ⟨_, ⟨none, (f.opened i x).1⟩, _, _, (f.opened i x).2⟩ = _
  cases hbody : f.body with
  | statements body =>
    have hgathers := Clause.gathers i (.block body) f.inside (r := (none, (f.opened i x).2)) rfl
    rw [Gathers, foldl_joinKnown_none] at hgathers
    simp only [FunctionBody.code, run_blockCode, result, returned, left, hbody, hgathers]
  | value e =>
    rw [result_of_value i hbody]
    simp only [FunctionBody.code, run_append, run_exprCode, run_cons, run_nil, step_giveBack,
      joinKnown_none, left, hbody]

end FunctionTree

end Functions

/-! ## Records -/

section Records

def HookCall.isDeclaration : HookCall → Bool
  | .declareFunction _ _ _ _ => true
  | _ => false

/-- The request that declares a function which is entered in the given state. -/
def FunctionTree.declaration (f : FunctionTree) (x : σ) : HookCall :=
  .declareFunction f.scopes f.name (f.result i (f.opened i x).2) (f.opened i x).1

/-- The requests, made from a state on, declare the functions one after the other, and each of them
as it is to be from the state in which it is entered. -/
structure Records (x : σ) (fs : List FunctionTree) (calls : List HookCall) : Prop where
  count : calls.countP HookCall.isDeclaration = fs.length
  found : ∀ k f, fs[k]? = some f → ∃ before mid after,
    calls = before ++ .enterFunction f.scopes f.name ::
      (mid ++ f.declaration i (i.replay x before) :: after) ∧
    (before ++ mid).countP HookCall.isDeclaration = k ∧
    i.replay x (before ++ .enterFunction f.scopes f.name :: mid) =
      f.left i (f.opened i (i.replay x before)).2

variable {i} {x : σ} {fs gs : List FunctionTree} {calls calls' : List HookCall}

theorem records_of_none (h : calls.countP HookCall.isDeclaration = 0) : Records i x [] calls := by
  refine ⟨h, fun k f hf => ?_⟩
  cases hf

theorem Records.append (h : Records i x fs calls) (h' : Records i (i.replay x calls) gs calls') :
    Records i x (fs ++ gs) (calls ++ calls') := by
  constructor
  · rw [List.countP_append, h.count, h'.count, List.length_append]
  · intro k f hf
    -- a function of the second part is entered after all requests of the first
    by_cases hk : k < fs.length
    · rw [List.getElem?_append_left hk] at hf
      obtain ⟨before, mid, after, hcalls, hfound⟩ := h.found k f hf
      refine ⟨before, mid, after ++ calls', ?_, hfound⟩
      rw [hcalls]
      simp
    · rw [List.getElem?_append_right (by omega)] at hf
      obtain ⟨before, mid, after, hcalls, hcount, hleft⟩ := h'.found _ f hf
      refine ⟨calls ++ before, mid, after, ?_, ?_, ?_⟩
      · rw [hcalls, i.replay_append]
        simp
      · rw [List.append_assoc, List.countP_append, h.count, hcount]
        omega
      · rw [List.append_assoc, i.replay_append x calls, hleft,
          i.replay_append]

theorem Records.function (f : FunctionTree)
    (h : Records i (i.enterFunction f.scopes f.name x) fs calls)
    (hleft : i.replay (i.enterFunction f.scopes f.name x) calls = f.left i (f.opened i x).2) :
    Records i x (fs ++ [f])
      (.enterFunction f.scopes f.name :: (calls ++ [f.declaration i x])) := by
  constructor
  · have hcount := h.count
    simp [HookCall.isDeclaration, FunctionTree.declaration, hcount]
  · intro k g hg
    by_cases hk : k < fs.length
    · rw [List.getElem?_append_left hk] at hg
      obtain ⟨before, mid, after, hcalls, hcount, hinner⟩ := h.found k g hg
      refine ⟨.enterFunction f.scopes f.name :: before, mid, after ++ [f.declaration i x], ?_, ?_,
        hinner⟩
      · rw [hcalls]
        simp [Interpretation.replay, Interpretation.answer]
      · simpa [HookCall.isDeclaration] using hcount
    · rw [List.getElem?_append_right (by omega), List.getElem?_singleton] at hg
      split at hg
      · cases hg
        refine ⟨[], calls, [], rfl, ?_, hleft⟩
        rw [List.nil_append, h.count]
        omega
      · cases hg

variable (i) in
/-- Among the requests, made from a state on, the function is entered in the state `y`, and where
its body ends it is declared as it is to be. -/
def FunctionTree.EnteredIn (f : FunctionTree) (x : σ) (calls : List HookCall) (y : σ) : Prop :=
  ∃ before mid after, y = i.replay x before ∧
    calls = before ++ .enterFunction f.scopes f.name :: (mid ++ f.declaration i y :: after) ∧
    i.replay x (before ++ .enterFunction f.scopes f.name :: mid) = f.left i (f.opened i y).2

theorem FunctionTree.EnteredIn.mem {f : FunctionTree} {y : σ} (h : f.EnteredIn i x calls y) :
    f.declaration i y ∈ calls := by
  obtain ⟨before, mid, after, _, rfl, _⟩ := h
  simp

theorem getElem?_filter_countP {p : HookCall → Bool} {call : HookCall} (hcall : p call = true)
    (before after : List HookCall) :
    ((before ++ call :: after).filter p)[before.countP p]? = some call := by
  rw [List.filter_append, List.filter_cons_of_pos hcall, List.countP_eq_length_filter,
    List.getElem?_append_right (Nat.le_refl _), Nat.sub_self]
  rfl

/-- The declarations are those of the functions, each from the state in which it is entered. -/
theorem Records.declarations (h : Records i x fs calls) :
    List.Forall₂ (fun f call => ∃ y, f.EnteredIn i x calls y ∧ f.declaration i y = call) fs
      (calls.filter HookCall.isDeclaration) := by
  apply List.forall₂_of_length_eq_of_get
  · rw [← h.count, List.countP_eq_length_filter]
  · intro k hk hk'
    obtain ⟨before, mid, after, hcalls, hcount, hleft⟩ :=
      h.found k (fs.get ⟨k, hk⟩) (List.getElem?_eq_getElem hk)
    refine ⟨_, ⟨before, mid, after, rfl, hcalls, hleft⟩, ?_⟩
    generalize fs.get ⟨k, hk⟩ = f at hcalls
    -- it is declared where `k` functions have been declared before it
    have hplace : (calls.filter HookCall.isDeclaration)[k]? =
        some (f.declaration i (i.replay x before)) := by
      have hcount' : (before ++ .enterFunction f.scopes f.name :: mid).countP
          HookCall.isDeclaration = k := by
        rw [← hcount]
        simp [HookCall.isDeclaration]
      rw [hcalls, ← List.cons_append, ← List.append_assoc, ← hcount']
      exact getElem?_filter_countP rfl _ after
    exact (List.getElem?_eq_some_iff.mp hplace).2.symm

/-- From one state of a run to another the scopes are the same and the functions are recorded. -/
def Goes (i : Interpretation σ) (fs : List FunctionTree) (s s' : State (σ × List HookCall)) :
    Prop :=
  s'.scopes = s.scopes ∧ ∃ calls, s'.inner = (i.replay s.inner.1 calls, s.inner.2 ++ calls) ∧
    Records i s.inner.1 fs calls

theorem Goes.trans {s s' s'' : State (σ × List HookCall)} (h : Goes i fs s s')
    (h' : Goes i gs s' s'') : Goes i (fs ++ gs) s s'' := by
  obtain ⟨hscopes, calls, hinner, hrecords⟩ := h
  obtain ⟨hscopes', calls', hinner', hrecords'⟩ := h'
  rw [hinner] at hinner' hrecords'
  refine ⟨hscopes'.trans hscopes, calls ++ calls', ?_, hrecords.append hrecords'⟩
  rw [hinner', i.replay_append, List.append_assoc]

theorem goes_step {y : Step} (hy : y.isPlain = true) (s : State (σ × List HookCall)) :
    Goes i [] s (step i.recording s y) := by
  have hnone : ∀ {s' : State (σ × List HookCall)}, s'.scopes = s.scopes → s'.inner = s.inner →
      Goes i [] s s' := by
    intro s' hscopes hinner
    refine ⟨hscopes, [], ?_, records_of_none rfl⟩
    rw [hinner, List.append_nil]
    rfl
  have hone : ∀ (call : HookCall) {s' : State (σ × List HookCall)}, call.isDeclaration = false →
      s'.scopes = s.scopes → s'.inner = (i.answer s.inner.1 call, s.inner.2 ++ [call]) →
      Goes i [] s s' := by
    intro call s' hcall hscopes hinner
    refine ⟨hscopes, [call], hinner, records_of_none ?_⟩
    simp [hcall]
  cases y with
  | unknown | drop | copy | join | giveBack => exact hnone rfl rfl
  | read | readAttribute => exact hone (.readVariable _ _ _) rfl rfl rfl
  | bind | bindAttribute | parameter => exact hone (.bindVariable _ _ _ _) rfl rfl rfl
  | useType => exact hone (.useType _ _) rfl rfl rfl
  | call => exact hone (.call _ _ _ _) rfl rfl rfl
  | declareType => exact hone (.declareType _ _) rfl rfl rfl
  | enterType | leaveType | enterFunction | leaveFunction => cases hy

theorem goes_leaveType {name : String} {s s' : State (σ × List HookCall)}
    (h : Goes i fs (step i.recording s (.enterType name)) s') :
    Goes i fs s (step i.recording s' .leaveType) := by
  obtain ⟨hscopes, calls, hinner, hrecords⟩ := h
  exact ⟨congrArg ScopeChain.leave hscopes, calls, hinner, hrecords⟩

/-- A function is left with what it returns itself, whatever the scopes around it return. -/
theorem goes_leaveFunction {f : FunctionTree} {s : State (σ × List HookCall)}
    (hs : s.scopes = f.scopes)
    (h : Goes i fs (step i.recording s (.enterFunction f.name))
      (run i.recording f.code (step i.recording s (.enterFunction f.name)))) :
    Goes i (fs ++ [f]) s (step i.recording
      (run i.recording f.code (step i.recording s (.enterFunction f.name)))
      (.leaveFunction f.name)) := by
  obtain ⟨c, frame, outer, ops, x, record⟩ := s
  obtain rfl : c = f.scopes := hs
  obtain ⟨hscopes, calls, hinner, hrecords⟩ := h
  -- the record of the inner run is known from `h`, its frame from the run without a record
  have hrun := run_unrecorded i f.code
    (step i.recording ⟨f.scopes, frame, outer, ops, x, record⟩ (.enterFunction f.name))
  generalize run i.recording f.code
    (step i.recording ⟨f.scopes, frame, outer, ops, x, record⟩ (.enterFunction f.name)) = s'
    at hscopes hinner hrun ⊢
  have hcode := hrun.trans (f.run_code i (frame :: outer) ops x)
  have hreturns : s'.frame = ⟨f.result i (f.opened i x).2, (f.opened i x).1⟩ :=
    congrArg State.frame hcode
  have hleft : s'.inner.1 = f.left i (f.opened i x).2 := congrArg State.inner hcode
  have houter : s'.scopes.leave = f.scopes := congrArg ScopeChain.leave hscopes
  have hstep : (step i.recording s' (.leaveFunction f.name)).inner =
      i.recording.declareFunction s'.scopes.leave f.name s'.frame.returns s'.frame.params
        s'.inner := rfl
  refine ⟨houter, _, ?_, hrecords.function f ((congrArg Prod.fst hinner).symm.trans hleft)⟩
  rw [hstep, houter, hreturns, hinner]
  simp [step, State.enter, Interpretation.recording, Interpretation.replay, Interpretation.answer,
    FunctionTree.declaration]

/-- Code that goes through functions makes the requests that declare them. -/
theorem goes_of_encloses {c : ScopeChain} {code : List Step} (h : Encloses c code fs)
    {s : State (σ × List HookCall)} (hs : s.scopes = c) :
    Goes i fs s (run i.recording code s) := by
  induction h generalizing s with
  | nil =>
    refine ⟨rfl, [], ?_, records_of_none rfl⟩
    rw [List.append_nil]
    rfl
  | step hx _ ih =>
    have hstep := goes_step (i := i) hx s
    rw [run_cons]
    exact hstep.trans (ih (hstep.1.trans hs))
  | type name _ _ ihBody ih =>
    have hbody := goes_leaveType (ihBody (s := step i.recording s (.enterType name))
      (congrArg (·.push name .type) hs))
    rw [run_cons, run_append, run_cons]
    exact hbody.trans (ih (hbody.1.trans hs))
  | function f _ _ ihBody ih =>
    have hbody := goes_leaveFunction hs (ihBody (s := step i.recording s (.enterFunction f.name))
      (congrArg (·.push f.name .function) hs))
    have hall := hbody.trans (ih (hbody.1.trans hs))
    rw [List.append_assoc, List.singleton_append] at hall
    rw [run_cons, run_append, run_cons]
    exact hall

end Records

variable {i} in
theorem records_hookCalls (m : SourceModule) (a : σ) :
    Records i a (moduleFunctions m) (hookCalls i m a) := by
  obtain ⟨_, calls, hinner, hrecords⟩ :=
    goes_of_encloses (i := i) (encloses_blockCode m.body (.root m.root))
      (s := .start m.root (a, [])) rfl
  have hcalls : hookCalls i m a = calls := congrArg Prod.snd hinner
  rw [hcalls]
  exact hrecords

/-- Every function of a module is declared once, in the order in which the functions end. What it
returns is passed on: the known ones among the values that the walks of its own return statements
gave in the states in which the run came to them, united in their order. For a lambda it is what the
walk of its body gave. -/
theorem returns_collected_per_function (m : SourceModule) (a : σ) :
    (hookCalls i m a).countP HookCall.isDeclaration = (moduleFunctions m).length ∧
      ∀ k f, (moduleFunctions m)[k]? = some f → ∃ before mid after keys x,
        f.opened i (i.replay a before) = (keys, x) ∧
        i.replay a (before ++ .enterFunction f.scopes f.name :: mid) = f.left i x ∧
        hookCalls i m a = before ++ .enterFunction f.scopes f.name ::
          (mid ++ .declareFunction f.scopes f.name
            (collected ((f.returned i x).map fun r => (walkExpr i f.inside r.2 r.1).1)) keys ::
            after) ∧
        (before ++ mid).countP HookCall.isDeclaration = k ∧
        (f.returned i x).map Prod.fst = f.ownReturns ∧
        ∀ e, f.body = .value e →
          collected ((f.returned i x).map fun r => (walkExpr i f.inside r.2 r.1).1) =
            (walkExpr i f.inside x e).1 := by
  have hrecords := records_hookCalls (i := i) m a
  refine ⟨hrecords.count, fun k f hf => ?_⟩
  obtain ⟨before, mid, after, hcalls, hcount, hleft⟩ := hrecords.found k f hf
  refine ⟨before, mid, after, _, _, rfl, hleft, hcalls, hcount, f.map_fst_returned i _, ?_⟩
  intro e he
  exact FunctionTree.result_of_value i he _

/-- Takes every name for a value of its own. -/
def naming : Interpretation Unit where
  readVariable _ name _ _ := (some (.ofList [.type name]), ())

def sellParams : Parameters Expr := ⟨[⟨"order", none, none⟩], none, [], none⟩

/-- Besides its own return statements it holds those of an inner function, of a class and of a
lambda. -/
def sellBody : List Stmt :=
  [.functionDef "price" ⟨[], none, [], none⟩ none [.return (some (.name "tax"))],
   .if (.name "order") [.return (some (.name "crate"))] [.return none],
   .classDef "Shelf" [] [.return (some (.name "shelf"))],
   .assign [.name "pick"] (.lambda ⟨8, 11⟩ ⟨[], none, [], none⟩ (.name "item")),
   .return (some (.name "chest"))]

def salesFile : SourceModule := ⟨"shop.py", "shop", [.functionDef "sell" sellParams none sellBody]⟩

theorem sell_returns_its_own :
    (moduleFunctions salesFile)[2]? =
        some ⟨.root "shop", "sell", sellParams, .statements sellBody⟩ ∧
      .declareFunction (.root "shop") "sell" (some (.ofList [.type "crate", .type "chest"])) [] ∈
        hookCalls naming salesFile () := by
  obtain ⟨_, hdeclared⟩ := returns_collected_per_function naming salesFile ()
  obtain ⟨before, mid, after, keys, x, hopened, _, hcalls, _⟩ := hdeclared 2 _ rfl
  obtain ⟨rfl, rfl⟩ := Prod.mk.inj hopened
  refine ⟨rfl, ?_⟩
  rw [hcalls]
  exact List.mem_append_right _ (List.mem_cons_of_mem _
    (List.mem_append_right _ List.mem_cons_self))

end NameFlow.Flow
