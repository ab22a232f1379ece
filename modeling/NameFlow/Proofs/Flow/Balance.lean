import NameFlow.Flow.Identifiers
import NameFlow.Proofs.Flow.Constraints
import NameFlow.Proofs.Flow.Walk

/-!
# Balanced code

A run is total: where a step finds no scope to leave, no frame to go back to or no operand to
take, it goes on with what there is. A strict run stops there with a fault, and its hooks ask for
a member key in a way that is refused outside of a class body. The code of a tree is balanced: it
leaves the scopes that it has entered and takes the operands that it has put. No strict run of it
meets a fault, whatever the tree and the state it starts in.
-/

namespace NameFlow.Flow

set_option autoImplicit false

open Python

universe u

section Loads

/-- How many operands a step takes off the stack. -/
def Step.takes : Step → Nat
  | .drop | .copy | .readAttribute _ | .bind _ | .giveBack => 1
  | .join | .bindAttribute _ => 2
  | .call arity names => 1 + arity + names.length
  | _ => 0

/-- How many operands a step puts in their place. -/
def Step.puts : Step → Nat
  | .unknown | .join | .read _ | .readAttribute _ | .call _ _ => 1
  | .copy => 2
  | _ => 0

/-- What a code can rely on: scopes that it has entered itself, and operands. -/
structure Load where
  scopes : Nat
  operands : Nat

/-- The load after a step, unless the step needs more than there is. -/
def Load.step (l : Load) (x : Step) : Option Load :=
  if l.operands < x.takes then none
  else match x with
    | .enterType _ | .enterFunction _ => some ⟨l.scopes + 1, l.operands⟩
    | .leaveType | .leaveFunction _ => if l.scopes = 0 then none else some ⟨l.scopes - 1, l.operands⟩
    | _ => some ⟨l.scopes, l.operands - x.takes + x.puts⟩

def Load.run (l : Load) (code : List Step) : Option Load := code.foldlM Load.step l

/-- The steps that go back to the scope around. -/
def Step.leaves : Step → Bool
  | .leaveType | .leaveFunction _ => true
  | _ => false

/-- The steps that change the scope. -/
def Step.moves : Step → Bool
  | .enterType _ | .enterFunction _ | .leaveType | .leaveFunction _ => true
  | _ => false

namespace Load

theorem takes_le {l l' : Load} {x : Step} (h : l.step x = some l') : x.takes ≤ l.operands := by
  unfold Load.step at h
  split at h
  · cases h
  · omega

theorem scopes_ne_zero {l l' : Load} {x : Step} (h : l.step x = some l') (hx : x.leaves = true) :
    l.scopes ≠ 0 := by
  intro hzero
  cases x with
  | leaveType | leaveFunction name => simp [Load.step, hzero] at h
  | _ => cases hx

theorem step_of_stays {l : Load} {x : Step} (hx : x.moves = false) (h : x.takes ≤ l.operands) :
    l.step x = some ⟨l.scopes, l.operands - x.takes + x.puts⟩ := by
  unfold Load.step
  rw [if_neg (Nat.not_lt.mpr h)]
  cases x with
  | enterType | enterFunction | leaveType | leaveFunction => cases hx
  | _ => rfl

variable (n k : Nat) (name : String)

@[simp] theorem run_nil (l : Load) : l.run [] = some l := rfl

@[simp] theorem run_cons (l : Load) (x : Step) (code : List Step) :
    l.run (x :: code) = (l.step x).bind fun l => l.run code := List.foldlM_cons

@[simp] theorem run_append (l : Load) (code code' : List Step) :
    l.run (code ++ code') = (l.run code).bind fun l => l.run code' := List.foldlM_append

@[simp] theorem step_unknown : Load.step ⟨n, k⟩ .unknown = some ⟨n, k + 1⟩ := rfl

@[simp] theorem step_drop : Load.step ⟨n, k + 1⟩ .drop = some ⟨n, k⟩ :=
  step_of_stays rfl (Nat.le_add_left 1 k)

@[simp] theorem step_copy : Load.step ⟨n, k + 1⟩ .copy = some ⟨n, k + 2⟩ :=
  step_of_stays rfl (Nat.le_add_left 1 k)

@[simp] theorem step_join : Load.step ⟨n, k + 1 + 1⟩ .join = some ⟨n, k + 1⟩ :=
  step_of_stays rfl (Nat.le_add_left 2 k)

@[simp] theorem step_read : Load.step ⟨n, k⟩ (.read name) = some ⟨n, k + 1⟩ := rfl

@[simp] theorem step_readAttribute :
    Load.step ⟨n, k + 1⟩ (.readAttribute name) = some ⟨n, k + 1⟩ :=
  step_of_stays rfl (Nat.le_add_left 1 k)

@[simp] theorem step_useType : Load.step ⟨n, k⟩ (.useType name) = some ⟨n, k⟩ := rfl

@[simp] theorem step_bind : Load.step ⟨n, k + 1⟩ (.bind name) = some ⟨n, k⟩ :=
  step_of_stays rfl (Nat.le_add_left 1 k)

@[simp] theorem step_bindAttribute :
    Load.step ⟨n, k + 1 + 1⟩ (.bindAttribute name) = some ⟨n, k⟩ :=
  step_of_stays rfl (Nat.le_add_left 2 k)

@[simp] theorem step_parameter : Load.step ⟨n, k⟩ (.parameter name) = some ⟨n, k⟩ := rfl

@[simp] theorem step_call (arity : Nat) (names : List String) :
    Load.step ⟨n, k + 1 + arity + names.length⟩ (.call arity names) = some ⟨n, k + 1⟩ := by
  have hkept : 1 + arity + names.length ≤ k + 1 + arity + names.length := by omega
  have hrest : k + 1 + arity + names.length - (1 + arity + names.length) + 1 = k + 1 := by omega
  have hstep : Load.step ⟨n, k + 1 + arity + names.length⟩ (.call arity names) =
      some ⟨n, k + 1 + arity + names.length - (1 + arity + names.length) + 1⟩ :=
    step_of_stays rfl hkept
  rw [hstep, hrest]

@[simp] theorem step_giveBack : Load.step ⟨n, k + 1⟩ .giveBack = some ⟨n, k⟩ :=
  step_of_stays rfl (Nat.le_add_left 1 k)

@[simp] theorem step_declareType : Load.step ⟨n, k⟩ (.declareType name) = some ⟨n, k⟩ := rfl

@[simp] theorem step_enterType : Load.step ⟨n, k⟩ (.enterType name) = some ⟨n + 1, k⟩ := rfl

@[simp] theorem step_enterFunction :
    Load.step ⟨n, k⟩ (.enterFunction name) = some ⟨n + 1, k⟩ := rfl

@[simp] theorem step_leaveType : Load.step ⟨n + 1, k⟩ .leaveType = some ⟨n, k⟩ := rfl

@[simp] theorem step_leaveFunction :
    Load.step ⟨n + 1, k⟩ (.leaveFunction name) = some ⟨n, k⟩ := rfl

theorem run_parameters (ps : List (Parameter Expr)) :
    Load.run ⟨n, k⟩ (ps.map (.parameter ·.name)) = some ⟨n, k⟩ := by
  induction ps with
  | nil => rfl
  | cons p ps ih => simp [ih]

theorem run_parameterNames (params : Parameters Expr) :
    Load.run ⟨n, k⟩ (parameterNames params) = some ⟨n, k⟩ := by
  obtain ⟨positional, vararg, keywordOnly, kwarg⟩ := params
  unfold parameterNames
  cases vararg <;> cases kwarg <;> simp [run_parameters]

end Load

theorem keywordNames_cons (arg : Option String) (value : Expr) (ks : List (Keyword Expr)) :
    keywordNames (⟨arg, value⟩ :: ks) = arg.toList ++ keywordNames ks := by
  cases arg <;> rfl

/-- What the code of a phrase needs and leaves. An expression puts its value, arguments put one value
each if they are kept, and a target takes the value that it is bound to. -/
abbrev Phrase.Loads : Phrase → Prop
  | .value e => ∀ n k, Load.run ⟨n, k⟩ (exprCode e) = some ⟨n, k + 1⟩
  | .arguments es => ∀ n k, Load.run ⟨n, k⟩ (argumentsCode es) = some ⟨n, k + es.length⟩
  | .keywords ks => ∀ n k,
      Load.run ⟨n, k⟩ (keywordsCode ks) = some ⟨n, k + (keywordNames ks).length⟩
  | .target e => ∀ n k, Load.run ⟨n, k + 1⟩ (targetCode e) = some ⟨n, k⟩
  | p => ∀ n k, Load.run ⟨n, k⟩ p.code = some ⟨n, k⟩

theorem Phrase.loads (p : Phrase) : p.Loads := by
  have h := p.built
  induction h with
  | @comprehension kind _ _ _ _ _ _ ih ih' ih'' =>
    intro n k
    by_cases hk : kind = .dict <;> simp [exprCode, hk, ih, ih', ih'']
  | argumentsCons _ _ ih ih' =>
    intro n k
    simp [argumentsCode, ih, ih', Nat.add_assoc, Nat.add_comm 1]
  | @keywordsCons arg _ _ _ _ ih ih' =>
    intro n k
    cases arg <;>
      simp [keywordsCode, keywordNames_cons, ih, ih', Nat.add_assoc, Nat.add_comm 1]
  | targetOther h =>
    intro n k
    simp [targetCode_of_not_isTarget h]
  | typeOther h =>
    intro n k
    simp [typeCode_of_not_isType h]
  | constant | name | valuesNil | valueNone | keysNil | argumentsNil | keywordsNil | generatorsNil
  | initialsNil | targetsNil | typeName | typesNil | typeNone => exact fun _ _ => rfl
  | targetName => exact fun n k => Load.step_bind n k _
  | unaryOp _ ih | await _ ih | yieldFrom _ ih | formattedValue _ ih | attr _ ih | starred _ ih
  | boolOp _ ih | set _ ih | joinedStr _ ih | list _ ih | tuple _ ih | yield _ ih
  | valueSome _ ih =>
    intro n k
    simp [exprCode, evaluate?, ih]
  | targetTuple _ ih | targetList _ ih | targetStarred _ ih | targetAttribute _ ih
  | typeTuple _ ih | typeList _ ih | typeAttribute _ ih | typeSome _ ih =>
    intro n k
    simp [targetCode, typeCode, typeCode?, ih]
  | binOp _ _ ih ih' | lambda _ _ ih ih' | namedExpr _ _ ih ih' | dict _ _ ih ih'
  | compare _ _ ih ih' | subscript _ _ ih ih' =>
    intro n k
    simp [exprCode, ih, ih']
  | valuesCons _ _ ih ih' | keysCons _ _ ih ih' | parameters _ _ ih ih'
  | targetSubscript _ _ ih ih' | targetsCons _ _ ih ih' | typeSubscript _ _ ih ih'
  | typesCons _ _ ih ih' =>
    intro n k
    simp [evaluateAll, evaluateKeys, parametersCode, Load.run_parameterNames, targetCode,
      targetsCode, typeCode, typesCode, ih, ih']
  | ifExp _ _ _ ih ih' ih'' | call _ _ _ ih ih' ih'' | slice _ _ _ ih ih' ih''
  | initialsCons _ _ _ ih ih' ih'' =>
    intro n k
    simp [exprCode, initialsCode, ih, ih', ih'']
  | generatorsCons _ _ _ _ ih ih' ih'' ih3 =>
    intro n k
    simp [generatorsCode, ih, ih', ih'', ih3]

theorem load_exprCode (e : Expr) : ∀ n k, Load.run ⟨n, k⟩ (exprCode e) = some ⟨n, k + 1⟩ :=
  Phrase.loads (.value e)

theorem load_evaluate? (e : Option Expr) : ∀ n k, Load.run ⟨n, k⟩ (evaluate? e) = some ⟨n, k⟩ :=
  Phrase.loads (.value? e)

theorem load_targetCode (e : Expr) : ∀ n k, Load.run ⟨n, k + 1⟩ (targetCode e) = some ⟨n, k⟩ :=
  Phrase.loads (.target e)

theorem load_typeCode (e : Expr) : ∀ n k, Load.run ⟨n, k⟩ (typeCode e) = some ⟨n, k⟩ :=
  Phrase.loads (.type e)

theorem load_typeCode? (e : Option Expr) : ∀ n k, Load.run ⟨n, k⟩ (typeCode? e) = some ⟨n, k⟩ :=
  Phrase.loads (.type? e)

theorem load_assignCode (targets : List Expr) (n k : Nat) :
    Load.run ⟨n, k + 1⟩ (assignCode targets) = some ⟨n, k⟩ := by
  have htargets : Load.run ⟨n, k + 1⟩ (targets.flatMap fun target => .copy :: targetCode target) =
      some ⟨n, k + 1⟩ := by
    induction targets with
    | nil => rfl
    | cons target targets ih => simp [load_targetCode target n (k + 1), ih]
  simp [assignCode, htargets]

theorem load_withItems (items : List WithItem) (n k : Nat) :
    Load.run ⟨n, k⟩ (items.flatMap withItemCode) = some ⟨n, k⟩ := by
  induction items with
  | nil => rfl
  | cons item items ih =>
    obtain ⟨context, target⟩ := item
    cases target <;> simp [withItemCode, load_exprCode, load_targetCode, ih]

/-- A statement leaves no operand behind. -/
theorem Clause.loads (q : Clause) : ∀ n k, Load.run ⟨n, k⟩ q.code = some ⟨n, k⟩ := by
  have h := q.built
  induction h with
  | functionDef _ ih | classDef _ ih | withStmt _ ih =>
    intro n k
    simp [stmtCode, load_typeCode?, Phrase.loads (.parameters _), Phrase.loads (.types _),
      load_withItems, ih]
  | forStmt _ _ ih ih' | whileStmt _ _ ih ih' | ifStmt _ _ ih ih' =>
    intro n k
    simp [stmtCode, load_exprCode, load_targetCode, ih, ih']
  | tryStmt _ _ _ _ ih ih' ih'' ih3 =>
    intro n k
    simp [stmtCode, ih, ih', ih'', ih3]
  | returnNone | opaqueStmt | blockNil | handlersNil => exact fun _ _ => rfl
  | returnSome | delete | assign | augAssign | annAssignNone | annAssignSome | raise | assert
  | expr =>
    intro n k
    simp [stmtCode, load_exprCode, load_evaluate?, load_targetCode, load_typeCode,
      load_assignCode, Phrase.loads (.values _)]
  | blockCons _ _ ih ih' =>
    intro n k
    simp [blockCode, ih, ih']
  | @handlersCons _ name _ _ _ _ ih ih' =>
    intro n k
    cases name <;> simp [handlersCode, load_typeCode?, ih, ih']

theorem load_stmtCode (st : Stmt) : ∀ n k, Load.run ⟨n, k⟩ (stmtCode st) = some ⟨n, k⟩ :=
  Clause.loads (.statement st)

theorem load_blockCode (ss : List Stmt) : ∀ n k, Load.run ⟨n, k⟩ (blockCode ss) = some ⟨n, k⟩ :=
  Clause.loads (.block ss)

end Loads

section Strict

variable {σ : Type u}

/-- What stops a strict run. -/
inductive Fault
  | scope (error : ScopeError)
  | noFrame
  | noOperand
deriving DecidableEq, Repr

/-- An interpretation whose answers may depend on a key that is refused. -/
structure StrictInterpretation (σ : Type u) where
  declareType : ScopeChain → String → σ → Except ScopeError σ
  enterFunction : ScopeChain → String → σ → Except ScopeError σ
  declareFunction : ScopeChain → String → Option ValueSet → List String → σ → Except ScopeError σ
  bindVariable : ScopeChain → String → Site → Option ValueSet → σ →
    Except ScopeError (Option String × σ)
  useType : ScopeChain → String → σ → Except ScopeError σ
  call : ScopeChain → Option ValueSet → List (Option ValueSet) →
    List (String × Option ValueSet) → σ → Except ScopeError (Option ValueSet × σ)
  readVariable : ScopeChain → String → Site → σ → Except ScopeError (Option ValueSet × σ)

/-- An interpretation that asks for no member key is never refused one. -/
def Interpretation.strict (i : Interpretation σ) : StrictInterpretation σ where
  declareType c name x := .ok (i.declareType c name x)
  enterFunction c name x := .ok (i.enterFunction c name x)
  declareFunction c name returns params x := .ok (i.declareFunction c name returns params x)
  bindVariable c name site incoming x := .ok (i.bindVariable c name site incoming x)
  useType c name x := .ok (i.useType c name x)
  call c callee args named x := .ok (i.call c callee args named x)
  readVariable c name site x := .ok (i.readVariable c name site x)

/-- Both scope and frame have to be there. -/
def State.strictLeave (s : State σ) : Except Fault (State σ) :=
  match s.scopes.pop, s.outerFrames with
  | .error e, _ => .error (.scope e)
  | .ok _, [] => .error .noFrame
  | .ok (_, around), frame :: outer =>
    .ok { s with scopes := around, frame := frame, outerFrames := outer }

variable (g : StrictInterpretation σ)

def strictStep (s : State σ) (x : Step) : Except Fault (State σ) :=
  if s.operands.length < x.takes then .error .noOperand
  else match x with
    | .unknown => .ok (s.put none)
    | .drop => .ok s.pop
    | .copy => .ok (s.put s.top)
    | .join => .ok (s.pop.pop.put (joinKnown s.pop.top s.top))
    | .read name => do
      let (v, inner) ← (g.readVariable s.scopes name .lexical s.inner).mapError .scope
      return { s with inner }.put v
    | .readAttribute name => do
      let (v, inner) ← (g.readVariable s.scopes name (.attribute s.top) s.inner).mapError .scope
      return { s.pop with inner }.put v
    | .useType name => do
      let inner ← (g.useType s.scopes name s.inner).mapError .scope
      return { s with inner }
    | .bind name => do
      let (_, inner) ← (g.bindVariable s.scopes name .lexical s.top s.inner).mapError .scope
      return { s.pop with inner }
    | .bindAttribute name => do
      let (_, inner) ←
        (g.bindVariable s.scopes name (.attribute s.top) s.pop.top s.inner).mapError .scope
      return { s.pop.pop with inner }
    | .parameter name => do
      let (key, inner) ← (g.bindVariable s.scopes name .lexical none s.inner).mapError .scope
      return { s with inner, frame := { s.frame with params := s.frame.params ++ key.toList } }
    | .call arity names => do
      let named := (s.operands.take names.length).reverse
      let rest := s.operands.drop names.length
      let args := (rest.take arity).reverse
      let rest := rest.drop arity
      let (v, inner) ←
        (g.call s.scopes rest.head?.join args (names.zip named) s.inner).mapError .scope
      return { s with inner, operands := v :: rest.tail }
    | .giveBack =>
      .ok { s.pop with frame := { s.frame with returns := joinKnown s.frame.returns s.top } }
    | .declareType name => do
      let inner ← (g.declareType s.scopes name s.inner).mapError .scope
      return { s with inner }
    | .enterType name => .ok (s.enter name .type)
    | .leaveType => s.strictLeave
    | .enterFunction name => do
      let inner ← (g.enterFunction s.scopes name s.inner).mapError .scope
      return { s with inner }.enter name .function
    | .leaveFunction name => do
      let s' ← s.strictLeave
      let inner ← (g.declareFunction s'.scopes name s.frame.returns s.frame.params
        s'.inner).mapError .scope
      return { s' with inner }

/-- Takes steps one after another, up to the first fault. -/
def strictRun (code : List Step) (s : State σ) : Except Fault (State σ) :=
  code.foldlM (strictStep g) s

example : strictRun identification.strict [.enterType "C", .leaveType, .leaveType]
    (.start "m" #[]) = .error (.scope (.leftRoot "m")) := rfl

/-- No hook is refused, and each answers as the interpretation does. -/
structure Agrees (i : Interpretation σ) : Prop where
  declareType : ∀ c name x, g.declareType c name x = .ok (i.declareType c name x)
  enterFunction : ∀ c name x, g.enterFunction c name x = .ok (i.enterFunction c name x)
  declareFunction : ∀ c name returns params x,
    g.declareFunction c name returns params x = .ok (i.declareFunction c name returns params x)
  bindVariable : ∀ c name site incoming x,
    g.bindVariable c name site incoming x = .ok (i.bindVariable c name site incoming x)
  useType : ∀ c name x, g.useType c name x = .ok (i.useType c name x)
  call : ∀ c callee args named x, g.call c callee args named x = .ok (i.call c callee args named x)
  readVariable : ∀ c name site x, g.readVariable c name site x = .ok (i.readVariable c name site x)

theorem agrees_strict (i : Interpretation σ) : Agrees i.strict i := by
  constructor <;> intros <;> rfl

/-- A state has what a load counts. -/
structure Bears (s : State σ) (l : Load) : Prop where
  scopes : l.scopes ≤ s.scopes.depth
  frames : l.scopes ≤ s.outerFrames.length
  operands : l.operands ≤ s.operands.length

theorem strictLeave_eq {s : State σ} {l : Load} (hs : Bears s l) (hl : l.scopes ≠ 0) :
    s.strictLeave = .ok s.leave := by
  obtain ⟨⟨current, outer⟩, frame, frames, ops, x⟩ := s
  obtain ⟨hscopes, hframes, _⟩ := hs
  cases outer with
  | nil => exact absurd (Nat.le_zero.1 hscopes) hl
  | cons around outer =>
    cases frames with
    | nil => exact absurd (Nat.le_zero.1 hframes) hl
    | cons saved frames => rfl

theorem Bears.leave {s : State σ} {l : Load} (hs : Bears s l) :
    Bears s.leave ⟨l.scopes - 1, l.operands⟩ := by
  obtain ⟨⟨current, outer⟩, frame, frames, ops, x⟩ := s
  obtain ⟨hscopes, hframes, hoperands⟩ := hs
  refine ⟨?_, ?_, hoperands⟩
  · cases outer with
    | nil => exact Nat.le_trans (Nat.sub_le _ _) hscopes
    | cons around outer => exact Nat.sub_le_of_le_add hscopes
  · cases frames with
    | nil => exact Nat.le_trans (Nat.sub_le _ _) hframes
    | cons saved frames => exact Nat.sub_le_of_le_add hframes

/-- The load after a step holds of the state after it. -/
theorem Bears.step (i : Interpretation σ) {s : State σ} {l l' : Load} (hs : Bears s l) {x : Step}
    (hl : l.step x = some l') : Bears (Flow.step i s x) l' := by
  have hoperands := hs.operands
  have htakes := Load.takes_le hl
  unfold Load.step at hl
  rw [if_neg (Nat.not_lt.2 htakes)] at hl
  cases x with
  | enterType name | enterFunction name =>
    cases hl
    exact ⟨Nat.succ_le_succ hs.scopes, Nat.succ_le_succ hs.frames, hoperands⟩
  | leaveType | leaveFunction name =>
    obtain ⟨_, hafter⟩ := Option.ite_none_left_eq_some.1 hl
    cases hafter
    exact ⟨hs.leave.scopes, hs.leave.frames, hs.leave.operands⟩
  | _ =>
    cases hl
    refine ⟨hs.scopes, hs.frames, ?_⟩
    simp only [Step.takes] at htakes
    simp [Flow.step, State.put, State.pop, Step.takes, Step.puts]
    omega

variable {g} {i : Interpretation σ}

/-- A step that the load allows meets no fault. -/
theorem strictStep_eq (hg : Agrees g i) {s : State σ} {l l' : Load} (hs : Bears s l) {x : Step}
    (hl : l.step x = some l') : strictStep g s x = .ok (step i s x) := by
  have htakes : x.takes ≤ s.operands.length := Nat.le_trans (Load.takes_le hl) hs.operands
  unfold strictStep
  rw [if_neg (Nat.not_lt.2 htakes)]
  cases x with
  | unknown | drop | copy | join | giveBack | enterType name => rfl
  | read name | readAttribute name =>
    simp only [hg.readVariable]
    rfl
  | bind name | bindAttribute name | parameter name =>
    simp only [hg.bindVariable]
    rfl
  | useType name =>
    simp only [hg.useType]
    rfl
  | call arity names =>
    simp only [hg.call]
    rfl
  | declareType name =>
    simp only [hg.declareType]
    rfl
  | enterFunction name =>
    simp only [hg.enterFunction]
    rfl
  | leaveType => exact strictLeave_eq hs (Load.scopes_ne_zero hl rfl)
  | leaveFunction name =>
    simp only [strictLeave_eq hs (Load.scopes_ne_zero hl rfl), hg.declareFunction]
    rfl

theorem strictRun_eq (hg : Agrees g i) {code : List Step} {s : State σ} {l l' : Load}
    (hs : Bears s l) (hl : l.run code = some l') : strictRun g code s = .ok (run i code s) := by
  induction code generalizing s l with
  | nil => rfl
  | cons x code ih =>
    obtain ⟨after, hx, hcode⟩ := Option.bind_eq_some_iff.1 (Load.run_cons l x code ▸ hl)
    have hrest := ih (hs.step i hx) hcode
    unfold strictRun at hrest ⊢
    rw [List.foldlM_cons, strictStep_eq hg hs hx]
    exact hrest

end Strict

section Members

namespace Definition

/-- The member key is asked for in class bodies only. -/
def State.strictRecordMember (s : State) (scopes : ScopeChain) (name : String)
    (value : Option Value) : Except ScopeError State :=
  if scopes.current.kind = .type then do
    let key ← scopes.memberKeyOrError name
    return s.record key value
  else return s

def strictDeclareFunction (scopes : ScopeChain) (name : String) (returns : Option ValueSet)
    (params : List String) (s : State) : Except ScopeError State := do
  let f : FunctionValue :=
    ⟨scopes.path, scopes.current.name, scopes.current.kind, name, params⟩
  let s := { s with table := (s.table.recordReturns f returns).recordSignature f }
  let s ← (s.record (scopes.key name) (some (.function f))).strictRecordMember scopes name
    (some (.function f))
  return s.emit .functionDefined name

def strictBindVariable (scopes : ScopeChain) (name : String) (site : Site) (s : State) :
    Except ScopeError (Option String × State) :=
  let s := s.emit .variableDefined name
  match site with
  | .lexical => do
    let s ← (s.record (scopes.key name) (receiver scopes name)).strictRecordMember scopes name none
    return (some (scopes.key name), s)
  | .attribute owner =>
    return (none, (owner.getD ∅).types.foldl (fun s type => s.record (memberKey type name) none) s)

theorem strictRecordMember_eq (s : State) (scopes : ScopeChain) (name : String)
    (value : Option Value) :
    s.strictRecordMember scopes name value = .ok (s.recordMember scopes name value) := by
  unfold State.strictRecordMember State.recordMember ScopeChain.memberKeyOrError
    ScopeChain.memberKey?
  cases hkind : scopes.current.kind <;> rfl

end Definition

def strictDefinition : StrictInterpretation Definition.State :=
  { definition.strict with
    declareFunction := Definition.strictDeclareFunction
    bindVariable := fun scopes name site _ s => Definition.strictBindVariable scopes name site s }

theorem agrees_definition : Agrees strictDefinition definition where
  __ := agrees_strict definition
  declareFunction c name returns params s := by
    simp only [strictDefinition, Definition.strictDeclareFunction,
      Definition.strictRecordMember_eq]
    rfl
  bindVariable c name site incoming s := by
    match site with
    | .lexical =>
      simp only [strictDefinition, Definition.strictBindVariable, Definition.strictRecordMember_eq]
      rfl
    | .attribute owner => rfl

namespace Resolution

def strictBindLexical (scopes : ScopeChain) (name : String) (incoming : ValueSet) (s : State) :
    Except ScopeError (Option String × State) :=
  match (scopes.lexicalKeys name).find? s.table.contains with
  | none => return (none, s)
  | some key =>
    let s := (s.merge key incoming).emit .assigned name
    if scopes.current.kind = .type then do
      let member ← scopes.memberKeyOrError name
      return (some key, if s.table.contains member then s.merge member incoming else s)
    else return (some key, s)

def strictBindVariable (scopes : ScopeChain) (name : String) (site : Site)
    (incoming : Option ValueSet) (s : State) : Except ScopeError (Option String × State) :=
  match incoming, site with
  | none, _ => return (none, s)
  | some incoming, .attribute owner => return bindAttribute owner name incoming s
  | some incoming, .lexical => strictBindLexical scopes name incoming s

theorem strictBindLexical_eq (scopes : ScopeChain) (name : String) (incoming : ValueSet)
    (s : State) :
    strictBindLexical scopes name incoming s = .ok (bindLexical scopes name incoming s) := by
  unfold strictBindLexical bindLexical ScopeChain.memberKeyOrError ScopeChain.memberKey?
  cases (scopes.lexicalKeys name).find? s.table.contains with
  | none => rfl
  | some key => cases hkind : scopes.current.kind <;> rfl

end Resolution

def strictResolution : StrictInterpretation Resolution.State :=
  { resolution.strict with bindVariable := Resolution.strictBindVariable }

theorem agrees_resolution : Agrees strictResolution resolution where
  __ := agrees_strict resolution
  bindVariable c name site incoming s := by
    cases incoming with
    | none => rfl
    | some incoming =>
      match site with
      | .lexical => exact Resolution.strictBindLexical_eq c name incoming s
      | .attribute owner => rfl

end Members

section Returns

variable {σ : Type u} (i : Interpretation σ)

/-- One set joins in for each expression, a value that its walk gives. -/
def Contributes (c : ScopeChain) (es : List Expr) (before after : Option ValueSet) : Prop :=
  ∃ values, List.Forall₂ (fun e v => ∃ x, (walkExpr i c x e).1 = v) es values ∧
    after = values.foldl joinKnown before

variable {i} {c : ScopeChain} {before between after : Option ValueSet}

theorem Contributes.nil (v : Option ValueSet) : Contributes i c [] v v := ⟨[], .nil, rfl⟩

theorem Contributes.append {es es' : List Expr} (h : Contributes i c es before between)
    (h' : Contributes i c es' between after) : Contributes i c (es ++ es') before after := by
  obtain ⟨values, hvalues, rfl⟩ := h
  obtain ⟨values', hvalues', rfl⟩ := h'
  refine ⟨values ++ values', List.rel_append hvalues hvalues', ?_⟩
  rw [List.foldl_append]

variable (i)

theorem Clause.contributes (q : Clause) : ∀ c r, Contributes i c q.returns r.1 (q.after i c r).1 := by
  have h := q.built
  induction h with
  | @returnSome e =>
    intro c r
    exact ⟨[(walkExpr i c r.2 e).1], .cons ⟨r.2, rfl⟩ .nil, rfl⟩
  | forStmt _ _ ih ih' | whileStmt _ _ ih ih' | ifStmt _ _ ih ih' | blockCons _ _ ih ih'
  | handlersCons _ _ ih ih' =>
    intro c r
    refine .append ?_ (ih' c _)
    exact ih c _
  | withStmt _ ih =>
    intro c r
    exact ih c _
  | tryStmt _ _ _ _ ih ih' ih'' ih3 =>
    intro c r
    exact (((ih c _).append (ih' c _)).append (ih'' c _)).append (ih3 c _)
  | _ => exact fun c r => .nil r.1

end Returns

section Balanced

variable {σ : Type u}

/-- Both runs end, without a fault, in the same state. -/
def Ends (g : StrictInterpretation σ) (i : Interpretation σ) (code : List Step)
    (s s' : State σ) : Prop :=
  strictRun g code s = .ok s' ∧ run i code s = s'

/-- Where the walks of trees end. Scopes and outer frames are always those of the start, and only
the returns of the scope itself add to what it returns. -/
structure Balanced (g : StrictInterpretation σ) (i : Interpretation σ) : Prop where
  expr : ∀ (e : Expr) (s : State σ), ∃ v x,
    Ends g i (exprCode e) s { s with operands := v :: s.operands, inner := x }
  target : ∀ (e : Expr) (v : Option ValueSet) (s : State σ), ∃ x,
    Ends g i (targetCode e) (s.put v) { s with inner := x }
  type : ∀ (e : Expr) (s : State σ), ∃ x, Ends g i (typeCode e) s { s with inner := x }
  stmt : ∀ (st : Stmt) (s : State σ), ∃ r x,
    Ends g i (stmtCode st) s { s with frame := { s.frame with returns := r }, inner := x } ∧
      Contributes i s.scopes (stmtReturns st) s.frame.returns r
  module : ∀ (m : SourceModule) (x : σ), ∃ s',
    Ends g i (blockCode m.body) (.start m.root x) s' ∧
      s'.scopes = .root m.root ∧ s'.scopes.depth = 0 ∧ s'.outerFrames = [] ∧ s'.operands = [] ∧
      s'.inner = runModule i m x ∧
      Contributes i (.root m.root) (blockReturns m.body) none s'.frame.returns

variable {g : StrictInterpretation σ} {i : Interpretation σ}

theorem Agrees.ends (hg : Agrees g i) {code : List Step} {s s' : State σ} {l l' : Load}
    (hs : Bears s l) (hl : l.run code = some l') (hrun : run i code s = s') :
    Ends g i code s s' := by
  refine ⟨?_, hrun⟩
  rw [strictRun_eq hg hs hl, hrun]

theorem bears_empty (s : State σ) : Bears s ⟨0, 0⟩ :=
  ⟨Nat.zero_le _, Nat.zero_le _, Nat.zero_le _⟩

theorem bears_put (s : State σ) (v : Option ValueSet) : Bears (s.put v) ⟨0, 1⟩ :=
  ⟨Nat.zero_le _, Nat.zero_le _, Nat.succ_le_succ (Nat.zero_le _)⟩

theorem Agrees.balanced (hg : Agrees g i) : Balanced g i where
  expr e s := by
    have hrun := run_exprCode i e s.scopes s.frame s.outerFrames s.operands s.inner
    exact ⟨_, _, hg.ends (bears_empty s) (load_exprCode e 0 0) hrun⟩
  target e v s := by
    have hrun := run_targetCode i e s.scopes s.frame s.outerFrames v s.operands s.inner
    exact ⟨_, hg.ends (bears_put s v) (load_targetCode e 0 0) hrun⟩
  type e s := by
    have hrun := run_typeCode i e s.scopes s.frame s.outerFrames s.operands s.inner
    exact ⟨_, hg.ends (bears_empty s) (load_typeCode e 0 0) hrun⟩
  stmt st s := by
    have hrun := run_stmtCode i st s.scopes s.frame.returns s.frame.params s.outerFrames s.operands
      s.inner
    exact ⟨_, _, hg.ends (bears_empty s) (load_stmtCode st 0 0) hrun,
      Clause.contributes i (.statement st) s.scopes (s.frame.returns, s.inner)⟩
  module m x := by
    have hrun := run_blockCode i m.body (.root m.root) none [] [] [] x
    refine ⟨_, hg.ends (bears_empty _) (load_blockCode m.body 0 0) hrun, rfl, rfl, rfl, rfl, ?_,
      Clause.contributes i (.block m.body) (.root m.root) (none, x)⟩
    exact (runModule_eq i m x).symm

/-- The walks of the definition, of a resolution and of the identifiers meet no fault, whatever the
tree and whatever the table, and end in the scope where they started. -/
theorem balanced_walks :
    Balanced strictDefinition definition ∧ Balanced strictResolution resolution ∧
      Balanced identification.strict identification :=
  ⟨agrees_definition.balanced, agrees_resolution.balanced, (agrees_strict identification).balanced⟩

end Balanced

end NameFlow.Flow
