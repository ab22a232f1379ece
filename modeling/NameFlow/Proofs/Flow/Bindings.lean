import NameFlow.Proofs.Flow.Recording

/-!
# The bindings of a program

The places of a tree that introduce a name: classes, functions and lambdas with their parameters,
plain names that are targets of an assignment, a loop, a with statement, a walrus or an except
clause, and attributes that are targets. What a comprehension or a del statement names is read and
not bound. The requests to declare or bind that a run makes are those of the tree's bindings, and
it makes one for each of them. What it knows of the owner of an attribute is what the evaluation of
the owner gives in the state in which the run comes to the target.
-/

namespace NameFlow.Flow

set_option autoImplicit false

open Python

universe u

/-- A place that introduces a name, with the scopes around it. -/
inductive Binding
  | type (scopes : ScopeChain) (name : String)
  /-- A function or lambda. Its parameters are bound in its own scope. -/
  | function (scopes : ScopeChain) (name : String) (params : Parameters Expr)
  | name (scopes : ScopeChain) (name : String)
  | attribute (scopes : ScopeChain) (owner : Expr) (name : String)

/-- All parameters, the starred ones included. -/
def boundNames (params : Parameters Expr) : List String :=
  params.positional.map (·.name) ++ params.vararg.toList ++ params.keywordOnly.map (·.name) ++
    params.kwarg.toList

/-- The keys of the parameters that receive arguments. -/
def parameterKeys (c : ScopeChain) (params : Parameters Expr) : List String :=
  (params.positional ++ params.keywordOnly).map fun p => c.key p.name

section Trees

mutual

def exprBindings (c : ScopeChain) : Expr → List Binding
  | .boolOp values => allBindings c values
  | .binOp left right => exprBindings c left ++ exprBindings c right
  | .unaryOp operand => exprBindings c operand
  | .lambda position params body =>
    let inner := c.push position.lambdaName .function
    parametersBindings inner params ++ exprBindings inner body ++
      [.function c position.lambdaName params]
  | .ifExp test body orelse => exprBindings c test ++ exprBindings c body ++ exprBindings c orelse
  | .namedExpr target value => exprBindings c value ++ targetBindings c target
  | .dict keys values => keysBindings c keys ++ allBindings c values
  | .set elts => allBindings c elts
  | .comprehension kind element value generators =>
    exprBindings c element ++ (if kind = .dict then optionBindings c value else []) ++
      generatorsBindings c generators
  | .await value => exprBindings c value
  | .yield value => optionBindings c value
  | .yieldFrom value => exprBindings c value
  | .compare left comparators => exprBindings c left ++ allBindings c comparators
  | .call func args keywords =>
    exprBindings c func ++ allBindings c args ++ keywordsBindings c keywords
  | .formattedValue value => exprBindings c value
  | .joinedStr values => allBindings c values
  | .constant => []
  | .attribute value _ => exprBindings c value
  | .subscript value slice => exprBindings c value ++ exprBindings c slice
  | .slice lower upper step =>
    optionBindings c lower ++ optionBindings c upper ++ optionBindings c step
  | .starred value => exprBindings c value
  | .name _ => []
  | .list elts => allBindings c elts
  | .tuple elts => allBindings c elts

def allBindings (c : ScopeChain) : List Expr → List Binding
  | [] => []
  | e :: es => exprBindings c e ++ allBindings c es

def optionBindings (c : ScopeChain) : Option Expr → List Binding
  | none => []
  | some e => exprBindings c e

def keysBindings (c : ScopeChain) : List (Option Expr) → List Binding
  | [] => []
  | k :: ks => optionBindings c k ++ keysBindings c ks

def keywordsBindings (c : ScopeChain) : List (Keyword Expr) → List Binding
  | [] => []
  | ⟨_, value⟩ :: ks => exprBindings c value ++ keywordsBindings c ks

/-- The targets of a comprehension are expressions like others. -/
def generatorsBindings (c : ScopeChain) : List (Generator Expr) → List Binding
  | [] => []
  | ⟨target, iter, ifs⟩ :: gs =>
    exprBindings c target ++ exprBindings c iter ++ allBindings c ifs ++ generatorsBindings c gs

/-- What annotations and initial values bind; the parameters themselves go with their function. -/
def parametersBindings (c : ScopeChain) : Parameters Expr → List Binding
  | ⟨positional, _, keywordOnly, _⟩ => initialsBindings c positional ++ initialsBindings c keywordOnly

def initialsBindings (c : ScopeChain) : List (Parameter Expr) → List Binding
  | [] => []
  | ⟨_, annotation, initial⟩ :: ps =>
    typeBindings? c annotation ++ optionBindings c initial ++ initialsBindings c ps

def targetBindings (c : ScopeChain) : Expr → List Binding
  | .name id => [.name c id]
  | .tuple elts => targetsBindings c elts
  | .list elts => targetsBindings c elts
  | .starred value => targetBindings c value
  | .attribute value attr => exprBindings c value ++ [.attribute c value attr]
  | .subscript value slice => exprBindings c value ++ exprBindings c slice
  | _ => []

def targetsBindings (c : ScopeChain) : List Expr → List Binding
  | [] => []
  | e :: es => targetBindings c e ++ targetsBindings c es

/-- What is bound within an expression that stands for a type. -/
def typeBindings (c : ScopeChain) : Expr → List Binding
  | .tuple elts => typesBindings c elts
  | .list elts => typesBindings c elts
  | .attribute value _ => exprBindings c value
  | .subscript value slice => typeBindings c value ++ typeBindings c slice
  | _ => []

def typesBindings (c : ScopeChain) : List Expr → List Binding
  | [] => []
  | e :: es => typeBindings c e ++ typesBindings c es

def typeBindings? (c : ScopeChain) : Option Expr → List Binding
  | none => []
  | some e => typeBindings c e

end

abbrev Phrase.bindings (c : ScopeChain) : Phrase → List Binding
  | .value e => exprBindings c e
  | .values es => allBindings c es
  | .value? e => optionBindings c e
  | .keys ks => keysBindings c ks
  | .arguments es => allBindings c es
  | .keywords ks => keywordsBindings c ks
  | .generators gs => generatorsBindings c gs
  | .parameters params => parametersBindings c params
  | .initials ps => initialsBindings c ps
  | .target e => targetBindings c e
  | .targets es => targetsBindings c es
  | .type e => typeBindings c e
  | .types es => typesBindings c es
  | .type? e => typeBindings? c e

theorem targetBindings_of_not_isTarget {e : Expr} (h : Phrase.isTarget e = false)
    (c : ScopeChain) : targetBindings c e = [] := by
  cases e <;> first | rfl | cases h

theorem typeBindings_of_not_isType {e : Expr} (h : Phrase.isType e = false) (c : ScopeChain) :
    typeBindings c e = [] := by
  cases e <;> first | rfl | cases h

def itemBindings (c : ScopeChain) (item : WithItem) : List Binding :=
  exprBindings c item.context ++ item.target.toList.flatMap (targetBindings c)

mutual

def stmtBindings (c : ScopeChain) : Stmt → List Binding
  | .functionDef name params returns body =>
    let inner := c.push name .function
    typeBindings? c returns ++ (parametersBindings inner params ++ blockBindings inner body ++
      [.function c name params])
  | .classDef name bases body =>
    .type c name :: (typesBindings c bases ++ blockBindings (c.push name .type) body)
  | .return value => optionBindings c value
  | .delete targets => allBindings c targets
  | .assign targets value => exprBindings c value ++ targets.flatMap (targetBindings c)
  | .augAssign target value => targetBindings c target ++ exprBindings c value
  | .annAssign target annotation value =>
    typeBindings c annotation ++ optionBindings c value ++ targetBindings c target
  | .for target iter body orelse =>
    exprBindings c iter ++ targetBindings c target ++ blockBindings c body ++ blockBindings c orelse
  | .while test body orelse => exprBindings c test ++ blockBindings c body ++ blockBindings c orelse
  | .if test body orelse => exprBindings c test ++ blockBindings c body ++ blockBindings c orelse
  | .with items body => items.flatMap (itemBindings c) ++ blockBindings c body
  | .raise exc cause => optionBindings c exc ++ optionBindings c cause
  | .try body handlers orelse finalbody =>
    blockBindings c body ++ handlersBindings c handlers ++ blockBindings c orelse ++
      blockBindings c finalbody
  | .assert test msg => exprBindings c test ++ optionBindings c msg
  | .expr value => exprBindings c value
  | .opaqueStmt => []

def blockBindings (c : ScopeChain) : List Stmt → List Binding
  | [] => []
  | s :: ss => stmtBindings c s ++ blockBindings c ss

def handlersBindings (c : ScopeChain) : List (Handler Stmt) → List Binding
  | [] => []
  | ⟨type, name, body⟩ :: hs =>
    typeBindings? c type ++ name.toList.map (.name c ·) ++ blockBindings c body ++
      handlersBindings c hs

end

abbrev Clause.bindings (c : ScopeChain) : Clause → List Binding
  | .statement st => stmtBindings c st
  | .block ss => blockBindings c ss
  | .handlers hs => handlersBindings c hs

/-- The bindings of a module, in the order in which a run comes to their ends. -/
def moduleBindings (m : SourceModule) : List Binding := blockBindings (.root m.root) m.body

end Trees

section Accounts

variable {σ : Type u}

/-- An attribute target to which a run comes: the state in which the owner is evaluated, and the
value that the attribute is bound to. -/
structure Arrival (σ : Type u) where
  scopes : ScopeChain
  owner : Expr
  name : String
  state : σ
  value : Option ValueSet

variable (i : Interpretation σ)

namespace Arrival

variable (r : Arrival σ)

def binding : Binding := .attribute r.scopes r.owner r.name

/-- What is known of the owner. -/
def known : Option ValueSet := (walkExpr i r.scopes r.state r.owner).1

def request : HookCall := .bindVariable r.scopes r.name (.attribute (r.known i)) r.value

/-- The requests, made from a state on, lead to the target. Those before it end in the state in
which the owner is evaluated; then come those of the owner and the one that binds the attribute. -/
def On (x : σ) (calls : List HookCall) : Prop :=
  ∃ before after, r.state = i.replay x before ∧
    calls = before ++ (exprCalls i r.scopes r.state r.owner ++ r.request i :: after)

variable {i r} {x : σ} {calls calls' : List HookCall}

theorem On.mem (h : r.On i x calls) : r.request i ∈ calls := by
  obtain ⟨before, after, _, rfl⟩ := h
  simp

theorem On.append (h : r.On i x calls) (calls' : List HookCall) : r.On i x (calls ++ calls') := by
  obtain ⟨before, after, hstate, rfl⟩ := h
  exact ⟨before, after ++ calls', hstate, by simp⟩

theorem On.after (h : r.On i (i.replay x calls) calls') : r.On i x (calls ++ calls') := by
  obtain ⟨before, after, hstate, rfl⟩ := h
  refine ⟨calls ++ before, after, ?_, by simp⟩
  rw [hstate, i.replay_append]

end Arrival

variable (T : Arrival σ → Prop)

/-- The request is one that the binding gives rise to, with the attribute targets to which the run
comes. What it passes comes from the walks of its own parts. -/
inductive Realizes : Binding → HookCall → Prop
  | type (c : ScopeChain) (n : String) : Realizes (.type c n) (.declareType c n)
  | function (c : ScopeChain) (n : String) (params : Parameters Expr) (returns : Option ValueSet)
      (x : σ) :
      Realizes (.function c n params)
        (.declareFunction c n returns (walkNames i (c.push n .function) params x).1)
  | parameter (c : ScopeChain) (n : String) (params : Parameters Expr) (p : String)
      (hp : p ∈ boundNames params) :
      Realizes (.function c n params) (.bindVariable (c.push n .function) p .lexical none)
  | name (c : ScopeChain) (n : String) (v : Option ValueSet) :
      Realizes (.name c n) (.bindVariable c n .lexical v)
  | attribute (r : Arrival σ) (hr : T r) :
      Realizes (.attribute r.scopes r.owner r.name)
        (.bindVariable r.scopes r.name (.attribute (r.known i)) r.value)

/-- Whether a request declares or binds a name. -/
def HookCall.binds : HookCall → Bool
  | .declareType _ _ | .declareFunction _ _ _ _ | .bindVariable _ _ _ _ => true
  | _ => false

/-- All that a binding gives rise to has been asked for. -/
def CarriedOut (calls : List HookCall) : Binding → Prop
  | .type c n => .declareType c n ∈ calls
  | .function c n params =>
    (∃ returns x, .declareFunction c n returns (walkNames i (c.push n .function) params x).1 ∈ calls) ∧
      ∀ p ∈ boundNames params, .bindVariable (c.push n .function) p .lexical none ∈ calls
  | .name c n => ∃ v, .bindVariable c n .lexical v ∈ calls
  | .attribute c owner n => ∃ x v, T ⟨c, owner, n, x, v⟩

def Binding.isAttribute : Binding → Bool
  | .attribute _ _ _ => true
  | _ => false

def HookCall.bindsAttribute : HookCall → Bool
  | .bindVariable _ _ (.attribute _) _ => true
  | _ => false

/-- The requests are those of the bindings, none more and none less. Each attribute target has one of
its own, in their order. -/
structure Accounts (bs : List Binding) (calls : List HookCall) : Prop where
  sound : ∀ call ∈ calls, call.binds = true → ∃ b ∈ bs, Realizes i T b call
  complete : ∀ b ∈ bs, CarriedOut i T calls b
  targets : List.Forall₂ (fun b call => ∃ r, T r ∧ r.binding = b ∧ r.request i = call)
    (bs.filter Binding.isAttribute) (calls.filter HookCall.bindsAttribute)

/-- From one state to another a record grows by the requests of the bindings. -/
def Adds (bs : List Binding) (s s' : σ × List HookCall) : Prop :=
  ∃ calls, s' = (i.replay s.1 calls, s.2 ++ calls) ∧
    Accounts i (fun r => r.On i s.1 calls) bs calls

variable {i} {T} {T' : Arrival σ → Prop} {bs bs' : List Binding} {calls calls' : List HookCall}
  {s s' s'' : σ × List HookCall}

theorem Realizes.mono {b : Binding} {call : HookCall} (h : Realizes i T b call)
    (hT : ∀ r, r.binding = b → T r → T' r) : Realizes i T' b call := by
  cases h with
  | type c n => exact .type c n
  | function c n params returns x => exact .function c n params returns x
  | parameter c n params p hp => exact .parameter c n params p hp
  | name c n v => exact .name c n v
  | _ r hr => exact .attribute r (hT r rfl hr)

theorem CarriedOut.mono {b : Binding} (h : CarriedOut i T calls b)
    (hsub : ∀ call ∈ calls, call ∈ calls') (hT : ∀ r, r.binding = b → T r → T' r) :
    CarriedOut i T' calls' b := by
  cases b with
  | type c n => exact hsub _ h
  | function c n params =>
    obtain ⟨⟨returns, x, hdeclared⟩, hparams⟩ := h
    exact ⟨⟨returns, x, hsub _ hdeclared⟩, fun p hp => hsub _ (hparams p hp)⟩
  | name c n =>
    obtain ⟨v, hv⟩ := h
    exact ⟨v, hsub _ hv⟩
  | _ c owner n =>
    obtain ⟨x, v, hr⟩ := h
    exact ⟨x, v, hT _ rfl hr⟩

theorem Accounts.mono (h : Accounts i T bs calls) (hT : ∀ r, r.binding ∈ bs → T r → T' r) :
    Accounts i T' bs calls := by
  constructor
  · intro call hcall hbinds
    obtain ⟨b, hb, hreal⟩ := h.sound call hcall hbinds
    exact ⟨b, hb, hreal.mono fun r hr => hT r (hr ▸ hb)⟩
  · intro b hb
    exact (h.complete b hb).mono (fun _ hcall => hcall) fun r hr => hT r (hr ▸ hb)
  · have htargets := (List.forall₂_and_left _ _).mpr
      ⟨fun b hb => (List.mem_filter.mp hb).1, h.targets⟩
    apply htargets.imp
    rintro b call ⟨hb, r, hr, rfl, rfl⟩
    exact ⟨r, hT r hb hr, rfl, rfl⟩

theorem Accounts.append (h : Accounts i T bs calls) (h' : Accounts i T bs' calls') :
    Accounts i T (bs ++ bs') (calls ++ calls') := by
  constructor
  · intro call hcall hbinds
    rcases List.mem_append.mp hcall with hcall | hcall
    · obtain ⟨b, hb, hreal⟩ := h.sound call hcall hbinds
      exact ⟨b, List.mem_append_left _ hb, hreal⟩
    · obtain ⟨b, hb, hreal⟩ := h'.sound call hcall hbinds
      exact ⟨b, List.mem_append_right _ hb, hreal⟩
  · intro b hb
    rcases List.mem_append.mp hb with hb | hb
    · exact (h.complete b hb).mono (fun _ => List.mem_append_left _) fun _ _ hr => hr
    · exact (h'.complete b hb).mono (fun _ => List.mem_append_right _) fun _ _ hr => hr
  · rw [List.filter_append, List.filter_append]
    exact List.rel_append h.targets h'.targets

theorem Accounts.single {b : Binding} {call : HookCall} (hreal : Realizes i T b call)
    (hdone : CarriedOut i T [call] b)
    (htarget : List.Forall₂ (fun b call => ∃ r, T r ∧ r.binding = b ∧ r.request i = call)
      ([b].filter Binding.isAttribute) ([call].filter HookCall.bindsAttribute)) :
    Accounts i T [b] [call] := by
  refine ⟨?_, ?_, htarget⟩
  · intro call' hcall' _
    rw [List.mem_singleton.mp hcall']
    exact ⟨b, List.mem_singleton_self b, hreal⟩
  · intro b' hb'
    rw [List.mem_singleton.mp hb']
    exact hdone

theorem Adds.refl (s : σ × List HookCall) : Adds i [] s s := by
  refine ⟨[], ?_, nofun, nofun, .nil⟩
  rw [List.append_nil]
  rfl

theorem Adds.trans (h : Adds i bs s s') (h' : Adds i bs' s' s'') : Adds i (bs ++ bs') s s'' := by
  obtain ⟨calls, rfl, hcalls⟩ := h
  obtain ⟨calls', rfl, hcalls'⟩ := h'
  refine ⟨calls ++ calls', ?_, ?_⟩
  · rw [i.replay_append, List.append_assoc]
  · exact (hcalls.mono fun _ _ hr => hr.append calls').append (hcalls'.mono fun _ _ hr => hr.after)

/-- A request that binds nothing is on nobody's account. -/
theorem Adds.other (h : Adds i bs s s') (call : HookCall) (hcall : call.binds = false) :
    Adds i bs s (i.answer s'.1 call, s'.2 ++ [call]) := by
  have hone : Adds i [] s' (i.answer s'.1 call, s'.2 ++ [call]) := by
    refine ⟨[call], rfl, ?_, nofun, ?_⟩
    · intro call' hcall' hbinds
      rw [List.mem_singleton.mp hcall', hcall] at hbinds
      cases hbinds
    · cases call with
      | declareType | declareFunction | bindVariable => cases hcall
      | _ => exact .nil
  have htwo := h.trans hone
  rwa [List.append_nil] at htwo

/-- A function is accounted for by the binds of its parameters, at the start, and its declaration,
at the end, around what its body binds. -/
theorem Accounts.function (h : Accounts i T bs calls) (c : ScopeChain) (n : String)
    (params : Parameters Expr) (returns : Option ValueSet) (x : σ) :
    Accounts i T (bs ++ [.function c n params]) ((.enterFunction c n ::
        (boundNames params).map (.bindVariable (c.push n .function) · .lexical none)) ++
      (calls ++ [.declareFunction c n returns (walkNames i (c.push n .function) params x).1])) := by
  constructor
  · intro call hcall hbinds
    simp only [List.mem_append, List.mem_cons, List.mem_map, List.not_mem_nil, or_false] at hcall
    rcases hcall with (rfl | ⟨p, hp, rfl⟩) | hcall | rfl
    · cases hbinds
    · exact ⟨_, List.mem_append_right _ (List.mem_singleton_self _), .parameter c n params p hp⟩
    · obtain ⟨b, hb, hreal⟩ := h.sound call hcall hbinds
      exact ⟨b, List.mem_append_left _ hb, hreal⟩
    · exact ⟨_, List.mem_append_right _ (List.mem_singleton_self _), .function c n params returns x⟩
  · intro b hb
    rcases List.mem_append.mp hb with hb | hb
    · refine (h.complete b hb).mono (fun call hcall => ?_) fun _ _ hr => hr
      exact List.mem_append_right _ (List.mem_append_left _ hcall)
    · rw [List.mem_singleton.mp hb]
      refine ⟨⟨returns, x, by simp⟩, fun p hp => ?_⟩
      simp [hp]
  · have hopening : (HookCall.enterFunction c n :: (boundNames params).map
        (.bindVariable (c.push n .function) · .lexical none)).filter HookCall.bindsAttribute = [] := by
      rw [List.filter_eq_nil_iff, List.forall_mem_cons, List.forall_mem_map]
      exact ⟨Bool.false_ne_true, fun _ _ => Bool.false_ne_true⟩
    rw [List.filter_append, List.filter_append, List.filter_append, hopening]
    exact List.rel_append h.targets .nil

theorem Adds.function {c : ScopeChain} {n : String} {params : Parameters Expr}
    {returns : Option ValueSet} {x : σ}
    (h : Adds i bs (i.replay s.1 (.enterFunction c n ::
          (boundNames params).map (.bindVariable (c.push n .function) · .lexical none)),
        s.2 ++ .enterFunction c n ::
          (boundNames params).map (.bindVariable (c.push n .function) · .lexical none)) s') :
    Adds i (bs ++ [.function c n params]) s
      (i.recording.declareFunction c n returns (walkNames i (c.push n .function) params x).1 s') := by
  obtain ⟨calls, rfl, hcalls⟩ := h
  refine ⟨_, ?_, (hcalls.mono fun r _ hr => ?_).function c n params returns x⟩
  · simp [Interpretation.recording, Interpretation.replay, Interpretation.answer]
  · exact (hr.append _).after

/-- An attribute is bound right after its owner has been evaluated. -/
theorem Adds.attribute {c : ScopeChain} {owner : Expr} {n : String} {v : Option ValueSet}
    (h : Adds i bs s (walkExpr i.recording c s owner).2) :
    Adds i (bs ++ [.attribute c owner n]) s
      (i.recording.bindVariable c n (.attribute (walkExpr i.recording c s owner).1) v
        (walkExpr i.recording c s owner).2).2 := by
  obtain ⟨calls, hafter, hcalls⟩ := h
  have hvalue : (walkExpr i.recording c s owner).1 = (walkExpr i c s.1 owner).1 := by
    rw [walkExpr_recording]
  have hown : calls = exprCalls i c s.1 owner := by
    rw [walkExpr_recording] at hafter
    exact (List.append_cancel_left (congrArg Prod.snd hafter)).symm
  have hon : (⟨c, owner, n, s.1, v⟩ : Arrival σ).On i s.1
      (calls ++ [.bindVariable c n (.attribute (walkExpr i c s.1 owner).1) v]) := by
    refine ⟨[], [], rfl, ?_⟩
    rw [hown]
    rfl
  refine ⟨calls ++ [.bindVariable c n (.attribute (walkExpr i c s.1 owner).1) v], ?_, ?_⟩
  · rw [hvalue, hafter, i.replay_append, ← List.append_assoc]
    rfl
  · exact (hcalls.mono fun _ _ hr => hr.append _).append
      (.single (.attribute ⟨c, owner, n, s.1, v⟩ hon) ⟨s.1, v, hon⟩
        (.cons ⟨⟨c, owner, n, s.1, v⟩, hon, rfl, rfl⟩ .nil))

end Accounts

section Walks

variable {σ : Type u} (i : Interpretation σ)

/-- Where every name is bound to the key of its scope, so is every parameter. -/
theorem walkNames_keys
    (hkeys : ∀ c n x, (i.bindVariable c n .lexical none x).1 = some (c.key n)) (c : ScopeChain)
    (params : Parameters Expr) (x : σ) : (walkNames i c params x).1 = parameterKeys c params := by
  have hfold : ∀ (ps : List (Parameter Expr)) (keys : List String) (x : σ),
      (ps.foldl (walkParameter i c) (keys, x)).1 = keys ++ ps.map fun p => c.key p.name := by
    intro ps
    induction ps with
    | nil => simp
    | cons p ps ih =>
      intro keys x
      rw [List.foldl_cons, walkParameter, ih]
      simp [hkeys]
  unfold walkNames parameterKeys
  rw [hfold, hfold, List.map_append, List.nil_append]

theorem walkParameters_recording (ps : List (Parameter Expr)) (c : ScopeChain)
    (keys : List String) (s : σ × List HookCall) :
    ps.foldl (walkParameter i.recording c) (keys, s) =
      ((ps.foldl (walkParameter i c) (keys, s.1)).1, (ps.foldl (walkParameter i c) (keys, s.1)).2,
        s.2 ++ ps.map fun p => .bindVariable c p.name .lexical none) := by
  induction ps generalizing keys s with
  | nil => simp
  | cons p ps ih =>
    rw [List.foldl_cons, List.foldl_cons, walkParameter, ih, List.map_cons]
    simp [walkParameter, Interpretation.recording]

theorem walkUnknown_recording (c : ScopeChain) (s : σ × List HookCall) (name : Option String) :
    walkUnknown i.recording c s name = (walkUnknown i c s.1 name,
      s.2 ++ name.toList.map fun n => .bindVariable c n .lexical none) := by
  cases name with
  | none => simp [walkUnknown]
  | some n => rfl

/-- The names of a function are bound one after another, with nothing known of them. -/
theorem walkNames_recording (c : ScopeChain) (params : Parameters Expr) (s : σ × List HookCall) :
    walkNames i.recording c params s =
      ((walkNames i c params s.1).1, (walkNames i c params s.1).2,
        s.2 ++ (boundNames params).map (.bindVariable c · .lexical none)) := by
  unfold walkNames boundNames
  simp [walkParameters_recording, walkUnknown_recording, Function.comp_def]

theorem walkNames_replay (c : ScopeChain) (params : Parameters Expr) (x : σ) :
    (walkNames i c params x).2 =
      i.replay x ((boundNames params).map (.bindVariable c · .lexical none)) := by
  have hfold : ∀ (ps : List (Parameter Expr)) (keys : List String) (x : σ),
      (ps.foldl (walkParameter i c) (keys, x)).2 =
        i.replay x (ps.map fun p => .bindVariable c p.name .lexical none) := by
    intro ps
    induction ps with
    | nil => exact fun _ _ => rfl
    | cons p ps ih => exact fun keys x => ih _ _
  have hunknown : ∀ (name : Option String) (x : σ), walkUnknown i c x name =
      i.replay x (name.toList.map (.bindVariable c · .lexical none)) := by
    intro name x
    cases name <;> rfl
  unfold walkNames boundNames
  simp [hfold, hunknown, i.replay_append, Function.comp_def]

/-- What the traversal of a phrase adds to the record. The names of parameters go with their
function, so after them nothing but the annotations and initial values is left. -/
abbrev Phrase.Adds : Phrase → Prop
  | .parameters params => ∀ c s,
      (walkParameters i.recording c s params).1 = (walkNames i c params s.1).1 ∧
        Flow.Adds i (parametersBindings c params) (walkNames i.recording c params s).2
          (walkParameters i.recording c s params).2
  | p => ∀ c v s, Flow.Adds i (p.bindings c) s (p.after i.recording c v s)

/-- The record when a function has been entered and its names are bound. -/
theorem walkNames_opening (c : ScopeChain) (n : String) (params : Parameters Expr)
    (s : σ × List HookCall) :
    (walkNames i.recording (c.push n .function) params (i.recording.enterFunction c n s)).2 =
      (i.replay s.1 (.enterFunction c n ::
          (boundNames params).map (.bindVariable (c.push n .function) · .lexical none)),
        s.2 ++ .enterFunction c n ::
          (boundNames params).map (.bindVariable (c.push n .function) · .lexical none)) := by
  rw [walkNames_recording, walkNames_replay]
  simp [Interpretation.recording, Interpretation.replay, Interpretation.answer]

theorem Phrase.adds (p : Phrase) : p.Adds i := by
  have h := p.built
  induction h with
  | @lambda position _ _ _ _ ih ih' =>
    intro c v s
    obtain ⟨hkeys, hparams⟩ := ih (c.push position.lambdaName .function)
      (i.recording.enterFunction c position.lambdaName s)
    have hbody := hparams.trans (ih' (c.push position.lambdaName .function) v _)
    rw [walkNames_opening] at hbody
    simp only [Phrase.after, walkExpr, hkeys]
    exact hbody.function
  | namedExpr _ _ ih ih' =>
    intro c v s
    exact (ih c v s).trans (ih' c _ _)
  | @comprehension kind _ _ _ _ _ _ ih ih' ih'' =>
    intro c v s
    simp only [exprBindings]
    refine .trans ?_ (ih'' c v _)
    by_cases hk : kind = .dict
    · simp only [if_pos hk]
      exact (ih c v s).trans (ih' c v _)
    · simp only [if_neg hk, List.append_nil]
      exact ih c v s
  | call _ _ _ ih ih' ih'' =>
    intro c v s
    exact (((ih c v s).trans (ih' c v _)).trans (ih'' c v _)).other (.call _ _ _ _) rfl
  | parameters _ _ ih ih' =>
    intro c s
    simp only [walkParameters, walkNames_recording]
    exact ⟨trivial, (ih c none _).trans (ih' c none _)⟩
  | targetName =>
    intro c v s
    exact ⟨[_], rfl, .single (.name c _ v) ⟨v, List.mem_singleton_self _⟩ .nil⟩
  | targetStarred _ ih =>
    intro c v s
    exact ih c none s
  | targetAttribute _ ih =>
    intro c v s
    exact (ih c v s).attribute
  | targetsCons _ _ ih ih' =>
    intro c v s
    exact (ih c none s).trans (ih' c v _)
  | targetOther h =>
    intro c v s
    simp only [targetBindings_of_not_isTarget h, walkTarget_of_not_isTarget _ h]
    exact .refl s
  | typeOther h =>
    intro c v s
    simp only [typeBindings_of_not_isType h, walkType_of_not_isType _ h]
    exact .refl s
  | name => exact fun c v s => (Flow.Adds.refl s).other (.readVariable _ _ _) rfl
  | typeName => exact fun c v s => (Flow.Adds.refl s).other (.useType _ _) rfl
  | constant | valuesNil | valueNone | keysNil | argumentsNil | keywordsNil | generatorsNil
  | initialsNil | targetsNil | typesNil | typeNone => exact fun c v s => .refl s
  | unaryOp _ ih | await _ ih | yieldFrom _ ih | formattedValue _ ih | starred _ ih | boolOp _ ih
  | set _ ih | joinedStr _ ih | list _ ih | tuple _ ih | yield _ ih | valueSome _ ih
  | targetTuple _ ih | targetList _ ih | typeTuple _ ih | typeList _ ih | typeSome _ ih =>
    exact fun c v s => ih c v s
  | attr _ ih => exact fun c v s => (ih c v s).other (.readVariable _ _ _) rfl
  | typeAttribute _ ih => exact fun c v s => (ih c v s).other (.useType _ _) rfl
  | binOp _ _ ih ih' | dict _ _ ih ih' | compare _ _ ih ih' | subscript _ _ ih ih'
  | valuesCons _ _ ih ih' | keysCons _ _ ih ih' | argumentsCons _ _ ih ih'
  | keywordsCons _ _ ih ih' | targetSubscript _ _ ih ih' | typeSubscript _ _ ih ih'
  | typesCons _ _ ih ih' => exact fun c v s => (ih c v s).trans (ih' c v _)
  | ifExp _ _ _ ih ih' ih'' | slice _ _ _ ih ih' ih'' | initialsCons _ _ _ ih ih' ih'' =>
    exact fun c v s => ((ih c v s).trans (ih' c v _)).trans (ih'' c v _)
  | generatorsCons _ _ _ _ ih ih' ih'' ih3 =>
    exact fun c v s => (((ih c v s).trans (ih' c v _)).trans (ih'' c v _)).trans (ih3 c v _)

theorem walkExpr_adds (e : Expr) (c : ScopeChain) (s : σ × List HookCall) :
    Adds i (exprBindings c e) s (walkExpr i.recording c s e).2 := Phrase.adds i (.value e) c none s

theorem walkOption_adds (e : Option Expr) (c : ScopeChain) (s : σ × List HookCall) :
    Adds i (optionBindings c e) s (walkOption i.recording c s e) :=
  Phrase.adds i (.value? e) c none s

theorem walkTarget_adds (e : Expr) (c : ScopeChain) (v : Option ValueSet)
    (s : σ × List HookCall) : Adds i (targetBindings c e) s (walkTarget i.recording c v s e) :=
  Phrase.adds i (.target e) c v s

theorem walkType?_adds (e : Option Expr) (c : ScopeChain) (s : σ × List HookCall) :
    Adds i (typeBindings? c e) s (walkType? i.recording c s e) := Phrase.adds i (.type? e) c none s

theorem walkAssign_adds (targets : List Expr) (c : ScopeChain) (v : Option ValueSet)
    (s : σ × List HookCall) :
    Adds i (targets.flatMap (targetBindings c)) s (walkAssign i.recording c v s targets) := by
  unfold walkAssign
  induction targets generalizing s with
  | nil => exact .refl s
  | cons target targets ih =>
    rw [List.flatMap_cons, List.foldl_cons]
    exact (walkTarget_adds i target c v s).trans (ih _)

theorem walkItems_adds (items : List WithItem) (c : ScopeChain) (s : σ × List HookCall) :
    Adds i (items.flatMap (itemBindings c)) s (items.foldl (walkItem i.recording c) s) := by
  induction items generalizing s with
  | nil => exact .refl s
  | cons item items ih =>
    rw [List.flatMap_cons, List.foldl_cons]
    refine .trans ?_ (ih _)
    obtain ⟨context, target⟩ := item
    have hcontext := walkExpr_adds i context c s
    cases target with
    | none =>
      unfold itemBindings walkItem
      exact hcontext.trans (.refl _)
    | some target =>
      unfold itemBindings walkItem
      simp only [Option.toList_some, List.flatMap_cons, List.flatMap_nil, List.append_nil]
      exact hcontext.trans (walkTarget_adds i target c _ _)

theorem walkUnknown_adds (name : Option String) (c : ScopeChain) (s : σ × List HookCall) :
    Adds i (name.toList.map (.name c ·)) s (walkUnknown i.recording c s name) := by
  cases name with
  | none => exact .refl s
  | some n => exact ⟨[_], rfl, .single (.name c n none) ⟨none, List.mem_singleton_self _⟩ .nil⟩

theorem Clause.adds (q : Clause) :
    ∀ c r s, Adds i (q.bindings c) s (q.after i.recording c (r, s)).2 := by
  have h := q.built
  induction h with
  | @functionDef name params returns _ _ ih =>
    intro c r s
    have hreturns := walkType?_adds i returns c s
    obtain ⟨hkeys, hparams⟩ := Phrase.adds i (.parameters params) (c.push name .function)
      (i.recording.enterFunction c name (walkType? i.recording c s returns))
    have hbody := hparams.trans (ih (c.push name .function) none _)
    rw [walkNames_opening] at hbody
    simp only [Clause.after, walkStmt, hkeys]
    exact hreturns.trans (hbody.function)
  | @classDef name bases _ _ ih =>
    intro c r s
    have htype : Adds i [.type c name] s (i.recording.declareType c name s) :=
      ⟨[_], rfl, .single (.type c name) (List.mem_singleton_self _) .nil⟩
    have hbases := Phrase.adds i (.types bases) c none (i.recording.declareType c name s)
    exact htype.trans (hbases.trans (ih (c.push name .type) none _))
  | returnNone | opaqueStmt | blockNil | handlersNil => exact fun c r s => .refl s
  | @returnSome e | @expr e => exact fun c r s => walkExpr_adds i e c s
  | @delete targets => exact fun c r s => Phrase.adds i (.values targets) c none s
  | @assign targets value =>
    exact fun c r s => (walkExpr_adds i value c s).trans (walkAssign_adds i targets c _ _)
  | @augAssign target value =>
    exact fun c r s => (walkTarget_adds i target c none s).trans (walkExpr_adds i value c _)
  | @annAssignNone target annotation =>
    intro c r s
    have hdeclared := Phrase.adds i (.type annotation) c none s
    exact (hdeclared.trans (.refl _)).trans (walkTarget_adds i target c none _)
  | @annAssignSome target annotation e =>
    intro c r s
    have hdeclared := Phrase.adds i (.type annotation) c none s
    exact (hdeclared.trans (walkExpr_adds i e c _)).trans (walkTarget_adds i target c _ _)
  | @forStmt target iter _ _ _ _ ih ih' =>
    intro c r s
    have htarget := (walkExpr_adds i iter c s).trans (walkTarget_adds i target c none _)
    exact (htarget.trans (ih c r _)).trans (ih' c _ _)
  | @whileStmt test _ _ _ _ ih ih' | @ifStmt test _ _ _ _ ih ih' =>
    exact fun c r s => ((walkExpr_adds i test c s).trans (ih c r _)).trans (ih' c _ _)
  | @withStmt items _ _ ih => exact fun c r s => (walkItems_adds i items c s).trans (ih c r _)
  | @raise exc cause =>
    exact fun c r s => (walkOption_adds i exc c s).trans (walkOption_adds i cause c _)
  | tryStmt _ _ _ _ ih ih' ih'' ih3 =>
    exact fun c r s => (((ih c r s).trans (ih' c _ _)).trans (ih'' c _ _)).trans (ih3 c _ _)
  | @assert test msg =>
    exact fun c r s => (walkExpr_adds i test c s).trans (walkOption_adds i msg c _)
  | blockCons _ _ ih ih' => exact fun c r s => (ih c r s).trans (ih' c _ _)
  | @handlersCons type name _ _ _ _ ih ih' =>
    intro c r s
    have hname := (walkType?_adds i type c s).trans (walkUnknown_adds i name c _)
    exact (hname.trans (ih c r _)).trans (ih' c _ _)

/-- The run of a module asks for its bindings, and for nothing else that would bind. -/
theorem hookCalls_accounts (m : SourceModule) (a : σ) :
    Accounts i (fun r => r.On i a (hookCalls i m a)) (moduleBindings m) (hookCalls i m a) := by
  obtain ⟨calls, hafter, haccounts⟩ := Clause.adds i (.block m.body) (.root m.root) none (a, [])
  have hcalls : hookCalls i m a = calls := by
    unfold hookCalls
    rw [runModule_eq]
    exact congrArg Prod.snd hafter
  rw [hcalls]
  exact haccounts

end Walks

end NameFlow.Flow
