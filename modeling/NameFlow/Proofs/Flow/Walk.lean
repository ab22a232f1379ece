import NameFlow.Flow.Run
import NameFlow.Proofs.Flow.Phrase

/-!
# The traversal in direct style

The same traversal as that of the flow code, as recursion on the tree: an expression gives what
is known of its value, a function gives its parameters' keys, and statements pass on what their
scope returns so far. Running the code of a tree is walking the tree. In particular the code of
an expression only puts its value, and the code of a statement leaves scopes, outer frames and
operands as they were.
-/

namespace NameFlow.Flow

set_option autoImplicit false

open Python

universe u

variable {σ : Type u} (i : Interpretation σ)

section Names

/-- Binds a parameter and adds its key, if it has one. -/
def walkParameter (c : ScopeChain) (r : List String × σ) (p : Parameter Expr) :
    List String × σ :=
  let b := i.bindVariable c p.name .lexical none r.2
  (r.1 ++ b.1.toList, b.2)

/-- Binds a name of which nothing is known. -/
def walkUnknown (c : ScopeChain) (x : σ) : Option String → σ
  | some name => (i.bindVariable c name .lexical none x).2
  | none => x

def walkNames (c : ScopeChain) (params : Parameters Expr) (x : σ) : List String × σ :=
  let r := params.positional.foldl (walkParameter i c) ([], x)
  let r := params.keywordOnly.foldl (walkParameter i c) (r.1, walkUnknown i c r.2 params.vararg)
  (r.1, walkUnknown i c r.2 params.kwarg)

end Names

mutual

def walkExpr (c : ScopeChain) (x : σ) : Expr → Option ValueSet × σ
  | .boolOp values => (none, walkAll c x values)
  | .binOp left right => walkExpr c (walkExpr c x left).2 right
  | .unaryOp operand => walkExpr c x operand
  | .lambda position params body =>
    let inner := c.push position.lambdaName .function
    let p := walkParameters inner (i.enterFunction c position.lambdaName x) params
    let r := walkExpr inner p.2 body
    (none, i.declareFunction c position.lambdaName r.1 p.1 r.2)
  | .ifExp test body orelse =>
    let r := walkExpr c (walkExpr c x test).2 body
    let r' := walkExpr c r.2 orelse
    (joinKnown r.1 r'.1, r'.2)
  | .namedExpr target value =>
    let r := walkExpr c x value
    (r.1, walkTarget c r.1 r.2 target)
  | .dict keys values => (none, walkAll c (walkKeys c x keys) values)
  | .set elts => (none, walkAll c x elts)
  | .comprehension kind element value generators =>
    let x := (walkExpr c x element).2
    let x := if kind = .dict then walkOption c x value else x
    (none, walkGenerators c x generators)
  | .await value => walkExpr c x value
  | .yield value => (none, walkOption c x value)
  | .yieldFrom value => (none, (walkExpr c x value).2)
  | .compare left comparators => (none, walkAll c (walkExpr c x left).2 comparators)
  | .call func args keywords =>
    let f := walkExpr c x func
    let a := walkArguments c f.2 args
    let k := walkKeywords c a.2 keywords
    i.call c f.1 a.1 k.1 k.2
  | .formattedValue value => (none, (walkExpr c x value).2)
  | .joinedStr values => (none, walkAll c x values)
  | .constant => (none, x)
  | .attribute value attr =>
    let r := walkExpr c x value
    i.readVariable c attr (.attribute r.1) r.2
  | .subscript value slice => (none, (walkExpr c (walkExpr c x value).2 slice).2)
  | .slice lower upper step => (none, walkOption c (walkOption c (walkOption c x lower) upper) step)
  | .starred value => (none, (walkExpr c x value).2)
  | .name id => i.readVariable c id .lexical x
  | .list elts => (none, walkAll c x elts)
  | .tuple elts => (none, walkAll c x elts)

def walkAll (c : ScopeChain) (x : σ) : List Expr → σ
  | [] => x
  | e :: es => walkAll c (walkExpr c x e).2 es

def walkOption (c : ScopeChain) (x : σ) : Option Expr → σ
  | none => x
  | some e => (walkExpr c x e).2

def walkKeys (c : ScopeChain) (x : σ) : List (Option Expr) → σ
  | [] => x
  | k :: ks => walkKeys c (walkOption c x k) ks

def walkArguments (c : ScopeChain) (x : σ) : List Expr → List (Option ValueSet) × σ
  | [] => ([], x)
  | e :: es =>
    let r := walkExpr c x e
    let rest := walkArguments c r.2 es
    (r.1 :: rest.1, rest.2)

/-- The arguments without a name are walked too, but give nothing. -/
def walkKeywords (c : ScopeChain) (x : σ) :
    List (Keyword Expr) → List (String × Option ValueSet) × σ
  | [] => ([], x)
  | ⟨arg, value⟩ :: ks =>
    let r := walkExpr c x value
    let rest := walkKeywords c r.2 ks
    ((arg.toList.map fun name => (name, r.1)) ++ rest.1, rest.2)

def walkGenerators (c : ScopeChain) (x : σ) : List (Generator Expr) → σ
  | [] => x
  | ⟨target, iter, ifs⟩ :: gs =>
    walkGenerators c (walkAll c (walkExpr c (walkExpr c x target).2 iter).2 ifs) gs

def walkParameters (c : ScopeChain) (x : σ) : Parameters Expr → List String × σ
  | ⟨positional, vararg, keywordOnly, kwarg⟩ =>
    let r := walkNames i c ⟨positional, vararg, keywordOnly, kwarg⟩ x
    (r.1, walkInitials c (walkInitials c r.2 positional) keywordOnly)

def walkInitials (c : ScopeChain) (x : σ) : List (Parameter Expr) → σ
  | [] => x
  | ⟨_, annotation, initial⟩ :: ps =>
    walkInitials c (walkOption c (walkType? c x annotation) initial) ps

def walkTarget (c : ScopeChain) (v : Option ValueSet) (x : σ) : Expr → σ
  | .name id => (i.bindVariable c id .lexical v x).2
  | .tuple elts => walkTargets c x elts
  | .list elts => walkTargets c x elts
  | .starred value => walkTarget c none x value
  | .attribute value attr =>
    let r := walkExpr c x value
    (i.bindVariable c attr (.attribute r.1) v r.2).2
  | .subscript value slice => (walkExpr c (walkExpr c x value).2 slice).2
  | _ => x

def walkTargets (c : ScopeChain) (x : σ) : List Expr → σ
  | [] => x
  | e :: es => walkTargets c (walkTarget c none x e) es

def walkType (c : ScopeChain) (x : σ) : Expr → σ
  | .name id => i.useType c id x
  | .tuple elts => walkTypes c x elts
  | .list elts => walkTypes c x elts
  | .attribute value attr => i.useType c attr (walkExpr c x value).2
  | .subscript value slice => walkType c (walkType c x value) slice
  | _ => x

def walkTypes (c : ScopeChain) (x : σ) : List Expr → σ
  | [] => x
  | e :: es => walkTypes c (walkType c x e) es

def walkType? (c : ScopeChain) (x : σ) : Option Expr → σ
  | none => x
  | some e => walkType c x e

end

def walkAssign (c : ScopeChain) (v : Option ValueSet) (x : σ) (targets : List Expr) : σ :=
  targets.foldl (walkTarget i c v) x

def walkItem (c : ScopeChain) (x : σ) (item : WithItem) : σ :=
  let r := walkExpr i c x item.context
  match item.target with
  | some target => walkTarget i c r.1 r.2 target
  | none => r.2

mutual

/-- The pair holds what the scope returns so far and the state. -/
def walkStmt (c : ScopeChain) (r : Option ValueSet × σ) : Stmt → Option ValueSet × σ
  | .functionDef name params returns body =>
    let inner := c.push name .function
    let p := walkParameters i inner (i.enterFunction c name (walkType? i c r.2 returns)) params
    let b := walkBlock inner (none, p.2) body
    (r.1, i.declareFunction c name b.1 p.1 b.2)
  | .classDef name bases body =>
    let x := walkTypes i c (i.declareType c name r.2) bases
    (r.1, (walkBlock (c.push name .type) (none, x) body).2)
  | .return value =>
    match value with
    | some e => (joinKnown r.1 (walkExpr i c r.2 e).1, (walkExpr i c r.2 e).2)
    | none => r
  | .delete targets => (r.1, walkAll i c r.2 targets)
  | .assign targets value =>
    let v := walkExpr i c r.2 value
    (r.1, walkAssign i c v.1 v.2 targets)
  | .augAssign target value => (r.1, (walkExpr i c (walkTarget i c none r.2 target) value).2)
  | .annAssign target annotation value =>
    let x := walkType i c r.2 annotation
    match value with
    | some e => (r.1, walkTarget i c (walkExpr i c x e).1 (walkExpr i c x e).2 target)
    | none => (r.1, walkTarget i c none x target)
  | .for target iter body orelse =>
    let x := walkTarget i c none (walkExpr i c r.2 iter).2 target
    walkBlock c (walkBlock c (r.1, x) body) orelse
  | .while test body orelse =>
    walkBlock c (walkBlock c (r.1, (walkExpr i c r.2 test).2) body) orelse
  | .if test body orelse =>
    walkBlock c (walkBlock c (r.1, (walkExpr i c r.2 test).2) body) orelse
  | .with items body => walkBlock c (r.1, items.foldl (walkItem i c) r.2) body
  | .raise exc cause => (r.1, walkOption i c (walkOption i c r.2 exc) cause)
  | .try body handlers orelse finalbody =>
    walkBlock c (walkBlock c (walkHandlers c (walkBlock c r body) handlers) orelse) finalbody
  | .assert test msg => (r.1, walkOption i c (walkExpr i c r.2 test).2 msg)
  | .expr value => (r.1, (walkExpr i c r.2 value).2)
  | .opaqueStmt => r

def walkBlock (c : ScopeChain) (r : Option ValueSet × σ) : List Stmt → Option ValueSet × σ
  | [] => r
  | s :: ss => walkBlock c (walkStmt c r s) ss

def walkHandlers (c : ScopeChain) (r : Option ValueSet × σ) :
    List (Handler Stmt) → Option ValueSet × σ
  | [] => r
  | ⟨type, name, body⟩ :: hs =>
    let x := walkUnknown i c (walkType? i c r.2 type) name
    walkHandlers c (walkBlock c (r.1, x) body) hs

end

section Trees

/-- The state in which the traversal of a phrase ends. A target is bound to the value given. -/
abbrev Phrase.after (c : ScopeChain) (v : Option ValueSet) (x : σ) : Phrase → σ
  | .value e => (walkExpr i c x e).2
  | .values es => walkAll i c x es
  | .value? e => walkOption i c x e
  | .keys ks => walkKeys i c x ks
  | .arguments es => (walkArguments i c x es).2
  | .keywords ks => (walkKeywords i c x ks).2
  | .generators gs => walkGenerators i c x gs
  | .parameters params => (walkParameters i c x params).2
  | .initials ps => walkInitials i c x ps
  | .target e => walkTarget i c v x e
  | .targets es => walkTargets i c x es
  | .type e => walkType i c x e
  | .types es => walkTypes i c x es
  | .type? e => walkType? i c x e

abbrev Clause.after (c : ScopeChain) (r : Option ValueSet × σ) : Clause → Option ValueSet × σ
  | .statement st => walkStmt i c r st
  | .block ss => walkBlock i c r ss
  | .handlers hs => walkHandlers i c r hs

theorem walkTarget_of_not_isTarget {e : Expr} (h : Phrase.isTarget e = false) (c : ScopeChain)
    (v : Option ValueSet) (x : σ) : walkTarget i c v x e = x := by
  cases e <;> first | rfl | cases h

theorem walkType_of_not_isType {e : Expr} (h : Phrase.isType e = false) (c : ScopeChain) (x : σ) :
    walkType i c x e = x := by
  cases e <;> first | rfl | cases h

end Trees

section Calls

theorem walkArguments_length (c : ScopeChain) (x : σ) (es : List Expr) :
    (walkArguments i c x es).1.length = es.length := by
  induction es generalizing x with
  | nil => rfl
  | cons e es ih => rw [walkArguments, List.length_cons, List.length_cons, ih]

theorem walkKeywords_names (c : ScopeChain) (x : σ) (ks : List (Keyword Expr)) :
    (walkKeywords i c x ks).1.map Prod.fst = keywordNames ks := by
  induction ks generalizing x with
  | nil => rfl
  | cons k ks ih =>
    obtain ⟨arg, value⟩ := k
    rw [walkKeywords, List.map_append, ih]
    cases arg <;> rfl

/-- A call finds its operands above the callee, the named ones on top. -/
theorem step_call (c : ScopeChain) (frame : Frame) (outer : List Frame)
    (f : Option ValueSet) (args : List (Option ValueSet)) (named : List (String × Option ValueSet))
    (ops : List (Option ValueSet)) (x : σ) :
    step i ⟨c, frame, outer,
        (named.map Prod.snd).reverse ++ (args.reverse ++ f :: ops), x⟩
        (.call args.length (named.map Prod.fst)) =
      ⟨c, frame, outer, (i.call c f args named x).1 :: ops, (i.call c f args named x).2⟩ := by
  have hn : (named.map Prod.fst).length = (named.map Prod.snd).reverse.length := by simp
  have ha : args.length = args.reverse.length := by simp
  have hz : (named.map Prod.fst).zip (named.map Prod.snd) = named := by
    induction named with
    | nil => rfl
    | cons p named ih => rw [List.map_cons, List.map_cons, List.zip_cons_cons, ih (by simp)]
  simp only [step, hn, ha, List.take_left', List.drop_left', List.reverse_reverse, hz,
    List.head?_cons, Option.join_some, List.tail_cons]

end Calls

section Steps

variable (c : ScopeChain) (frame : Frame) (outer : List Frame) (v w : Option ValueSet)
  (ops : List (Option ValueSet)) (x : σ) (name : String)

@[simp] theorem step_unknown :
    step i ⟨c, frame, outer, ops, x⟩ .unknown = ⟨c, frame, outer, none :: ops, x⟩ := rfl

@[simp] theorem step_drop :
    step i ⟨c, frame, outer, v :: ops, x⟩ .drop = ⟨c, frame, outer, ops, x⟩ := rfl

@[simp] theorem step_copy :
    step i ⟨c, frame, outer, v :: ops, x⟩ .copy = ⟨c, frame, outer, v :: v :: ops, x⟩ := rfl

@[simp] theorem step_join :
    step i ⟨c, frame, outer, w :: v :: ops, x⟩ .join =
      ⟨c, frame, outer, joinKnown v w :: ops, x⟩ := rfl

@[simp] theorem step_read :
    step i ⟨c, frame, outer, ops, x⟩ (.read name) =
      ⟨c, frame, outer, (i.readVariable c name .lexical x).1 :: ops,
        (i.readVariable c name .lexical x).2⟩ := rfl

@[simp] theorem step_readAttribute :
    step i ⟨c, frame, outer, v :: ops, x⟩ (.readAttribute name) =
      ⟨c, frame, outer, (i.readVariable c name (.attribute v) x).1 :: ops,
        (i.readVariable c name (.attribute v) x).2⟩ := rfl

@[simp] theorem step_useType :
    step i ⟨c, frame, outer, ops, x⟩ (.useType name) =
      ⟨c, frame, outer, ops, i.useType c name x⟩ := rfl

@[simp] theorem step_bind :
    step i ⟨c, frame, outer, v :: ops, x⟩ (.bind name) =
      ⟨c, frame, outer, ops, (i.bindVariable c name .lexical v x).2⟩ := rfl

@[simp] theorem step_bindAttribute :
    step i ⟨c, frame, outer, w :: v :: ops, x⟩ (.bindAttribute name) =
      ⟨c, frame, outer, ops, (i.bindVariable c name (.attribute w) v x).2⟩ := rfl

@[simp] theorem step_giveBack :
    step i ⟨c, frame, outer, v :: ops, x⟩ .giveBack =
      ⟨c, ⟨joinKnown frame.returns v, frame.params⟩, outer, ops, x⟩ := rfl

@[simp] theorem step_declareType :
    step i ⟨c, frame, outer, ops, x⟩ (.declareType name) =
      ⟨c, frame, outer, ops, i.declareType c name x⟩ := rfl

@[simp] theorem step_enterType :
    step i ⟨c, frame, outer, ops, x⟩ (.enterType name) =
      ⟨c.push name .type, ⟨none, []⟩, frame :: outer, ops, x⟩ := rfl

@[simp] theorem step_enterFunction :
    step i ⟨c, frame, outer, ops, x⟩ (.enterFunction name) =
      ⟨c.push name .function, ⟨none, []⟩, frame :: outer, ops, i.enterFunction c name x⟩ := rfl

variable (kind : ScopeKind) (inner : Frame)

@[simp] theorem step_leaveType :
    step i ⟨c.push name kind, inner, frame :: outer, ops, x⟩ .leaveType =
      ⟨c, frame, outer, ops, x⟩ := rfl

@[simp] theorem step_leaveFunction :
    step i ⟨c.push name kind, inner, frame :: outer, ops, x⟩ (.leaveFunction name) =
      ⟨c, frame, outer, ops, i.declareFunction c name inner.returns inner.params x⟩ := rfl

end Steps

section Running

theorem run_parameters (ps : List (Parameter Expr)) (c : ScopeChain) (frame : Frame)
    (outer : List Frame) (ops : List (Option ValueSet)) (x : σ) :
    run i (ps.map (.parameter ·.name)) ⟨c, frame, outer, ops, x⟩ =
      ⟨c, { frame with params := (ps.foldl (walkParameter i c) (frame.params, x)).1 }, outer, ops,
        (ps.foldl (walkParameter i c) (frame.params, x)).2⟩ := by
  induction ps generalizing frame x with
  | nil => rfl
  | cons p ps ih =>
    rw [List.map_cons, run_cons, step, ih]
    rfl

theorem run_parameterNames (params : Parameters Expr) (c : ScopeChain) (returns : Option ValueSet)
    (outer : List Frame) (ops : List (Option ValueSet)) (x : σ) :
    run i (parameterNames params) ⟨c, ⟨returns, []⟩, outer, ops, x⟩ =
      ⟨c, ⟨returns, (walkNames i c params x).1⟩, outer, ops, (walkNames i c params x).2⟩ := by
  obtain ⟨positional, vararg, keywordOnly, kwarg⟩ := params
  unfold parameterNames walkNames
  -- a starred name leaves the keys as they are
  cases vararg <;> cases kwarg <;>
    simp only [run_append, run_parameters, run_cons, run_nil, step, State.put, State.pop, State.top,
      List.head?_cons, Option.join_some, List.tail_cons, walkUnknown]

@[simp] theorem joinKnown_none (v : Option ValueSet) : joinKnown none v = v := by cases v <;> rfl

/-- What running the code of a phrase does. A value, an argument and a named argument are put on
the operands, the parameters are noted in the frame of the function just entered and a target takes
the top operand. Nothing else changes but the state that the traversal passes on. -/
abbrev Phrase.Runs : Phrase → Prop
  | .value e => ∀ c frame outer ops x, run i (exprCode e) ⟨c, frame, outer, ops, x⟩ =
      ⟨c, frame, outer, (walkExpr i c x e).1 :: ops, (walkExpr i c x e).2⟩
  | .arguments es => ∀ c frame outer ops x, run i (argumentsCode es) ⟨c, frame, outer, ops, x⟩ =
      ⟨c, frame, outer, (walkArguments i c x es).1.reverse ++ ops, (walkArguments i c x es).2⟩
  | .keywords ks => ∀ c frame outer ops x, run i (keywordsCode ks) ⟨c, frame, outer, ops, x⟩ =
      ⟨c, frame, outer, ((walkKeywords i c x ks).1.map Prod.snd).reverse ++ ops,
        (walkKeywords i c x ks).2⟩
  | .parameters params => ∀ c returns outer ops x,
      run i (parametersCode params) ⟨c, ⟨returns, []⟩, outer, ops, x⟩ =
        ⟨c, ⟨returns, (walkParameters i c x params).1⟩, outer, ops,
          (walkParameters i c x params).2⟩
  | .target e => ∀ c frame outer v ops x, run i (targetCode e) ⟨c, frame, outer, v :: ops, x⟩ =
      ⟨c, frame, outer, ops, walkTarget i c v x e⟩
  | p => ∀ c frame outer ops x, run i p.code ⟨c, frame, outer, ops, x⟩ =
      ⟨c, frame, outer, ops, p.after i c none x⟩

theorem Phrase.runs (p : Phrase) : p.Runs i := by
  have h := p.built
  induction h with
  | @comprehension kind _ _ _ _ _ _ ih ih' ih'' =>
    intro c frame outer ops x
    by_cases hk : kind = .dict <;>
      simp [exprCode, walkExpr, run_append, run_cons, hk, ih, ih', ih'']
  | @call func args keywords _ _ _ ih ih' ih'' =>
    intro c frame outer ops x
    rw [exprCode, run_append, run_append, run_append, ih, ih', ih'', run_cons, run_nil]
    rw [← walkArguments_length i c (walkExpr i c x func).2 args,
      ← walkKeywords_names i c (walkArguments i c (walkExpr i c x func).2 args).2 keywords, step_call]
    rfl
  | @keywordsCons arg _ _ _ _ ih ih' =>
    intro c frame outer ops x
    cases arg <;> simp [keywordsCode, walkKeywords, run_append, run_cons, ih, ih']
  | targetOther h =>
    intro c frame outer v ops x
    rw [targetCode_of_not_isTarget h, walkTarget_of_not_isTarget i h]
    rfl
  | typeOther h =>
    intro c frame outer ops x
    simp [typeCode_of_not_isType h, walkType_of_not_isType i h]
  | constant | name | valuesNil | valueNone | keysNil | argumentsNil | keywordsNil | generatorsNil
  | initialsNil | targetsNil | typeName | typesNil | typeNone => exact fun _ _ _ _ _ => rfl
  | unaryOp _ ih | await _ ih | yieldFrom _ ih | formattedValue _ ih | attr _ ih | starred _ ih
  | boolOp _ ih | set _ ih | joinedStr _ ih | list _ ih | tuple _ ih | yield _ ih =>
    intro c frame outer ops x
    simp [exprCode, walkExpr, run_append, run_cons, ih]
  | binOp _ _ ih ih' | lambda _ _ ih ih' | namedExpr _ _ ih ih' | dict _ _ ih ih'
  | compare _ _ ih ih' | subscript _ _ ih ih' =>
    intro c frame outer ops x
    simp [exprCode, walkExpr, run_append, run_cons, ih, ih']
  | ifExp _ _ _ ih ih' ih'' | slice _ _ _ ih ih' ih'' | initialsCons _ _ _ ih ih' ih'' =>
    intro c frame outer ops x
    simp [exprCode, walkExpr, initialsCode, walkInitials, run_append, run_cons, ih, ih', ih'']
  | valueSome _ ih =>
    intro c frame outer ops x
    simp [evaluate?, walkOption, run_append, run_cons, ih]
  | valuesCons _ _ ih ih' | keysCons _ _ ih ih' | argumentsCons _ _ ih ih' =>
    intro c frame outer ops x
    simp [evaluateAll, walkAll, evaluateKeys, walkKeys, argumentsCode, walkArguments, run_append,
      run_cons, ih, ih']
  | generatorsCons _ _ _ _ ih ih' ih'' ih3 =>
    intro c frame outer ops x
    simp [generatorsCode, walkGenerators, run_append, run_cons, ih, ih', ih'', ih3]
  | parameters _ _ ih ih' =>
    intro c returns outer ops x
    simp [parametersCode, walkParameters, run_append, run_parameterNames, ih, ih']
  | targetName => exact fun _ _ _ _ _ _ => rfl
  | targetTuple _ ih | targetList _ ih | targetStarred _ ih | targetAttribute _ ih =>
    intro c frame outer v ops x
    simp [targetCode, walkTarget, run_append, run_cons, ih]
  | targetSubscript _ _ ih ih' =>
    intro c frame outer v ops x
    simp [targetCode, walkTarget, run_append, run_cons, ih, ih']
  | targetsCons _ _ ih ih' =>
    intro c frame outer ops x
    simp [targetsCode, walkTargets, run_append, run_cons, ih, ih']
  | typeTuple _ ih | typeList _ ih | typeAttribute _ ih | typeSome _ ih =>
    intro c frame outer ops x
    simp [typeCode, walkType, typeCode?, walkType?, run_append, run_cons, ih]
  | typeSubscript _ _ ih ih' | typesCons _ _ ih ih' =>
    intro c frame outer ops x
    simp [typeCode, walkType, typesCode, walkTypes, run_append, ih, ih']

theorem run_exprCode (e : Expr) : ∀ c frame outer ops x,
    run i (exprCode e) ⟨c, frame, outer, ops, x⟩ =
      ⟨c, frame, outer, (walkExpr i c x e).1 :: ops, (walkExpr i c x e).2⟩ := Phrase.runs i (.value e)

theorem run_evaluate? (e : Option Expr) : ∀ c frame outer ops x,
    run i (evaluate? e) ⟨c, frame, outer, ops, x⟩ = ⟨c, frame, outer, ops, walkOption i c x e⟩ :=
  Phrase.runs i (.value? e)

/-- The parameters of a function that was just entered. -/
theorem run_parametersCode (params : Parameters Expr) : ∀ c returns outer ops x,
    run i (parametersCode params) ⟨c, ⟨returns, []⟩, outer, ops, x⟩ =
      ⟨c, ⟨returns, (walkParameters i c x params).1⟩, outer, ops, (walkParameters i c x params).2⟩ :=
  Phrase.runs i (.parameters params)

theorem run_targetCode (e : Expr) : ∀ c frame outer v ops x,
    run i (targetCode e) ⟨c, frame, outer, v :: ops, x⟩ =
      ⟨c, frame, outer, ops, walkTarget i c v x e⟩ := Phrase.runs i (.target e)

theorem run_typeCode (e : Expr) : ∀ c frame outer ops x,
    run i (typeCode e) ⟨c, frame, outer, ops, x⟩ = ⟨c, frame, outer, ops, walkType i c x e⟩ :=
  Phrase.runs i (.type e)

theorem run_typeCode? (e : Option Expr) : ∀ c frame outer ops x,
    run i (typeCode? e) ⟨c, frame, outer, ops, x⟩ = ⟨c, frame, outer, ops, walkType? i c x e⟩ :=
  Phrase.runs i (.type? e)

theorem run_assignCode (targets : List Expr) (c : ScopeChain) (frame : Frame) (outer : List Frame)
    (v : Option ValueSet) (ops : List (Option ValueSet)) (x : σ) :
    run i (assignCode targets) ⟨c, frame, outer, v :: ops, x⟩ =
      ⟨c, frame, outer, ops, walkAssign i c v x targets⟩ := by
  unfold assignCode walkAssign
  rw [run_append]
  induction targets generalizing x with
  | nil => rfl
  | cons target targets ih =>
    rw [List.flatMap_cons, run_append, List.foldl_cons, ← ih]
    congr 2
    rw [run_cons, step_copy, run_targetCode]

theorem run_withItems (items : List WithItem) (c : ScopeChain) (frame : Frame)
    (outer : List Frame) (ops : List (Option ValueSet)) (x : σ) :
    run i (items.flatMap withItemCode) ⟨c, frame, outer, ops, x⟩ =
      ⟨c, frame, outer, ops, items.foldl (walkItem i c) x⟩ := by
  induction items generalizing x with
  | nil => rfl
  | cons item items ih =>
    obtain ⟨context, target⟩ := item
    rw [List.flatMap_cons, run_append, List.foldl_cons, ← ih]
    congr 1
    cases target <;> simp [withItemCode, walkItem, run_append, run_cons, run_exprCode, run_targetCode]

/-- What running the code of a clause does: it adds to what the innermost scope returns. -/
abbrev Clause.Runs (q : Clause) : Prop := ∀ c returns params outer ops x,
  run i q.code ⟨c, ⟨returns, params⟩, outer, ops, x⟩ =
    ⟨c, ⟨(q.after i c (returns, x)).1, params⟩, outer, ops, (q.after i c (returns, x)).2⟩

theorem Clause.runs (q : Clause) : q.Runs i := by
  have h := q.built
  induction h with
  | functionDef _ ih | classDef _ ih | withStmt _ ih =>
    intro c returns params outer ops x
    simp [stmtCode, walkStmt, run_append, run_cons, run_typeCode?, run_parametersCode,
      Phrase.runs i (.types _), run_withItems, ih]
  | forStmt _ _ ih ih' | whileStmt _ _ ih ih' | ifStmt _ _ ih ih' =>
    intro c returns params outer ops x
    simp [stmtCode, walkStmt, run_append, run_cons, run_exprCode, run_targetCode, ih, ih']
  | tryStmt _ _ _ _ ih ih' ih'' ih3 =>
    intro c returns params outer ops x
    simp [stmtCode, walkStmt, run_append, ih, ih', ih'', ih3]
  | returnNone | opaqueStmt | blockNil | handlersNil =>
    exact fun _ _ _ _ _ _ => rfl
  | delete | returnSome | assign | augAssign | annAssignNone | annAssignSome | raise | assert
  | expr =>
    intro c returns params outer ops x
    simp [stmtCode, walkStmt, run_append, run_cons, run_exprCode, run_evaluate?, run_targetCode,
      run_typeCode, run_assignCode, Phrase.runs i (.values _)]
  | blockCons _ _ ih ih' =>
    intro c returns params outer ops x
    simp [blockCode, walkBlock, run_append, ih, ih']
  | @handlersCons _ name _ _ _ _ ih ih' =>
    intro c returns params outer ops x
    cases name <;>
      simp [handlersCode, walkHandlers, walkUnknown, run_append, run_cons, run_typeCode?, ih, ih']

theorem run_stmtCode (st : Stmt) : ∀ c returns params outer ops x,
    run i (stmtCode st) ⟨c, ⟨returns, params⟩, outer, ops, x⟩ =
      ⟨c, ⟨(walkStmt i c (returns, x) st).1, params⟩, outer, ops, (walkStmt i c (returns, x) st).2⟩ :=
  Clause.runs i (.statement st)

theorem run_blockCode (ss : List Stmt) : ∀ c returns params outer ops x,
    run i (blockCode ss) ⟨c, ⟨returns, params⟩, outer, ops, x⟩ =
      ⟨c, ⟨(walkBlock i c (returns, x) ss).1, params⟩, outer, ops, (walkBlock i c (returns, x) ss).2⟩ :=
  Clause.runs i (.block ss)

/-- The run of a module is the walk of its body. -/
theorem runModule_eq (m : SourceModule) (x : σ) :
    runModule i m x = (walkBlock i (.root m.root) (none, x) m.body).2 := by
  unfold runModule State.start Frame.start
  rw [run_blockCode]

end Running

end NameFlow.Flow
