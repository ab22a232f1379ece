import NameFlow.Proofs.Flow.Satisfaction
import NameFlow.Proofs.Flow.Walk

/-!
# The flow constraints of a program

A program is read as a list of constraints on the table: what is assigned reaches its target,
what a function returns reaches its return slot, and the arguments of a call reach the
parameters of every function called. The constraints are read off the trees; they only speak of
the values of expressions under a table that stays as it is. A resolution round changes nothing
exactly when its table satisfies them all.
-/

namespace NameFlow.Flow

set_option autoImplicit false

open Python Resolution

/-- What an expression may give under a table; where nothing is known, nothing. -/
def eval (t : Table) (c : ScopeChain) : Expr → ValueSet
  | .name id => (lookup t c id).getD ∅
  | .attribute owner attr => attributeValues t (some (eval t c owner)) attr
  | .call func _ _ => callResult t (eval t c func)
  | .binOp _ right => eval t c right
  | .unaryOp operand => eval t c operand
  | .ifExp _ body orelse => (eval t c body).union (eval t c orelse)
  | .namedExpr _ value => eval t c value
  | .await value => eval t c value
  | _ => ∅

/-- A place of a program from which values flow, with the scopes around it. -/
inductive Constraint
  | name (scopes : ScopeChain) (id : String) (value : Expr)
  | attribute (scopes : ScopeChain) (owner : Expr) (attr : String) (value : Expr)
  /-- The current scope is that of the function. -/
  | result (scopes : ScopeChain) (value : Expr)
  | call (scopes : ScopeChain) (func : Expr) (args : List Expr) (keywords : List (Keyword Expr))

/-- The values are held at a key, if there is one. -/
def HeldAt (t : Table) (key : String) (values : ValueSet) : Prop :=
  t.contains key = true → values ⊆ t.held (.entry key)

namespace Constraint

def Satisfied (t : Table) : Constraint → Prop
  | .name c id value =>
    ∀ key, (c.lexicalKeys id).find? t.contains = some key →
      eval t c value ⊆ t.held (.entry key) ∧
        ∀ member, c.memberKey? id = some member → HeldAt t member (eval t c value)
  | .attribute c owner attr value =>
    ∀ type ∈ (eval t c owner).types, HeldAt t (memberKey type attr) (eval t c value)
  | .result c value => eval t c value ⊆ t.held (.returned c.path)
  | .call c func args keywords =>
    ∀ f ∈ (callTargets t (eval t c func)).functions, ∀ params ∈ signatures t f,
      (∀ arg ∈ (f.receiving params).zip args, HeldAt t arg.1 (eval t c arg.2)) ∧
        ∀ keyword ∈ keywords, ∀ name ∈ keyword.arg,
          ∀ key ∈ (f.receiving params).find? (fun key => basename key = name),
            HeldAt t key (eval t c keyword.value)

end Constraint

mutual

def exprConstraints (c : ScopeChain) : Expr → List Constraint
  | .boolOp values => allConstraints c values
  | .binOp left right => exprConstraints c left ++ exprConstraints c right
  | .unaryOp operand => exprConstraints c operand
  | .lambda position params body =>
    let inner := c.push position.lambdaName .function
    parametersConstraints inner params ++ exprConstraints inner body ++ [.result inner body]
  | .ifExp test body orelse =>
    exprConstraints c test ++ exprConstraints c body ++ exprConstraints c orelse
  | .namedExpr target value => exprConstraints c value ++ targetConstraints c (some value) target
  | .dict keys values => keysConstraints c keys ++ allConstraints c values
  | .set elts => allConstraints c elts
  | .comprehension kind element value generators =>
    exprConstraints c element ++ (if kind = .dict then optionConstraints c value else []) ++
      generatorsConstraints c generators
  | .await value => exprConstraints c value
  | .yield value => optionConstraints c value
  | .yieldFrom value => exprConstraints c value
  | .compare left comparators => exprConstraints c left ++ allConstraints c comparators
  | .call func args keywords =>
    exprConstraints c func ++ allConstraints c args ++ keywordsConstraints c keywords ++
      [.call c func args keywords]
  | .formattedValue value => exprConstraints c value
  | .joinedStr values => allConstraints c values
  | .constant => []
  | .attribute value _ => exprConstraints c value
  | .subscript value slice => exprConstraints c value ++ exprConstraints c slice
  | .slice lower upper step =>
    optionConstraints c lower ++ optionConstraints c upper ++ optionConstraints c step
  | .starred value => exprConstraints c value
  | .name _ => []
  | .list elts => allConstraints c elts
  | .tuple elts => allConstraints c elts

def allConstraints (c : ScopeChain) : List Expr → List Constraint
  | [] => []
  | e :: es => exprConstraints c e ++ allConstraints c es

def optionConstraints (c : ScopeChain) : Option Expr → List Constraint
  | none => []
  | some e => exprConstraints c e

def keysConstraints (c : ScopeChain) : List (Option Expr) → List Constraint
  | [] => []
  | k :: ks => optionConstraints c k ++ keysConstraints c ks

def keywordsConstraints (c : ScopeChain) : List (Keyword Expr) → List Constraint
  | [] => []
  | ⟨_, value⟩ :: ks => exprConstraints c value ++ keywordsConstraints c ks

def generatorsConstraints (c : ScopeChain) : List (Generator Expr) → List Constraint
  | [] => []
  | ⟨target, iter, ifs⟩ :: gs =>
    exprConstraints c target ++ exprConstraints c iter ++ allConstraints c ifs ++
      generatorsConstraints c gs

def parametersConstraints (c : ScopeChain) : Parameters Expr → List Constraint
  | ⟨positional, _, keywordOnly, _⟩ =>
    initialsConstraints c positional ++ initialsConstraints c keywordOnly

def initialsConstraints (c : ScopeChain) : List (Parameter Expr) → List Constraint
  | [] => []
  | ⟨_, annotation, initial⟩ :: ps =>
    typeConstraints? c annotation ++ optionConstraints c initial ++ initialsConstraints c ps

/-- Only a direct target is constrained: the parts of a pattern receive nothing known. -/
def targetConstraints (c : ScopeChain) (value : Option Expr) : Expr → List Constraint
  | .name id => value.toList.map (.name c id ·)
  | .tuple elts => targetsConstraints c elts
  | .list elts => targetsConstraints c elts
  | .starred target => targetConstraints c none target
  | .attribute owner attr => exprConstraints c owner ++ value.toList.map (.attribute c owner attr ·)
  | .subscript target slice => exprConstraints c target ++ exprConstraints c slice
  | _ => []

def targetsConstraints (c : ScopeChain) : List Expr → List Constraint
  | [] => []
  | e :: es => targetConstraints c none e ++ targetsConstraints c es

def typeConstraints (c : ScopeChain) : Expr → List Constraint
  | .tuple elts => typesConstraints c elts
  | .list elts => typesConstraints c elts
  | .attribute value _ => exprConstraints c value
  | .subscript value slice => typeConstraints c value ++ typeConstraints c slice
  | _ => []

def typesConstraints (c : ScopeChain) : List Expr → List Constraint
  | [] => []
  | e :: es => typeConstraints c e ++ typesConstraints c es

def typeConstraints? (c : ScopeChain) : Option Expr → List Constraint
  | none => []
  | some e => typeConstraints c e

end

theorem targetConstraints_of_not_isTarget {e : Expr} (h : Phrase.isTarget e = false)
    (c : ScopeChain) (value : Option Expr) : targetConstraints c value e = [] := by
  cases e <;> first | rfl | cases h

theorem typeConstraints_of_not_isType {e : Expr} (h : Phrase.isType e = false) (c : ScopeChain) :
    typeConstraints c e = [] := by
  cases e <;> first | rfl | cases h

def itemConstraints (c : ScopeChain) (item : WithItem) : List Constraint :=
  exprConstraints c item.context ++
    item.target.toList.flatMap (targetConstraints c (some item.context))

mutual

/-- What the scope around a statement returns in it. -/
def stmtReturns : Stmt → List Expr
  | .return value => value.toList
  | .for _ _ body orelse => blockReturns body ++ blockReturns orelse
  | .while _ body orelse => blockReturns body ++ blockReturns orelse
  | .if _ body orelse => blockReturns body ++ blockReturns orelse
  | .with _ body => blockReturns body
  | .try body handlers orelse finalbody =>
    blockReturns body ++ handlersReturns handlers ++ blockReturns orelse ++ blockReturns finalbody
  | _ => []

def blockReturns : List Stmt → List Expr
  | [] => []
  | s :: ss => stmtReturns s ++ blockReturns ss

def handlersReturns : List (Handler Stmt) → List Expr
  | [] => []
  | ⟨_, _, body⟩ :: hs => blockReturns body ++ handlersReturns hs

end

abbrev Clause.returns : Clause → List Expr
  | .statement st => stmtReturns st
  | .block ss => blockReturns ss
  | .handlers hs => handlersReturns hs

mutual

def stmtConstraints (c : ScopeChain) : Stmt → List Constraint
  | .functionDef name params returns body =>
    let inner := c.push name .function
    typeConstraints? c returns ++ parametersConstraints inner params ++ blockConstraints inner body ++
      (blockReturns body).map (.result inner)
  | .classDef name bases body =>
    typesConstraints c bases ++ blockConstraints (c.push name .type) body
  | .return value => optionConstraints c value
  | .delete targets => allConstraints c targets
  | .assign targets value =>
    exprConstraints c value ++ targets.flatMap (targetConstraints c (some value))
  | .augAssign target value => targetConstraints c none target ++ exprConstraints c value
  | .annAssign target annotation value =>
    typeConstraints c annotation ++ optionConstraints c value ++ targetConstraints c value target
  | .for target iter body orelse =>
    exprConstraints c iter ++ targetConstraints c none target ++ blockConstraints c body ++
      blockConstraints c orelse
  | .while test body orelse =>
    exprConstraints c test ++ blockConstraints c body ++ blockConstraints c orelse
  | .if test body orelse =>
    exprConstraints c test ++ blockConstraints c body ++ blockConstraints c orelse
  | .with items body => items.flatMap (itemConstraints c) ++ blockConstraints c body
  | .raise exc cause => optionConstraints c exc ++ optionConstraints c cause
  | .try body handlers orelse finalbody =>
    blockConstraints c body ++ handlersConstraints c handlers ++ blockConstraints c orelse ++
      blockConstraints c finalbody
  | .assert test msg => exprConstraints c test ++ optionConstraints c msg
  | .expr value => exprConstraints c value
  | .opaqueStmt => []

def blockConstraints (c : ScopeChain) : List Stmt → List Constraint
  | [] => []
  | s :: ss => stmtConstraints c s ++ blockConstraints c ss

def handlersConstraints (c : ScopeChain) : List (Handler Stmt) → List Constraint
  | [] => []
  | ⟨type, _, body⟩ :: hs =>
    typeConstraints? c type ++ blockConstraints c body ++ handlersConstraints c hs

end

/-- The flow constraints of a module. -/
def constraints (m : SourceModule) : List Constraint := blockConstraints (.root m.root) m.body

section Meeting

variable {t : Table}

theorem meets_entryInflow_iff {key : String} {values : ValueSet} :
    (∀ f ∈ entryInflow t key values, t.Meets f) ↔ HeldAt t key values := by
  unfold entryInflow HeldAt
  split
  · rename_i hk
    rw [List.forall_mem_singleton]
    exact ⟨fun h _ => h, fun h => h hk⟩
  · rename_i hk
    exact ⟨fun _ h => absurd h hk, fun _ => nofun⟩

theorem meets_argumentInflow_iff {key : String} {v : Option ValueSet} :
    (∀ f ∈ argumentInflow t key v, t.Meets f) ↔ HeldAt t key (v.getD ∅) := by
  cases v with
  | none => exact ⟨fun _ _ => ValueSet.empty_subset _, fun _ => nofun⟩
  | some values => exact meets_entryInflow_iff

theorem meets_returnInflows_iff {c : ScopeChain} {name : String} {v : Option ValueSet} :
    (∀ f ∈ returnInflows c name v, t.Meets f) ↔ v.getD ∅ ⊆ t.held (.returned (c.key name)) := by
  cases v with
  | none => exact ⟨fun _ => ValueSet.empty_subset _, fun _ => nofun⟩
  | some values => exact List.forall_mem_singleton

theorem meets_lexicalInflows_iff {c : ScopeChain} {id : String} {values : ValueSet} :
    (∀ f ∈ lexicalInflows t c id values, t.Meets f) ↔
      ∀ key, (c.lexicalKeys id).find? t.contains = some key →
        values ⊆ t.held (.entry key) ∧
          ∀ member, c.memberKey? id = some member → HeldAt t member values := by
  unfold lexicalInflows
  cases (c.lexicalKeys id).find? t.contains with
  | none => simp
  | some key =>
    simp only [List.forall_mem_cons, Option.some.injEq, forall_eq']
    refine and_congr Iff.rfl ?_
    cases c.memberKey? id with
    | none => simp
    | some member =>
      simp only [Option.some.injEq, forall_eq']
      exact meets_entryInflow_iff

theorem meets_bindName_iff {c : ScopeChain} {id : String} {v : Option ValueSet} :
    (∀ f ∈ bindInflows t c id .lexical v, t.Meets f) ↔
      ∀ key, (c.lexicalKeys id).find? t.contains = some key →
        v.getD ∅ ⊆ t.held (.entry key) ∧
          ∀ member, c.memberKey? id = some member → HeldAt t member (v.getD ∅) := by
  cases v with
  | none =>
    refine ⟨fun _ key _ => ⟨ValueSet.empty_subset _, fun _ _ _ => ValueSet.empty_subset _⟩, ?_⟩
    exact fun _ => nofun
  | some values => exact meets_lexicalInflows_iff

theorem meets_bindAttribute_iff {c : ScopeChain} {attr : String} {owner v : Option ValueSet} :
    (∀ f ∈ bindInflows t c attr (.attribute owner) v, t.Meets f) ↔
      ∀ type ∈ (owner.getD ∅).types, HeldAt t (memberKey type attr) (v.getD ∅) := by
  cases v with
  | none => exact ⟨fun _ _ _ _ => ValueSet.empty_subset _, fun _ => nofun⟩
  | some values =>
    show (∀ f ∈ List.flatMap _ _, t.Meets f) ↔ _
    simp only [List.forall_mem_flatMap, meets_entryInflow_iff]
    exact Iff.rfl

/-- Each argument of a call is held by the parameter that it is moved into. -/
theorem meets_callInflows_iff {callee : Option ValueSet} {args : List (Option ValueSet)}
    {named : List (String × Option ValueSet)} :
    (∀ f ∈ callInflows t callee args named, t.Meets f) ↔
      ∀ f ∈ (callTargets t (callee.getD ∅)).functions, ∀ params ∈ signatures t f,
        (∀ arg ∈ (f.receiving params).zip args, HeldAt t arg.1 (arg.2.getD ∅)) ∧
          ∀ arg ∈ named, ∀ key ∈ (f.receiving params).find? (fun key => basename key = arg.1),
            HeldAt t key (arg.2.getD ∅) := by
  unfold callInflows functionInflows positionalInflows keywordInflows
  simp only [List.forall_mem_flatMap, List.forall_mem_append, meets_argumentInflow_iff]
  refine forall₂_congr fun f _ => forall₂_congr fun params _ => and_congr Iff.rfl ?_
  refine forall₂_congr fun arg _ => ?_
  cases (f.receiving params).find? fun key => basename key = arg.1 with
  | none => simp
  | some key => simp [meets_argumentInflow_iff]

end Meeting

/-- A check that has come this far, and then the given constraints. -/
def After (t : Table) (p : Prop) (ks : List Constraint) : Prop := p ∧ ∀ k ∈ ks, k.Satisfied t

/-- What is known to be returned, with the given results added. -/
def returned (t : Table) (c : ScopeChain) (r : Option ValueSet) (es : List Expr) :
    Option ValueSet :=
  es.foldl (fun r e => joinKnown r (eval t c e).nonEmpty?) r

section Checking

variable (t : Table) (c : ScopeChain) (p : Prop)

@[simp] theorem after_nil : After t p [] = p := by simp [After]

@[simp] theorem returned_nil (r : Option ValueSet) : returned t c r [] = r := rfl

@[simp] theorem returned_singleton (r : Option ValueSet) (e : Expr) :
    returned t c r [e] = joinKnown r (eval t c e).nonEmpty? := rfl

theorem after_append (ks ls : List Constraint) :
    After t p (ks ++ ls) = After t (After t p ks) ls := by
  simp only [After, List.forall_mem_append, and_assoc]

theorem after_singleton (k : Constraint) : After t p [k] = (p ∧ k.Satisfied t) := by simp [After]

theorem returned_append (r : Option ValueSet) (es es' : List Expr) :
    returned t c r (es ++ es') = returned t c (returned t c r es) es' := List.foldl_append

theorem returned_subset_iff (r : Option ValueSet) (es : List Expr) (s : ValueSet) :
    (returned t c r es).getD ∅ ⊆ s ↔ r.getD ∅ ⊆ s ∧ ∀ e ∈ es, eval t c e ⊆ s := by
  induction es generalizing r with
  | nil => simp [returned]
  | cons e es ih =>
    have hj : (joinKnown r (eval t c e).nonEmpty?).getD ∅ ⊆ s ↔
        r.getD ∅ ⊆ s ∧ eval t c e ⊆ s := by
      constructor
      · intro h
        refine ⟨fun i hi => h i (mem_joinKnown.mpr (Or.inl hi)), fun i hi => ?_⟩
        rw [← ValueSet.getD_nonEmpty? (eval t c e)] at hi
        exact h i (mem_joinKnown.mpr (Or.inr hi))
      · rintro ⟨hr, he⟩ i hi
        rcases mem_joinKnown.mp hi with hi | hi
        · exact hr i hi
        · rw [ValueSet.getD_nonEmpty?] at hi
          exact he i hi
    rw [List.forall_mem_cons, ← and_assoc, ← hj]
    exact ih _

@[simp] theorem checking_enterFunction (name : String) :
    (checking t).enterFunction c name p = p := rfl

@[simp] theorem checking_declareType (name : String) : (checking t).declareType c name p = p := rfl

@[simp] theorem checking_useType (name : String) : (checking t).useType c name p = p := rfl

theorem checking_read (id : String) :
    (checking t).readVariable c id .lexical p = ((eval t c (.name id)).nonEmpty?, p) := by
  show (readValue t c id .lexical, p) = _
  unfold readValue eval
  cases lookup t c id <;> rfl

theorem checking_readAttribute (owner : Expr) (attr : String) :
    (checking t).readVariable c attr (.attribute (eval t c owner).nonEmpty?) p =
      ((eval t c (.attribute owner attr)).nonEmpty?, p) := by
  show (readValue t c attr _, p) = _
  simp only [readValue, eval, attributeValues, ValueSet.getD_nonEmpty?, Option.getD_some]

theorem checking_bindUnknown (name : String) (site : Site) :
    ((checking t).bindVariable c name site none p).2 = p := by
  show (p ∧ ∀ f ∈ [], t.Meets f) = p
  simp

theorem checking_bindName (id : String) (value : Expr) :
    ((checking t).bindVariable c id .lexical (eval t c value).nonEmpty? p).2 =
      After t p [.name c id value] := by
  show (p ∧ _) = _
  rw [after_singleton, meets_bindName_iff, ValueSet.getD_nonEmpty?]
  rfl

theorem checking_bindAttribute (owner : Expr) (attr : String) (value : Expr) :
    ((checking t).bindVariable c attr (.attribute (eval t c owner).nonEmpty?)
        (eval t c value).nonEmpty? p).2 =
      After t p [.attribute c owner attr value] := by
  show (p ∧ _) = _
  rw [after_singleton, meets_bindAttribute_iff, ValueSet.getD_nonEmpty?, ValueSet.getD_nonEmpty?]
  rfl

theorem checking_declareFunction (name : String) (es : List Expr) (params : List String) :
    (checking t).declareFunction c name (returned t (c.push name .function) none es) params p =
      After t p (es.map (.result (c.push name .function))) := by
  show (p ∧ _) = _
  rw [meets_returnInflows_iff, returned_subset_iff, After, List.forall_mem_map]
  simp only [Option.getD_none, ValueSet.empty_subset, true_and]
  rfl

theorem checking_call (func : Expr) (args : List Expr) (keywords : List (Keyword Expr)) :
    (checking t).call c (eval t c func).nonEmpty?
        (args.map fun e => (eval t c e).nonEmpty?)
        (keywords.flatMap fun k => k.arg.toList.map fun name => (name, (eval t c k.value).nonEmpty?))
        p =
      ((eval t c (.call func args keywords)).nonEmpty?, After t p [.call c func args keywords]) := by
  show (callValue t _, (p ∧ _)) = _
  rw [after_singleton, meets_callInflows_iff]
  simp only [callValue, eval, ValueSet.getD_nonEmpty?, Constraint.Satisfied,
    List.forall_mem_flatMap, List.forall_mem_map, List.zip_map_right, Prod.map_fst, Prod.map_snd,
    id_eq, Option.mem_toList, Option.mem_def]

end Checking

section Walking

variable (t : Table)

theorem walkUnknown_checking (c : ScopeChain) (p : Prop) (name : Option String) :
    walkUnknown (checking t) c p name = p := by
  cases name with
  | none => rfl
  | some name => exact checking_bindUnknown t c p name .lexical

theorem walkParameter_checking (c : ScopeChain) (ps : List (Parameter Expr))
    (r : List String × Prop) : (ps.foldl (walkParameter (checking t) c) r).2 = r.2 := by
  induction ps generalizing r with
  | nil => rfl
  | cons param ps ih =>
    rw [List.foldl_cons, ih]
    exact checking_bindUnknown t c r.2 param.name .lexical

theorem walkNames_checking (c : ScopeChain) (params : Parameters Expr) (p : Prop) :
    (walkNames (checking t) c params p).2 = p := by
  unfold walkNames
  dsimp only
  rw [walkUnknown_checking, walkParameter_checking, walkUnknown_checking, walkParameter_checking]

/-- The check of a phrase goes on with the constraints of the phrase, and what it finds are the
values under the table. -/
abbrev Phrase.Checks : Phrase → Prop
  | .value e => ∀ c p,
      walkExpr (checking t) c p e = ((eval t c e).nonEmpty?, After t p (exprConstraints c e))
  | .values es => ∀ c p, walkAll (checking t) c p es = After t p (allConstraints c es)
  | .value? e => ∀ c p, walkOption (checking t) c p e = After t p (optionConstraints c e)
  | .keys ks => ∀ c p, walkKeys (checking t) c p ks = After t p (keysConstraints c ks)
  | .arguments es => ∀ c p, walkArguments (checking t) c p es =
      (es.map fun e => (eval t c e).nonEmpty?, After t p (allConstraints c es))
  | .keywords ks => ∀ c p, walkKeywords (checking t) c p ks =
      (ks.flatMap fun k => k.arg.toList.map fun name => (name, (eval t c k.value).nonEmpty?),
        After t p (keywordsConstraints c ks))
  | .generators gs => ∀ c p,
      walkGenerators (checking t) c p gs = After t p (generatorsConstraints c gs)
  | .parameters params => ∀ c p,
      (walkParameters (checking t) c p params).2 = After t p (parametersConstraints c params)
  | .initials ps => ∀ c p, walkInitials (checking t) c p ps = After t p (initialsConstraints c ps)
  | .target e => ∀ c value p,
      walkTarget (checking t) c (value.bind fun e => (eval t c e).nonEmpty?) p e =
        After t p (targetConstraints c value e)
  | .targets es => ∀ c p, walkTargets (checking t) c p es = After t p (targetsConstraints c es)
  | .type e => ∀ c p, walkType (checking t) c p e = After t p (typeConstraints c e)
  | .types es => ∀ c p, walkTypes (checking t) c p es = After t p (typesConstraints c es)
  | .type? e => ∀ c p, walkType? (checking t) c p e = After t p (typeConstraints? c e)

theorem Phrase.checks (p : Phrase) : p.Checks t := by
  have h := p.built
  induction h with
  | @lambda position _ body _ _ ih ih' =>
    intro c p
    have hd := fun q ps => checking_declareFunction t c q position.lambdaName [body] ps
    simp only [returned, List.foldl_cons, List.foldl_nil, joinKnown] at hd
    simp [walkExpr, exprConstraints, eval, after_append, ih, ih', hd]
  | @namedExpr _ value _ _ ih ih' =>
    intro c p
    have ht := fun q => ih' c (some value) q
    simp only [Option.bind_some] at ht
    simp [walkExpr, exprConstraints, eval, after_append, ih, ht]
  | @comprehension kind _ _ _ _ _ _ ih ih' ih'' =>
    intro c p
    by_cases hk : kind = .dict <;>
      simp [walkExpr, exprConstraints, eval, after_append, hk, ih, ih', ih'']
  | call _ _ _ ih ih' ih'' =>
    intro c p
    rw [walkExpr]
    simp only [ih, ih', ih'', checking_call]
    simp [exprConstraints, after_append]
  | attr _ ih =>
    intro c p
    simp only [walkExpr, ih, checking_readAttribute, exprConstraints]
  | name =>
    intro c p
    simp only [walkExpr, checking_read, exprConstraints, after_nil]
  | constant =>
    intro c p
    simp [walkExpr, exprConstraints, eval]
  | unaryOp _ ih | await _ ih | yieldFrom _ ih | formattedValue _ ih | starred _ ih | boolOp _ ih
  | set _ ih | joinedStr _ ih | list _ ih | tuple _ ih | yield _ ih =>
    intro c p
    simp [walkExpr, exprConstraints, eval, ih]
  | binOp _ _ ih ih' | dict _ _ ih ih' | compare _ _ ih ih' | subscript _ _ ih ih' =>
    intro c p
    simp [walkExpr, exprConstraints, eval, after_append, ih, ih']
  | ifExp _ _ _ ih ih' ih'' | slice _ _ _ ih ih' ih'' =>
    intro c p
    simp [walkExpr, exprConstraints, eval, after_append, joinKnown_nonEmpty?, ih, ih', ih'']
  | valuesNil | valueNone | keysNil | argumentsNil | keywordsNil | generatorsNil | initialsNil
  | targetsNil | typesNil | typeNone =>
    intro c p
    simp [walkAll, allConstraints, walkOption, optionConstraints, walkKeys, keysConstraints,
      walkArguments, walkKeywords, keywordsConstraints, walkGenerators, generatorsConstraints,
      walkInitials, initialsConstraints, walkTargets, targetsConstraints, walkTypes,
      typesConstraints, walkType?, typeConstraints?]
  | valueSome _ ih =>
    intro c p
    simp [walkOption, optionConstraints, ih]
  | valuesCons _ _ ih ih' | keysCons _ _ ih ih' | argumentsCons _ _ ih ih'
  | keywordsCons _ _ ih ih' =>
    intro c p
    simp [walkAll, allConstraints, walkKeys, keysConstraints, walkArguments, walkKeywords,
      keywordsConstraints, after_append, ih, ih']
  | generatorsCons _ _ _ _ ih ih' ih'' ih3 =>
    intro c p
    simp [walkGenerators, generatorsConstraints, after_append, ih, ih', ih'', ih3]
  | parameters _ _ ih ih' =>
    intro c p
    simp [walkParameters, parametersConstraints, after_append, walkNames_checking, ih, ih']
  | initialsCons _ _ _ ih ih' ih'' =>
    intro c p
    simp [walkInitials, initialsConstraints, after_append, ih, ih', ih'']
  | targetName =>
    intro c value p
    cases value with
    | none => simp [walkTarget, targetConstraints, checking_bindUnknown]
    | some value => simp [walkTarget, targetConstraints, checking_bindName]
  | targetTuple _ ih | targetList _ ih =>
    intro c value p
    simp [walkTarget, targetConstraints, ih]
  | targetStarred _ ih =>
    intro c value p
    have ht := fun q => ih c none q
    simp only [Option.bind_none] at ht
    simp [walkTarget, targetConstraints, ht]
  | targetAttribute _ ih =>
    intro c value p
    cases value with
    | none => simp [walkTarget, targetConstraints, checking_bindUnknown, ih]
    | some value => simp [walkTarget, targetConstraints, after_append, checking_bindAttribute, ih]
  | targetSubscript _ _ ih ih' =>
    intro c value p
    simp [walkTarget, targetConstraints, after_append, ih, ih']
  | targetOther h =>
    intro c value p
    simp [walkTarget_of_not_isTarget _ h, targetConstraints_of_not_isTarget h]
  | targetsCons _ _ ih ih' =>
    intro c p
    have ht := fun q => ih c none q
    simp only [Option.bind_none] at ht
    simp [walkTargets, targetsConstraints, after_append, ht, ih']
  | typeName =>
    intro c p
    simp [walkType, typeConstraints]
  | typeTuple _ ih | typeList _ ih | typeAttribute _ ih | typeSome _ ih =>
    intro c p
    simp [walkType, typeConstraints, walkType?, typeConstraints?, ih]
  | typeSubscript _ _ ih ih' | typesCons _ _ ih ih' =>
    intro c p
    simp [walkType, typeConstraints, walkTypes, typesConstraints, after_append, ih, ih']
  | typeOther h =>
    intro c p
    simp [walkType_of_not_isType _ h, typeConstraints_of_not_isType h]

theorem walkExpr_checking (e : Expr) : ∀ c p, walkExpr (checking t) c p e =
    ((eval t c e).nonEmpty?, After t p (exprConstraints c e)) := Phrase.checks t (.value e)

theorem walkOption_checking (e : Option Expr) : ∀ c p,
    walkOption (checking t) c p e = After t p (optionConstraints c e) := Phrase.checks t (.value? e)

theorem walkType?_checking (e : Option Expr) : ∀ c p,
    walkType? (checking t) c p e = After t p (typeConstraints? c e) := Phrase.checks t (.type? e)

theorem walkTarget_value (target value : Expr) (c : ScopeChain) (p : Prop) :
    walkTarget (checking t) c (eval t c value).nonEmpty? p target =
      After t p (targetConstraints c (some value) target) :=
  Phrase.checks t (.target target) c (some value) p

theorem walkTarget_unknown (target : Expr) (c : ScopeChain) (p : Prop) :
    walkTarget (checking t) c none p target = After t p (targetConstraints c none target) :=
  Phrase.checks t (.target target) c none p

theorem walkAssign_checking (targets : List Expr) (value : Expr) (c : ScopeChain) (p : Prop) :
    walkAssign (checking t) c (eval t c value).nonEmpty? p targets =
      After t p (targets.flatMap (targetConstraints c (some value))) := by
  unfold walkAssign
  induction targets generalizing p with
  | nil => exact (after_nil t p).symm
  | cons target targets ih =>
    rw [List.foldl_cons, ih, walkTarget_value, List.flatMap_cons, after_append]

theorem walkItems_checking (items : List WithItem) (c : ScopeChain) (p : Prop) :
    items.foldl (walkItem (checking t) c) p = After t p (items.flatMap (itemConstraints c)) := by
  induction items generalizing p with
  | nil => exact (after_nil t p).symm
  | cons item items ih =>
    obtain ⟨context, target⟩ := item
    rw [List.foldl_cons, ih, List.flatMap_cons, after_append]
    cases target with
    | none => simp [walkItem, itemConstraints, walkExpr_checking]
    | some target =>
      simp [walkItem, itemConstraints, after_append, walkExpr_checking, walkTarget_value]

/-- The check of a clause, with what is known to be returned after it. -/
abbrev Clause.Checks : Clause → Prop
  | .statement st => ∀ c r p, walkStmt (checking t) c (r, p) st =
      (returned t c r (stmtReturns st), After t p (stmtConstraints c st))
  | .block ss => ∀ c r p, walkBlock (checking t) c (r, p) ss =
      (returned t c r (blockReturns ss), After t p (blockConstraints c ss))
  | .handlers hs => ∀ c r p, walkHandlers (checking t) c (r, p) hs =
      (returned t c r (handlersReturns hs), After t p (handlersConstraints c hs))

theorem Clause.checks (q : Clause) : q.Checks t := by
  have h := q.built
  induction h with
  | functionDef _ ih | classDef _ ih | withStmt _ ih =>
    intro c r p
    simp [walkStmt, stmtReturns, stmtConstraints, after_append, walkType?_checking,
      Phrase.checks t (.parameters _), Phrase.checks t (.types _), checking_declareFunction,
      walkItems_checking, ih]
  | forStmt _ _ ih ih' | whileStmt _ _ ih ih' | ifStmt _ _ ih ih' =>
    intro c r p
    simp [walkStmt, stmtReturns, stmtConstraints, after_append, returned_append,
      walkExpr_checking, walkTarget_unknown, ih, ih']
  | tryStmt _ _ _ _ ih ih' ih'' ih3 =>
    intro c r p
    simp [walkStmt, stmtReturns, stmtConstraints, after_append, returned_append, ih, ih', ih'', ih3]
  | returnNone | opaqueStmt | returnSome | delete | assign | augAssign | annAssignNone
  | annAssignSome | raise | assert | expr =>
    intro c r p
    simp [walkStmt, stmtReturns, stmtConstraints, optionConstraints, after_append,
      walkExpr_checking, walkOption_checking, walkTarget_unknown, walkTarget_value,
      walkAssign_checking, Phrase.checks t (.values _), Phrase.checks t (.type _)]
  | blockNil | handlersNil =>
    intro c r p
    simp [walkBlock, blockReturns, blockConstraints, walkHandlers, handlersReturns,
      handlersConstraints]
  | blockCons _ _ ih ih' =>
    intro c r p
    simp [walkBlock, blockReturns, blockConstraints, after_append, returned_append, ih, ih']
  | handlersCons _ _ ih ih' =>
    intro c r p
    simp [walkHandlers, handlersReturns, handlersConstraints, after_append, returned_append,
      walkType?_checking, walkUnknown_checking, ih, ih']

theorem satisfies_iff_constraints (m : SourceModule) :
    Satisfies t m ↔ ∀ k ∈ constraints m, k.Satisfied t := by
  unfold Satisfies constraints
  rw [runModule_eq, Clause.checks t (.block m.body)]
  exact iff_of_eq (true_and _)

/-- A round changes nothing exactly when the table satisfies the constraints of every module. -/
theorem resolutionRound_unchanged_iff_constraints (ms : List SourceModule) :
    (resolutionRound t ms).2.changed = false ↔
      ∀ m ∈ ms, ∀ k ∈ constraints m, k.Satisfied t := by
  rw [resolutionRound_unchanged_iff_satisfies]
  exact forall₂_congr fun m _ => satisfies_iff_constraints t m

end Walking

end NameFlow.Flow
