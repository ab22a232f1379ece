import NameFlow.Proofs.Flow.Phrase
import NameFlow.Scope

/-!
# The functions of a tree

Functions can be opened by statements, but as lambdas also in the middle of expressions. The code of
a tree goes through all of them, each from its start to its end, and between the two stands the code
of its parameters and its body and nothing else.
-/

namespace NameFlow.Flow

set_option autoImplicit false

open Python

inductive FunctionBody
  | statements (body : List Stmt)
  /-- The body of a lambda. -/
  | value (e : Expr)

/-- A function or lambda, with the scopes around it. -/
structure FunctionTree where
  scopes : ScopeChain
  name : String
  params : Parameters Expr
  body : FunctionBody

section Trees

mutual

def exprFunctions (c : ScopeChain) : Expr → List FunctionTree
  | .boolOp values => allFunctions c values
  | .binOp left right => exprFunctions c left ++ exprFunctions c right
  | .unaryOp operand => exprFunctions c operand
  | .lambda position params body =>
    let inner := c.push position.lambdaName .function
    parametersFunctions inner params ++ exprFunctions inner body ++
      [⟨c, position.lambdaName, params, .value body⟩]
  | .ifExp test body orelse =>
    exprFunctions c test ++ (exprFunctions c body ++ exprFunctions c orelse)
  | .namedExpr target value => exprFunctions c value ++ targetFunctions c target
  | .dict keys values => keysFunctions c keys ++ allFunctions c values
  | .set elts => allFunctions c elts
  | .comprehension kind element value generators =>
    exprFunctions c element ++ ((if kind = .dict then optionFunctions c value else []) ++
      generatorsFunctions c generators)
  | .await value => exprFunctions c value
  | .yield value => optionFunctions c value
  | .yieldFrom value => exprFunctions c value
  | .compare left comparators => exprFunctions c left ++ allFunctions c comparators
  | .call func args keywords =>
    exprFunctions c func ++ allFunctions c args ++ keywordsFunctions c keywords
  | .formattedValue value => exprFunctions c value
  | .joinedStr values => allFunctions c values
  | .constant => []
  | .attribute value _ => exprFunctions c value
  | .subscript value slice => exprFunctions c value ++ exprFunctions c slice
  | .slice lower upper step =>
    optionFunctions c lower ++ optionFunctions c upper ++ optionFunctions c step
  | .starred value => exprFunctions c value
  | .name _ => []
  | .list elts => allFunctions c elts
  | .tuple elts => allFunctions c elts

def allFunctions (c : ScopeChain) : List Expr → List FunctionTree
  | [] => []
  | e :: es => exprFunctions c e ++ allFunctions c es

def optionFunctions (c : ScopeChain) : Option Expr → List FunctionTree
  | none => []
  | some e => exprFunctions c e

def keysFunctions (c : ScopeChain) : List (Option Expr) → List FunctionTree
  | [] => []
  | k :: ks => optionFunctions c k ++ keysFunctions c ks

def keywordsFunctions (c : ScopeChain) : List (Keyword Expr) → List FunctionTree
  | [] => []
  | ⟨_, value⟩ :: ks => exprFunctions c value ++ keywordsFunctions c ks

def generatorsFunctions (c : ScopeChain) : List (Generator Expr) → List FunctionTree
  | [] => []
  | ⟨target, iter, ifs⟩ :: gs =>
    exprFunctions c target ++
      (exprFunctions c iter ++ (allFunctions c ifs ++ generatorsFunctions c gs))

def parametersFunctions (c : ScopeChain) : Parameters Expr → List FunctionTree
  | ⟨positional, _, keywordOnly, _⟩ =>
    initialsFunctions c positional ++ initialsFunctions c keywordOnly

def initialsFunctions (c : ScopeChain) : List (Parameter Expr) → List FunctionTree
  | [] => []
  | ⟨_, annotation, initial⟩ :: ps =>
    typeFunctions? c annotation ++ optionFunctions c initial ++ initialsFunctions c ps

def targetFunctions (c : ScopeChain) : Expr → List FunctionTree
  | .tuple elts => targetsFunctions c elts
  | .list elts => targetsFunctions c elts
  | .starred value => targetFunctions c value
  | .attribute value _ => exprFunctions c value
  | .subscript value slice => exprFunctions c value ++ exprFunctions c slice
  | _ => []

def targetsFunctions (c : ScopeChain) : List Expr → List FunctionTree
  | [] => []
  | e :: es => targetFunctions c e ++ targetsFunctions c es

/-- In an expression that stands for a type only the owners of attributes are evaluated. -/
def typeFunctions (c : ScopeChain) : Expr → List FunctionTree
  | .tuple elts => typesFunctions c elts
  | .list elts => typesFunctions c elts
  | .attribute value _ => exprFunctions c value
  | .subscript value slice => typeFunctions c value ++ typeFunctions c slice
  | _ => []

def typesFunctions (c : ScopeChain) : List Expr → List FunctionTree
  | [] => []
  | e :: es => typeFunctions c e ++ typesFunctions c es

def typeFunctions? (c : ScopeChain) : Option Expr → List FunctionTree
  | none => []
  | some e => typeFunctions c e

end

abbrev Phrase.functions (c : ScopeChain) : Phrase → List FunctionTree
  | .value e => exprFunctions c e
  | .values es => allFunctions c es
  | .value? e => optionFunctions c e
  | .keys ks => keysFunctions c ks
  | .arguments es => allFunctions c es
  | .keywords ks => keywordsFunctions c ks
  | .generators gs => generatorsFunctions c gs
  | .parameters params => parametersFunctions c params
  | .initials ps => initialsFunctions c ps
  | .target e => targetFunctions c e
  | .targets es => targetsFunctions c es
  | .type e => typeFunctions c e
  | .types es => typesFunctions c es
  | .type? e => typeFunctions? c e

theorem targetFunctions_of_not_isTarget {e : Expr} (h : Phrase.isTarget e = false)
    (c : ScopeChain) : targetFunctions c e = [] := by
  cases e <;> first | rfl | cases h

theorem typeFunctions_of_not_isType {e : Expr} (h : Phrase.isType e = false) (c : ScopeChain) :
    typeFunctions c e = [] := by
  cases e <;> first | rfl | cases h

def itemFunctions (c : ScopeChain) (item : WithItem) : List FunctionTree :=
  exprFunctions c item.context ++ item.target.toList.flatMap (targetFunctions c)

mutual

def stmtFunctions (c : ScopeChain) : Stmt → List FunctionTree
  | .functionDef name params returns body =>
    let inner := c.push name .function
    typeFunctions? c returns ++ (parametersFunctions inner params ++ blockFunctions inner body ++
      [⟨c, name, params, .statements body⟩])
  | .classDef name bases body =>
    typesFunctions c bases ++ blockFunctions (c.push name .type) body
  | .return value => optionFunctions c value
  | .delete targets => allFunctions c targets
  | .assign targets value => exprFunctions c value ++ targets.flatMap (targetFunctions c)
  | .augAssign target value => targetFunctions c target ++ exprFunctions c value
  | .annAssign target annotation value =>
    typeFunctions c annotation ++ optionFunctions c value ++ targetFunctions c target
  | .for target iter body orelse =>
    exprFunctions c iter ++
      (targetFunctions c target ++ blockFunctions c body ++ blockFunctions c orelse)
  | .while test body orelse =>
    exprFunctions c test ++ (blockFunctions c body ++ blockFunctions c orelse)
  | .if test body orelse =>
    exprFunctions c test ++ (blockFunctions c body ++ blockFunctions c orelse)
  | .with items body => items.flatMap (itemFunctions c) ++ blockFunctions c body
  | .raise exc cause => optionFunctions c exc ++ optionFunctions c cause
  | .try body handlers orelse finalbody =>
    blockFunctions c body ++ handlersFunctions c handlers ++ blockFunctions c orelse ++
      blockFunctions c finalbody
  | .assert test msg => exprFunctions c test ++ optionFunctions c msg
  | .expr value => exprFunctions c value
  | .opaqueStmt => []

def blockFunctions (c : ScopeChain) : List Stmt → List FunctionTree
  | [] => []
  | s :: ss => stmtFunctions c s ++ blockFunctions c ss

def handlersFunctions (c : ScopeChain) : List (Handler Stmt) → List FunctionTree
  | [] => []
  | ⟨type, _, body⟩ :: hs =>
    typeFunctions? c type ++ blockFunctions c body ++ handlersFunctions c hs

end

abbrev Clause.functions (c : ScopeChain) : Clause → List FunctionTree
  | .statement st => stmtFunctions c st
  | .block ss => blockFunctions c ss
  | .handlers hs => handlersFunctions c hs

/-- The functions of a module that are evaluated, in the order in which they end. -/
def moduleFunctions (m : SourceModule) : List FunctionTree := blockFunctions (.root m.root) m.body

end Trees

section Codes

def FunctionBody.code : FunctionBody → List Step
  | .statements body => blockCode body
  | .value e => exprCode e ++ [.giveBack]

/-- The scopes inside a function. -/
def FunctionTree.inside (f : FunctionTree) : ScopeChain := f.scopes.push f.name .function

/-- What stands between the start of a function and its end. -/
def FunctionTree.code (f : FunctionTree) : List Step := parametersCode f.params ++ f.body.code

/-- Whether a step leaves the scopes as they are. -/
def Step.isPlain : Step → Bool
  | .enterType _ | .leaveType | .enterFunction _ | .leaveFunction _ => false
  | _ => true

/-- Code that, in the given scopes, goes through the functions, listed by their ends. -/
inductive Encloses : ScopeChain → List Step → List FunctionTree → Prop
  | nil {c : ScopeChain} : Encloses c [] []
  | step {c : ScopeChain} {x : Step} {code : List Step} {fs : List FunctionTree}
      (hx : x.isPlain = true) (h : Encloses c code fs) : Encloses c (x :: code) fs
  | type {c : ScopeChain} {body code : List Step} {fs gs : List FunctionTree} (name : String)
      (hbody : Encloses (c.push name .type) body fs) (h : Encloses c code gs) :
      Encloses c (.enterType name :: (body ++ .leaveType :: code)) (fs ++ gs)
  | function {code : List Step} {fs gs : List FunctionTree} (f : FunctionTree)
      (hbody : Encloses f.inside f.code fs) (h : Encloses f.scopes code gs) :
      Encloses f.scopes (.enterFunction f.name :: (f.code ++ .leaveFunction f.name :: code))
        (fs ++ f :: gs)

namespace Encloses

variable {c : ScopeChain} {x : Step} {code code' body : List Step} {fs gs : List FunctionTree}

theorem append (h : Encloses c code fs) (h' : Encloses c code' gs) :
    Encloses c (code ++ code') (fs ++ gs) := by
  induction h with
  | nil => exact h'
  | step hx _ ih => exact .step hx (ih h')
  | type name hbody _ _ ih =>
    rw [List.cons_append, List.append_assoc, List.append_assoc]
    exact .type name hbody (ih h')
  | function f hbody _ _ ih =>
    rw [List.cons_append, List.append_assoc, List.append_assoc]
    exact .function f hbody (ih h')

theorem plain {steps : List Step} (h : Encloses c code fs)
    (hsteps : steps.all Step.isPlain = true) : Encloses c (code ++ steps) fs := by
  have hplain : Encloses c steps [] := by
    induction steps with
    | nil => exact .nil
    | cons x steps ih =>
      rw [List.all_cons, Bool.and_eq_true] at hsteps
      exact .step hsteps.1 (ih hsteps.2)
  have happend := h.append hplain
  rwa [List.append_nil] at happend

theorem ofType (name : String) (h : Encloses (c.push name .type) body fs) :
    Encloses c (.enterType name :: (body ++ [.leaveType])) fs := by
  have htype := Encloses.type name h .nil
  rwa [List.append_nil] at htype

end Encloses

theorem encloses_parameterNames (params : Parameters Expr) (c : ScopeChain) :
    Encloses c (parameterNames params) [] := by
  have hparameters : ∀ ps : List (Parameter Expr), Encloses c (ps.map (.parameter ·.name)) [] := by
    intro ps
    induction ps with
    | nil => exact .nil
    | cons p ps ih => exact .step rfl ih
  have hstarred : ∀ name : String, Encloses c [.unknown, .bind name] [] := fun name =>
    .step rfl (.step rfl .nil)
  obtain ⟨positional, vararg, keywordOnly, kwarg⟩ := params
  change Encloses c _ ([] ++ [] ++ [] ++ [])
  refine (((hparameters positional).append ?_).append (hparameters keywordOnly)).append ?_
  · cases vararg with
    | none => exact .nil
    | some name => exact hstarred name
  · cases kwarg with
    | none => exact .nil
    | some name => exact hstarred name

theorem Phrase.encloses (p : Phrase) : ∀ c, Encloses c p.code (p.functions c) := by
  have h := p.built
  induction h with
  | @lambda position params body _ _ ih ih' =>
    intro c
    have hvalue : Encloses _ (exprCode body ++ [.giveBack]) _ :=
      (ih' (c.push position.lambdaName .function)).plain rfl
    have hbody := (ih (c.push position.lambdaName .function)).append hvalue
    have hfunction := Encloses.function ⟨c, position.lambdaName, params, .value body⟩ hbody
      (.step (x := .unknown) rfl .nil)
    simpa [exprCode, exprFunctions, FunctionTree.code, FunctionBody.code] using hfunction
  | @comprehension kind _ value _ _ _ _ ih ih' ih'' =>
    intro c
    have hvalue : Encloses c (if kind = .dict then evaluate? value else [])
        (if kind = .dict then optionFunctions c value else []) := by
      split
      · exact ih' c
      · exact .nil
    exact (ih c).append (.step rfl ((hvalue.append (ih'' c)).plain rfl))
  | keywordsCons _ _ ih ih' =>
    intro c
    refine Encloses.append ?_ (ih' c)
    split
    · exact (ih c).plain rfl
    · exact (ih c).plain rfl
  | targetOther h =>
    intro c
    simp only [targetCode_of_not_isTarget h, targetFunctions_of_not_isTarget h]
    exact .step rfl .nil
  | typeOther h =>
    intro c
    simp only [typeCode_of_not_isType h, typeFunctions_of_not_isType h]
    exact .nil
  | constant | name | targetName | typeName => exact fun c => .step rfl .nil
  | valuesNil | valueNone | keysNil | argumentsNil | keywordsNil | generatorsNil | initialsNil
  | targetsNil | typesNil | typeNone => exact fun c => .nil
  | unaryOp _ ih | await _ ih | typeTuple _ ih | typeList _ ih | typeSome _ ih => exact fun c => ih c
  | yieldFrom _ ih | formattedValue _ ih | attr _ ih | starred _ ih | boolOp _ ih | set _ ih
  | joinedStr _ ih | list _ ih | tuple _ ih | yield _ ih | valueSome _ ih | targetAttribute _ ih
  | typeAttribute _ ih => exact fun c => (ih c).plain rfl
  | targetTuple _ ih | targetList _ ih => exact fun c => (ih c).step rfl
  | targetStarred _ ih => exact fun c => .step rfl ((ih c).step rfl)
  | binOp _ _ ih ih' | namedExpr _ _ ih ih' | valuesCons _ _ ih ih' =>
    exact fun c => (ih c).append ((ih' c).step rfl)
  | keysCons _ _ ih ih' | argumentsCons _ _ ih ih' | typeSubscript _ _ ih ih'
  | typesCons _ _ ih ih' => exact fun c => (ih c).append (ih' c)
  | dict _ _ ih ih' => exact fun c => ((ih c).append (ih' c)).plain rfl
  | compare _ _ ih ih' | subscript _ _ ih ih' =>
    exact fun c => (ih c).append (.step rfl ((ih' c).plain rfl))
  | targetSubscript _ _ ih ih' =>
    exact fun c => .step rfl ((ih c).append (.step rfl ((ih' c).plain rfl)))
  | targetsCons _ _ ih ih' => exact fun c => .step rfl ((ih c).append (ih' c))
  | parameters _ _ ih ih' =>
    exact fun c => (encloses_parameterNames _ c).append ((ih c).append (ih' c))
  | ifExp _ _ _ ih ih' ih'' =>
    exact fun c => (ih c).append (.step rfl (((ih' c).append (ih'' c)).plain rfl))
  | call _ _ _ ih ih' ih'' | slice _ _ _ ih ih' ih'' =>
    exact fun c => (((ih c).append (ih' c)).append (ih'' c)).plain rfl
  | initialsCons _ _ _ ih ih' ih'' => exact fun c => ((ih c).append (ih' c)).append (ih'' c)
  | generatorsCons _ _ _ _ ih ih' ih'' ih3 =>
    intro c
    have hrest := (ih'' c).append (ih3 c)
    exact (ih c).append (.step rfl ((ih' c).append (hrest.step rfl)))

theorem encloses_assignCode (targets : List Expr) (c : ScopeChain) :
    Encloses c (assignCode targets) (targets.flatMap (targetFunctions c)) := by
  unfold assignCode
  induction targets with
  | nil => exact .step rfl .nil
  | cons target targets ih =>
    rw [List.flatMap_cons, List.flatMap_cons, List.append_assoc]
    exact .append (.step rfl (Phrase.encloses (.target target) c)) ih

theorem encloses_withItems (items : List WithItem) (c : ScopeChain) :
    Encloses c (items.flatMap withItemCode) (items.flatMap (itemFunctions c)) := by
  induction items with
  | nil => exact .nil
  | cons item items ih =>
    obtain ⟨context, target⟩ := item
    rw [List.flatMap_cons, List.flatMap_cons]
    refine .append (.append (Phrase.encloses (.value context) c) ?_) ih
    cases target with
    | none => exact .step rfl .nil
    | some target =>
      rw [Option.toList_some, List.flatMap_singleton]
      exact Phrase.encloses (.target target) c

theorem Clause.encloses (q : Clause) : ∀ c, Encloses c q.code (q.functions c) := by
  have h := q.built
  induction h with
  | @functionDef name params returns body _ ih =>
    intro c
    have hbody := (Phrase.encloses (.parameters params) (c.push name .function)).append (ih _)
    exact (Phrase.encloses (.type? returns) c).append
      (.function ⟨c, name, params, .statements body⟩ hbody .nil)
  | @classDef name bases _ _ ih =>
    intro c
    exact .step rfl ((Phrase.encloses (.types bases) c).append (.ofType name (ih _)))
  | returnNone | opaqueStmt | blockNil | handlersNil => exact fun c => .nil
  | @returnSome e | @expr e => exact fun c => (Phrase.encloses (.value e) c).plain rfl
  | @delete targets => exact fun c => Phrase.encloses (.values targets) c
  | @assign targets value =>
    exact fun c => (Phrase.encloses (.value value) c).append (encloses_assignCode targets c)
  | @augAssign target value =>
    intro c
    have htarget := Phrase.encloses (.target target) c
    exact .step rfl ((htarget.append (Phrase.encloses (.value value) c)).plain rfl)
  | @annAssignNone target annotation =>
    intro c
    have hdeclared := Phrase.encloses (.type annotation) c
    exact (hdeclared.append (.step (x := .unknown) rfl .nil)).append
      (Phrase.encloses (.target target) c)
  | @annAssignSome target annotation e =>
    intro c
    have hdeclared := Phrase.encloses (.type annotation) c
    exact (hdeclared.append (Phrase.encloses (.value e) c)).append
      (Phrase.encloses (.target target) c)
  | @forStmt target iter _ _ _ _ ih ih' =>
    intro c
    have htarget := (Phrase.encloses (.target target) c).append (ih c)
    exact (Phrase.encloses (.value iter) c).append (.step rfl (.step rfl (htarget.append (ih' c))))
  | @whileStmt test _ _ _ _ ih ih' | @ifStmt test _ _ _ _ ih ih' =>
    intro c
    have hblocks := (ih c).append (ih' c)
    exact (Phrase.encloses (.value test) c).append (hblocks.step rfl)
  | @withStmt items _ _ ih => exact fun c => (encloses_withItems items c).append (ih c)
  | @raise exc cause =>
    exact fun c => (Phrase.encloses (.value? exc) c).append (Phrase.encloses (.value? cause) c)
  | tryStmt _ _ _ _ ih ih' ih'' ih3 =>
    exact fun c => (((ih c).append (ih' c)).append (ih'' c)).append (ih3 c)
  | @assert test msg =>
    intro c
    exact (Phrase.encloses (.value test) c).append ((Phrase.encloses (.value? msg) c).step rfl)
  | blockCons _ _ ih ih' => exact fun c => (ih c).append (ih' c)
  | @handlersCons type name _ _ _ _ ih ih' =>
    intro c
    have htype := Phrase.encloses (.type? type) c
    refine (Encloses.append ?_ (ih c)).append (ih' c)
    cases name with
    | none => exact htype.plain rfl
    | some name => exact htype.plain rfl

theorem encloses_blockCode (ss : List Stmt) :
    ∀ c, Encloses c (blockCode ss) (blockFunctions c ss) := Clause.encloses (.block ss)

end Codes

end NameFlow.Flow
