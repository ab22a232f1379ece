import NameFlow.Flow.Code

/-!
# How trees are built

A part of a tree is read in one of several ways: an expression may stand for its value, be a target
or name a type, and lists of parts are evaluated, passed or bound. A phrase is a part together with
the way it is read, and every phrase is built from smaller ones. Whatever the code does with a tree
follows this structure, so what is proved of all phrases is proved by induction on how they are
built.
-/

namespace NameFlow.Flow

set_option autoImplicit false

open Python

/-! ## Expressions -/

/-- A part of an expression and the way it is read. -/
inductive Phrase
  | value (e : Expr)
  | values (es : List Expr)
  | value? (e : Option Expr)
  | keys (ks : List (Option Expr))
  | arguments (es : List Expr)
  | keywords (ks : List (Keyword Expr))
  | generators (gs : List (Generator Expr))
  | parameters (params : Parameters Expr)
  /-- The annotations and initial values of parameters. -/
  | initials (ps : List (Parameter Expr))
  | target (e : Expr)
  | targets (es : List Expr)
  | type (e : Expr)
  | types (es : List Expr)
  | type? (e : Option Expr)

namespace Phrase

abbrev code : Phrase → List Step
  | .value e => exprCode e
  | .values es => evaluateAll es
  | .value? e => evaluate? e
  | .keys ks => evaluateKeys ks
  | .arguments es => argumentsCode es
  | .keywords ks => keywordsCode ks
  | .generators gs => generatorsCode gs
  | .parameters params => parametersCode params
  | .initials ps => initialsCode ps
  | .target e => targetCode e
  | .targets es => targetsCode es
  | .type e => typeCode e
  | .types es => typesCode es
  | .type? e => typeCode? e

/-- Whether an expression is bound or taken apart as a target. -/
def isTarget : Expr → Bool
  | .name _ | .tuple _ | .list _ | .starred _ | .attribute _ _ | .subscript _ _ => true
  | _ => false

/-- Whether an expression names types. -/
def isType : Expr → Bool
  | .name _ | .tuple _ | .list _ | .attribute _ _ | .subscript _ _ => true
  | _ => false

theorem targetCode_of_not_isTarget {e : Expr} (h : isTarget e = false) : targetCode e = [.drop] := by
  cases e <;> first | rfl | cases h

theorem typeCode_of_not_isType {e : Expr} (h : isType e = false) : typeCode e = [] := by
  cases e <;> first | rfl | cases h

/-- How a phrase is built from others. -/
inductive Built : Phrase → Prop
  | boolOp {values} : Built (.values values) → Built (.value (.boolOp values))
  | binOp {left right} : Built (.value left) → Built (.value right) →
      Built (.value (.binOp left right))
  | unaryOp {operand} : Built (.value operand) → Built (.value (.unaryOp operand))
  | lambda {position params body} : Built (.parameters params) → Built (.value body) →
      Built (.value (.lambda position params body))
  | ifExp {test body orelse} : Built (.value test) → Built (.value body) → Built (.value orelse) →
      Built (.value (.ifExp test body orelse))
  | namedExpr {target value} : Built (.value value) → Built (.target target) →
      Built (.value (.namedExpr target value))
  | dict {keys values} : Built (.keys keys) → Built (.values values) →
      Built (.value (.dict keys values))
  | set {elts} : Built (.values elts) → Built (.value (.set elts))
  | comprehension {kind element value generators} : Built (.value element) →
      Built (.value? value) → Built (.generators generators) →
      Built (.value (.comprehension kind element value generators))
  | await {value} : Built (.value value) → Built (.value (.await value))
  | yield {value} : Built (.value? value) → Built (.value (.yield value))
  | yieldFrom {value} : Built (.value value) → Built (.value (.yieldFrom value))
  | compare {left comparators} : Built (.value left) → Built (.values comparators) →
      Built (.value (.compare left comparators))
  | call {func args keywords} : Built (.value func) → Built (.arguments args) →
      Built (.keywords keywords) → Built (.value (.call func args keywords))
  | formattedValue {value} : Built (.value value) → Built (.value (.formattedValue value))
  | joinedStr {values} : Built (.values values) → Built (.value (.joinedStr values))
  | constant : Built (.value .constant)
  | attr {value attr} : Built (.value value) → Built (.value (.attribute value attr))
  | subscript {value slice} : Built (.value value) → Built (.value slice) →
      Built (.value (.subscript value slice))
  | slice {lower upper step} : Built (.value? lower) → Built (.value? upper) →
      Built (.value? step) → Built (.value (.slice lower upper step))
  | starred {value} : Built (.value value) → Built (.value (.starred value))
  | name {id} : Built (.value (.name id))
  | list {elts} : Built (.values elts) → Built (.value (.list elts))
  | tuple {elts} : Built (.values elts) → Built (.value (.tuple elts))
  | valuesNil : Built (.values [])
  | valuesCons {e es} : Built (.value e) → Built (.values es) → Built (.values (e :: es))
  | valueNone : Built (.value? none)
  | valueSome {e} : Built (.value e) → Built (.value? (some e))
  | keysNil : Built (.keys [])
  | keysCons {k ks} : Built (.value? k) → Built (.keys ks) → Built (.keys (k :: ks))
  | argumentsNil : Built (.arguments [])
  | argumentsCons {e es} : Built (.value e) → Built (.arguments es) → Built (.arguments (e :: es))
  | keywordsNil : Built (.keywords [])
  | keywordsCons {arg value ks} : Built (.value value) → Built (.keywords ks) →
      Built (.keywords (⟨arg, value⟩ :: ks))
  | generatorsNil : Built (.generators [])
  | generatorsCons {target iter ifs gs} : Built (.value target) → Built (.value iter) →
      Built (.values ifs) → Built (.generators gs) →
      Built (.generators (⟨target, iter, ifs⟩ :: gs))
  | parameters {positional vararg keywordOnly kwarg} : Built (.initials positional) →
      Built (.initials keywordOnly) → Built (.parameters ⟨positional, vararg, keywordOnly, kwarg⟩)
  | initialsNil : Built (.initials [])
  | initialsCons {name annotation initial ps} : Built (.type? annotation) →
      Built (.value? initial) → Built (.initials ps) →
      Built (.initials (⟨name, annotation, initial⟩ :: ps))
  | targetName {id} : Built (.target (.name id))
  | targetTuple {elts} : Built (.targets elts) → Built (.target (.tuple elts))
  | targetList {elts} : Built (.targets elts) → Built (.target (.list elts))
  | targetStarred {value} : Built (.target value) → Built (.target (.starred value))
  | targetAttribute {value attr} : Built (.value value) → Built (.target (.attribute value attr))
  | targetSubscript {value slice} : Built (.value value) → Built (.value slice) →
      Built (.target (.subscript value slice))
  /-- Anything else is no target. -/
  | targetOther {e} : isTarget e = false → Built (.target e)
  | targetsNil : Built (.targets [])
  | targetsCons {e es} : Built (.target e) → Built (.targets es) → Built (.targets (e :: es))
  | typeName {id} : Built (.type (.name id))
  | typeTuple {elts} : Built (.types elts) → Built (.type (.tuple elts))
  | typeList {elts} : Built (.types elts) → Built (.type (.list elts))
  | typeAttribute {value attr} : Built (.value value) → Built (.type (.attribute value attr))
  | typeSubscript {value slice} : Built (.type value) → Built (.type slice) →
      Built (.type (.subscript value slice))
  /-- Anything else names no type. -/
  | typeOther {e} : isType e = false → Built (.type e)
  | typesNil : Built (.types [])
  | typesCons {e es} : Built (.type e) → Built (.types es) → Built (.types (e :: es))
  | typeNone : Built (.type? none)
  | typeSome {e} : Built (.type e) → Built (.type? (some e))

mutual

theorem built_value : ∀ e : Expr, Built (.value e)
  | .boolOp es => .boolOp (built_values es)
  | .binOp left right => .binOp (built_value left) (built_value right)
  | .unaryOp operand => .unaryOp (built_value operand)
  | .lambda _ params body => .lambda (built_parameters params) (built_value body)
  | .ifExp test body orelse =>
    .ifExp (built_value test) (built_value body) (built_value orelse)
  | .namedExpr t e => .namedExpr (built_value e) (built_target t)
  | .dict ks es => .dict (built_keys ks) (built_values es)
  | .set elts => .set (built_values elts)
  | .comprehension _ element e gs =>
    .comprehension (built_value element) (built_value? e) (built_generators gs)
  | .await e => .await (built_value e)
  | .yield e => .yield (built_value? e)
  | .yieldFrom e => .yieldFrom (built_value e)
  | .compare left comparators => .compare (built_value left) (built_values comparators)
  | .call func args ks =>
    .call (built_value func) (built_arguments args) (built_keywords ks)
  | .formattedValue e => .formattedValue (built_value e)
  | .joinedStr es => .joinedStr (built_values es)
  | .constant => .constant
  | .attribute e _ => .attr (built_value e)
  | .subscript e slice => .subscript (built_value e) (built_value slice)
  | .slice lower upper step =>
    .slice (built_value? lower) (built_value? upper) (built_value? step)
  | .starred e => .starred (built_value e)
  | .name _ => .name
  | .list elts => .list (built_values elts)
  | .tuple elts => .tuple (built_values elts)

theorem built_values : ∀ es : List Expr, Built (.values es)
  | [] => .valuesNil
  | e :: es => .valuesCons (built_value e) (built_values es)

theorem built_value? : ∀ e : Option Expr, Built (.value? e)
  | none => .valueNone
  | some e => .valueSome (built_value e)

theorem built_keys : ∀ ks : List (Option Expr), Built (.keys ks)
  | [] => .keysNil
  | k :: ks => .keysCons (built_value? k) (built_keys ks)

theorem built_arguments : ∀ es : List Expr, Built (.arguments es)
  | [] => .argumentsNil
  | e :: es => .argumentsCons (built_value e) (built_arguments es)

theorem built_keywords : ∀ ks : List (Keyword Expr), Built (.keywords ks)
  | [] => .keywordsNil
  | ⟨_, e⟩ :: ks => .keywordsCons (built_value e) (built_keywords ks)

theorem built_generators : ∀ gs : List (Generator Expr), Built (.generators gs)
  | [] => .generatorsNil
  | ⟨t, iter, ifs⟩ :: gs =>
    .generatorsCons (built_value t) (built_value iter) (built_values ifs) (built_generators gs)

theorem built_parameters : ∀ params : Parameters Expr, Built (.parameters params)
  | ⟨positional, _, keywordOnly, _⟩ =>
    .parameters (built_initials positional) (built_initials keywordOnly)

theorem built_initials : ∀ ps : List (Parameter Expr), Built (.initials ps)
  | [] => .initialsNil
  | ⟨_, annotation, initial⟩ :: ps =>
    .initialsCons (built_type? annotation) (built_value? initial) (built_initials ps)

theorem built_target : ∀ e : Expr, Built (.target e)
  | .name _ => .targetName
  | .tuple elts => .targetTuple (built_targets elts)
  | .list elts => .targetList (built_targets elts)
  | .starred e => .targetStarred (built_target e)
  | .attribute e _ => .targetAttribute (built_value e)
  | .subscript e slice => .targetSubscript (built_value e) (built_value slice)
  | .boolOp _ | .binOp _ _ | .unaryOp _ | .lambda _ _ _ | .ifExp _ _ _ | .namedExpr _ _
  | .dict _ _ | .set _ | .comprehension _ _ _ _ | .await _ | .yield _ | .yieldFrom _
  | .compare _ _ | .call _ _ _ | .formattedValue _ | .joinedStr _ | .constant | .slice _ _ _ =>
    .targetOther rfl

theorem built_targets : ∀ es : List Expr, Built (.targets es)
  | [] => .targetsNil
  | e :: es => .targetsCons (built_target e) (built_targets es)

theorem built_type : ∀ e : Expr, Built (.type e)
  | .name _ => .typeName
  | .tuple elts => .typeTuple (built_types elts)
  | .list elts => .typeList (built_types elts)
  | .attribute e _ => .typeAttribute (built_value e)
  | .subscript e slice => .typeSubscript (built_type e) (built_type slice)
  | .boolOp _ | .binOp _ _ | .unaryOp _ | .lambda _ _ _ | .ifExp _ _ _ | .namedExpr _ _
  | .dict _ _ | .set _ | .comprehension _ _ _ _ | .await _ | .yield _ | .yieldFrom _
  | .compare _ _ | .call _ _ _ | .formattedValue _ | .joinedStr _ | .constant | .slice _ _ _
  | .starred _ => .typeOther rfl

theorem built_types : ∀ es : List Expr, Built (.types es)
  | [] => .typesNil
  | e :: es => .typesCons (built_type e) (built_types es)

theorem built_type? : ∀ e : Option Expr, Built (.type? e)
  | none => .typeNone
  | some e => .typeSome (built_type e)

end

theorem built (p : Phrase) : p.Built := by
  cases p with
  | value e => exact built_value e
  | values es => exact built_values es
  | value? e => exact built_value? e
  | keys ks => exact built_keys ks
  | arguments es => exact built_arguments es
  | keywords ks => exact built_keywords ks
  | generators gs => exact built_generators gs
  | parameters params => exact built_parameters params
  | initials ps => exact built_initials ps
  | target e => exact built_target e
  | targets es => exact built_targets es
  | type e => exact built_type e
  | types es => exact built_types es
  | type? e => exact built_type? e

end Phrase

/-! ## Statements -/

inductive Clause
  | statement (st : Stmt)
  | block (ss : List Stmt)
  | handlers (hs : List (Handler Stmt))

namespace Clause

abbrev code : Clause → List Step
  | .statement st => stmtCode st
  | .block ss => blockCode ss
  | .handlers hs => handlersCode hs

/-- How a clause is built from others. -/
inductive Built : Clause → Prop
  | functionDef {name params returns body} : Built (.block body) →
      Built (.statement (.functionDef name params returns body))
  | classDef {name bases body} : Built (.block body) →
      Built (.statement (.classDef name bases body))
  | returnNone : Built (.statement (.return none))
  | returnSome {e} : Built (.statement (.return (some e)))
  | delete {targets} : Built (.statement (.delete targets))
  | assign {targets value} : Built (.statement (.assign targets value))
  | augAssign {target value} : Built (.statement (.augAssign target value))
  | annAssignNone {target annotation} : Built (.statement (.annAssign target annotation none))
  | annAssignSome {target annotation e} :
      Built (.statement (.annAssign target annotation (some e)))
  | forStmt {target iter body orelse} : Built (.block body) → Built (.block orelse) →
      Built (.statement (.for target iter body orelse))
  | whileStmt {test body orelse} : Built (.block body) → Built (.block orelse) →
      Built (.statement (.while test body orelse))
  | ifStmt {test body orelse} : Built (.block body) → Built (.block orelse) →
      Built (.statement (.if test body orelse))
  | withStmt {items body} : Built (.block body) → Built (.statement (.with items body))
  | raise {exc cause} : Built (.statement (.raise exc cause))
  | tryStmt {body handlers orelse finalbody} : Built (.block body) → Built (.handlers handlers) →
      Built (.block orelse) → Built (.block finalbody) →
      Built (.statement (.try body handlers orelse finalbody))
  | assert {test msg} : Built (.statement (.assert test msg))
  | expr {value} : Built (.statement (.expr value))
  | opaqueStmt : Built (.statement .opaqueStmt)
  | blockNil : Built (.block [])
  | blockCons {st ss} : Built (.statement st) → Built (.block ss) → Built (.block (st :: ss))
  | handlersNil : Built (.handlers [])
  | handlersCons {type name body hs} : Built (.block body) → Built (.handlers hs) →
      Built (.handlers (⟨type, name, body⟩ :: hs))

mutual

theorem built_statement : ∀ st : Stmt, Built (.statement st)
  | .functionDef _ _ _ body => .functionDef (built_block body)
  | .classDef _ _ body => .classDef (built_block body)
  | .return none => .returnNone
  | .return (some _) => .returnSome
  | .delete _ => .delete
  | .assign _ _ => .assign
  | .augAssign _ _ => .augAssign
  | .annAssign _ _ none => .annAssignNone
  | .annAssign _ _ (some _) => .annAssignSome
  | .for _ _ body orelse => .forStmt (built_block body) (built_block orelse)
  | .while _ body orelse => .whileStmt (built_block body) (built_block orelse)
  | .if _ body orelse => .ifStmt (built_block body) (built_block orelse)
  | .with _ body => .withStmt (built_block body)
  | .raise _ _ => .raise
  | .try body hs orelse finalbody =>
    .tryStmt (built_block body) (built_handlers hs) (built_block orelse)
      (built_block finalbody)
  | .assert _ _ => .assert
  | .expr _ => .expr
  | .opaqueStmt => .opaqueStmt

theorem built_block : ∀ ss : List Stmt, Built (.block ss)
  | [] => .blockNil
  | st :: ss => .blockCons (built_statement st) (built_block ss)

theorem built_handlers : ∀ hs : List (Handler Stmt), Built (.handlers hs)
  | [] => .handlersNil
  | ⟨_, _, body⟩ :: hs => .handlersCons (built_block body) (built_handlers hs)

end

theorem built (q : Clause) : q.Built := by
  cases q with
  | statement st => exact built_statement st
  | block ss => exact built_block ss
  | handlers hs => exact built_handlers hs

end Clause

end NameFlow.Flow
