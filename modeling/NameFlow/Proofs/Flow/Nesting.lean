import NameFlow.Flow.Identifiers
import NameFlow.Proofs.Flow.Functions
import NameFlow.Proofs.Flow.Locality

/-!
# What is declared inside of what

The code of a tree leaves a function under the name with which it entered it, and between the two
stands all that is declared inside the function. So the code spells a nested list of declarations.
A definition lists a function at its end and the identifiers list it at its start; apart from that
they go through the same declarations in the same order.
-/

namespace NameFlow

set_option autoImplicit false

/-- The role that a name has as an identifier, for the role that it has where it is defined. -/
def Role.identified : Role → Role
  | .typeDefined => .typeName
  | .functionDefined => .functionName
  | .variableDefined => .variableName
  | role => role

def Feature.identified (f : Feature) : Feature := ⟨f.role.identified, f.name⟩

/-- The names that have a role, in the order of the features. -/
def namesOf (role : Role) (fs : List Feature) : List String :=
  (fs.filter (·.role = role)).map (·.name)

namespace Flow

open Python

/-- Declarations in source order, those inside a function under the function. -/
inductive Declarations
  | none
  | type (name : String) (next : Declarations)
  | bound (name : String) (next : Declarations)
  | function (name : String) (inner next : Declarations)
deriving DecidableEq, Repr

/-- The name of a function that is no lambda. -/
def isGiven (name : String) : Bool := name.toList.head? ≠ some ':'

namespace Declarations

def append : Declarations → Declarations → Declarations
  | .none, e => e
  | .type name next, e => .type name (next.append e)
  | .bound name next, e => .bound name (next.append e)
  | .function name inner next, e => .function name inner (next.append e)

/-- The features of definitions: a function stands after all that is declared inside it. -/
def definitions : Declarations → List Feature
  | .none => []
  | .type name next => ⟨.typeDefined, name⟩ :: next.definitions
  | .bound name next => ⟨.variableDefined, name⟩ :: next.definitions
  | .function name inner next =>
    inner.definitions ++ ⟨.functionDefined, name⟩ :: next.definitions

/-- The features of identifiers: a function stands before all that is declared inside it, unless
it is a lambda, which is left out. -/
def identifiers : Declarations → List Feature
  | .none => []
  | .type name next => ⟨.typeName, name⟩ :: next.identifiers
  | .bound name next => ⟨.variableName, name⟩ :: next.identifiers
  | .function name inner next =>
    (if isGiven name then [⟨.functionName, name⟩] else []) ++ inner.identifiers ++ next.identifiers

/-- Without the functions, the two lists say the same in the same order. -/
theorem identified_definitions (d : Declarations) :
    (d.definitions.filter (·.role ≠ .functionDefined)).map Feature.identified =
      d.identifiers.filter (·.role ≠ .functionName) := by
  induction d with
  | none => rfl
  | type name next ih | bound name next ih =>
    simpa [definitions, identifiers, Feature.identified, Role.identified] using ih
  | function name inner next ihInner ihNext =>
    by_cases hname : isGiven name = true
    · simpa [definitions, identifiers, hname] using congrArg₂ (· ++ ·) ihInner ihNext
    · simpa [definitions, identifiers, hname] using congrArg₂ (· ++ ·) ihInner ihNext

/-- The functions with a given name are the same, each as often. -/
theorem functions_perm (d : Declarations) :
    (namesOf .functionName d.identifiers).Perm
      ((namesOf .functionDefined d.definitions).filter isGiven) := by
  induction d with
  | none => exact .nil
  | type name next ih | bound name next ih =>
    simpa [definitions, identifiers, namesOf] using ih
  | function name inner next ihInner ihNext =>
    have hboth := ihInner.append ihNext
    by_cases hname : isGiven name = true
    · have hfront := (hboth.cons name).trans List.perm_middle.symm
      simpa [definitions, identifiers, namesOf, hname] using hfront
    · simpa [definitions, identifiers, namesOf, hname] using hboth

end Declarations

section Spelling

/-- What a step adds to the features of a definition. -/
def Step.defined : Step → List Feature
  | .declareType name => [⟨.typeDefined, name⟩]
  | .bind name | .bindAttribute name | .parameter name => [⟨.variableDefined, name⟩]
  | .leaveFunction name => [⟨.functionDefined, name⟩]
  | _ => []

/-- What a step adds to the identifiers. -/
def Step.identified : Step → List Feature
  | .declareType name => [⟨.typeName, name⟩]
  | .bind name | .bindAttribute name | .parameter name => [⟨.variableName, name⟩]
  | .enterFunction name => if isGiven name then [⟨.functionName, name⟩] else []
  | _ => []

/-- Whether a step enters or leaves a function. -/
def Step.isBracket : Step → Bool
  | .enterFunction _ | .leaveFunction _ => true
  | _ => false

/-- Puts what a step declares before other declarations. -/
def Step.declare : Step → Declarations → Declarations
  | .declareType name, d => .type name d
  | .bind name, d | .bindAttribute name, d | .parameter name, d => .bound name d
  | _, d => d

/-- The code goes through the declarations, each function from its start to its end. -/
inductive Spells : List Step → Declarations → Prop
  | nil : Spells [] .none
  | step {x : Step} {code : List Step} {d : Declarations} (hx : x.isBracket = false)
      (h : Spells code d) : Spells (x :: code) (x.declare d)
  | function {body code : List Step} {inner d : Declarations} (name : String)
      (hbody : Spells body inner) (h : Spells code d) :
      Spells (.enterFunction name :: (body ++ .leaveFunction name :: code)) (.function name inner d)

variable {x : Step} {code code' : List Step} {d d' : Declarations}

theorem append_declare (x : Step) (d e : Declarations) :
    (x.declare d).append e = x.declare (d.append e) := by
  cases x <;> rfl

theorem definitions_declare (hx : x.isBracket = false) (d : Declarations) :
    (x.declare d).definitions = x.defined ++ d.definitions := by
  cases x with
  | enterFunction name | leaveFunction name => cases hx
  | _ => rfl

theorem identifiers_declare (hx : x.isBracket = false) (d : Declarations) :
    (x.declare d).identifiers = x.identified ++ d.identifiers := by
  cases x with
  | enterFunction name | leaveFunction name => cases hx
  | _ => rfl

theorem Spells.append (h : Spells code d) (h' : Spells code' d') :
    Spells (code ++ code') (d.append d') := by
  induction h with
  | nil => exact h'
  | step hx _ ih =>
    rw [List.cons_append, append_declare]
    exact .step hx ih
  | function name hbody _ _ ih =>
    rw [List.cons_append, List.append_assoc]
    exact .function name hbody ih

theorem Spells.definitions (h : Spells code d) : code.flatMap Step.defined = d.definitions := by
  induction h with
  | nil => rfl
  | step hx _ ih => rw [List.flatMap_cons, ih, definitions_declare hx]
  | function name _ _ ihBody ih =>
    simp only [List.flatMap_cons, List.flatMap_append, ihBody, ih, Declarations.definitions]
    rfl

theorem Spells.identifiers (h : Spells code d) :
    code.flatMap Step.identified = d.identifiers := by
  induction h with
  | nil => rfl
  | step hx _ ih => rw [List.flatMap_cons, ih, identifiers_declare hx]
  | function name _ _ ihBody ih =>
    simp only [List.flatMap_cons, List.flatMap_append, ihBody, ih, Declarations.identifiers,
      List.append_assoc]
    rfl

end Spelling

section Trees

/-- Code whose functions are all left again, each under its own name. -/
def Nested (code : List Step) : Prop := ∃ d, Spells code d

variable {x : Step} {code code' : List Step}

theorem nested_nil : Nested [] := ⟨.none, .nil⟩

theorem Nested.cons (hx : x.isBracket = false) (h : Nested code) : Nested (x :: code) := by
  obtain ⟨d, hd⟩ := h
  exact ⟨x.declare d, .step hx hd⟩

theorem Nested.append (h : Nested code) (h' : Nested code') : Nested (code ++ code') := by
  obtain ⟨d, hd⟩ := h
  obtain ⟨d', hd'⟩ := h'
  exact ⟨d.append d', hd.append hd'⟩

theorem Nested.function {body : List Step} (name : String) (hbody : Nested body)
    (h : Nested code) : Nested (.enterFunction name :: (body ++ .leaveFunction name :: code)) := by
  obtain ⟨inner, hinner⟩ := hbody
  obtain ⟨d, hd⟩ := h
  exact ⟨.function name inner d, .function name hinner hd⟩

theorem Step.isBracket_of_isPlain (hx : x.isPlain = true) : x.isBracket = false := by
  cases x with
  | enterFunction name | leaveFunction name => cases hx
  | _ => rfl

theorem Encloses.nested {c : ScopeChain} {fs : List FunctionTree} (h : Encloses c code fs) :
    Nested code := by
  induction h with
  | nil => exact nested_nil
  | step hx _ ih => exact ih.cons (Step.isBracket_of_isPlain hx)
  | type name _ _ ihBody ih => exact .cons rfl (ihBody.append (ih.cons rfl))
  | function f _ _ ihBody ih => exact ihBody.function f.name ih

theorem nested_blockCode (ss : List Stmt) : Nested (blockCode ss) :=
  (encloses_blockCode ss (.root "")).nested

end Trees

section Runs

theorem step_definition_features (s : State Definition.State) (x : Step) :
    (step definition s x).inner.features.toList = s.inner.features.toList ++ x.defined := by
  cases x with
  | bind name | bindAttribute name | parameter name =>
    have hbound := Definition.bindVariable_features s.inner s.scopes name
    simp [step, definition, hbound, Step.defined, State.pop]
  | leaveFunction name =>
    have hdeclared := Definition.declareFunction_features s.inner s.scopes.leave name
    simp [step, definition, hdeclared, Step.defined, State.leave]
  | declareType name => exact Array.toList_push
  | _ => exact (List.append_nil _).symm

theorem step_identification (s : State (Array Feature)) (x : Step) :
    (step identification s x).inner.toList = s.inner.toList ++ x.identified := by
  cases x with
  | bind name | bindAttribute name | parameter name => exact Array.toList_push
  | enterFunction name =>
    by_cases hname : name.toList.head? = some ':'
    · simp [step, identification, State.enter, Step.identified, isGiven, hname]
    · simp [step, identification, State.enter, Step.identified, isGiven, hname]
  | declareType name => exact Array.toList_push
  | _ => exact (List.append_nil _).symm

/-- Where every step adds to a list what it says itself, a run adds what its code says. -/
theorem run_adds {σ : Type} {i : Interpretation σ} (seen : σ → List Feature)
    {said : Step → List Feature}
    (hstep : ∀ s x, seen (step i s x).inner = seen s.inner ++ said x) (code : List Step)
    (s : State σ) : seen (run i code s).inner = seen s.inner ++ code.flatMap said := by
  induction code generalizing s with
  | nil => exact (List.append_nil _).symm
  | cons x code ih => rw [run_cons, ih, hstep, List.append_assoc, List.flatMap_cons]

theorem define_features (t : Table) (m : SourceModule) :
    (define t m).2 = (blockCode m.body).flatMap Step.defined :=
  run_adds (fun s : Definition.State => s.features.toList) step_definition_features
    (blockCode m.body) (.start m.root ⟨t, #[]⟩)

theorem identifiers_eq (m : SourceModule) :
    identifiers m = (blockCode m.body).flatMap Step.identified :=
  run_adds Array.toList step_identification (blockCode m.body) (.start m.root #[])

end Runs

/-- The definition of a module gives the same features whatever the table. They and the identifiers
go through one nested list of declarations, which the module's code spells; so without the
functions they are equal up to the roles, and the functions are the same up to their order, the
lambdas apart, which are no identifiers. -/
theorem definitions_match_identifiers (m : SourceModule) (t : Table) :
    (∀ u, (define u m).2 = (define t m).2) ∧
      (((define t m).2.filter (·.role ≠ .functionDefined)).map Feature.identified =
        (identifiers m).filter (·.role ≠ .functionName)) ∧
      (namesOf .functionName (identifiers m)).Perm
        ((namesOf .functionDefined (define t m).2).filter isGiven) ∧
      ∃ d, Spells (blockCode m.body) d ∧ (define t m).2 = d.definitions ∧
        identifiers m = d.identifiers := by
  obtain ⟨d, hd⟩ := nested_blockCode m.body
  have hdefined : ∀ u, (define u m).2 = d.definitions := by
    intro u
    rw [define_features, hd.definitions]
  have hidentified : identifiers m = d.identifiers := by
    rw [identifiers_eq, hd.identifiers]
  refine ⟨fun u => (hdefined u).trans (hdefined t).symm, ?_, ?_, d, hd, hdefined t, hidentified⟩
  · rw [hdefined t, hidentified]
    exact d.identified_definitions
  · rw [hdefined t, hidentified]
    exact d.functions_perm

end Flow

end NameFlow
