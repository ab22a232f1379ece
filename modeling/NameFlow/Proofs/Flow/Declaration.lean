import NameFlow.Proofs.Flow.Monotone

/-!
# What a definition enters

The definition of a module sends inflows as a resolution does, but opens the slots that they go
to. They depend on the table only through what is known of a method's receiver. Every function
in the table comes from a declaration, and its parameter list is among those of its key.
-/

namespace NameFlow

set_option autoImplicit false

namespace Flow

open Python

namespace Definition

/-- Values for the member key of a class body. -/
def memberInflows (c : ScopeChain) (name : String) (values : ValueSet) : List Inflow :=
  (c.memberKey? name).toList.map fun key => ⟨.entry key, values⟩

def typeInflows (c : ScopeChain) (name : String) : List Inflow :=
  [⟨.entry (c.key name), .ofList [.type name]⟩]

/-- The function that a scope declares under a name. -/
def functionValue (c : ScopeChain) (name : String) (params : List String) : FunctionValue :=
  ⟨c.path, c.current.name, c.current.kind, name, params⟩

def functionInflows (c : ScopeChain) (name : String) (returns : Option ValueSet)
    (params : List String) : List Inflow :=
  ⟨.returned (c.key name), returns.getD ∅⟩ ::
    ⟨.entry (c.key name), .ofList [.function (functionValue c name params)]⟩ ::
    memberInflows c name (.ofList [.function (functionValue c name params)])

def variableInflows (c : ScopeChain) (name : String) : Site → List Inflow
  | .lexical =>
    ⟨.entry (c.key name), .ofList (receiver c name).toList⟩ :: memberInflows c name ∅
  | .attribute owner =>
    (owner.getD ∅).types.map fun type => ⟨.entry (memberKey type name), ∅⟩

variable (s : State) (c : ScopeChain) (name : String)

theorem declareType_table :
    (definition.declareType c name s).table = s.table.receiveAll (typeInflows c name) :=
  Table.record_eq s.table (c.key name) (some (.type name))

theorem declareFunction_table (returns : Option ValueSet) (params : List String) :
    (declareFunction c name returns params s).table =
      (s.table.receiveAll (functionInflows c name returns params)).recordSignature
        (functionValue c name params) := by
  unfold declareFunction State.recordMember functionInflows memberInflows
  cases c.memberKey? name <;> rfl

theorem recordTypes_table (types : List String) :
    (types.foldl (fun s type => s.record (memberKey type name) none) s).table =
      s.table.receiveAll (types.map fun type => ⟨.entry (memberKey type name), ∅⟩) := by
  induction types generalizing s with
  | nil => rfl
  | cons type types ih => exact ih (s.record (memberKey type name) none)

theorem bindVariable_table (site : Site) :
    (bindVariable c name site s).2.table = s.table.receiveAll (variableInflows c name site) := by
  match site with
  | .lexical =>
    unfold bindVariable State.recordMember variableInflows memberInflows
    cases receiver c name <;> cases c.memberKey? name <;> rfl
  | .attribute owner => exact recordTypes_table (s.emit .variableDefined name) name _

end Definition

open Definition

/-- Collects the functions that are declared, lambdas included. -/
def declaring : Interpretation (List FunctionValue) where
  declareFunction scopes name _ params fs := fs ++ [functionValue scopes name params]
  bindVariable scopes name _ _ fs := (some (scopes.key name), fs)

def declaredFunctions (m : SourceModule) : List FunctionValue := runModule declaring m []

/-- A type, or one of the functions. -/
def OneOf (fs : List FunctionValue) : Value → Prop
  | .type _ => True
  | .function f => f ∈ fs

theorem declaring_step {fs : List FunctionValue} {q : Flow.State (List FunctionValue)} {x : Step}
    (h : ∀ f ∈ (step declaring q x).inner, f ∈ fs) : ∀ f ∈ q.inner, f ∈ fs := by
  cases x with
  | leaveFunction => exact fun f hf => h f (List.mem_append_left _ hf)
  | _ => exact h

/-- The table of a definition that started on another one, beside the functions declared so far. -/
structure Entered (fs : List FunctionValue) (t u : Table) (declared : List FunctionValue) :
    Prop where
  values : u.All (OneOf fs)
  signatures : ∀ f params, params ∈ u.signaturesOf f ↔
    params ∈ t.signaturesOf f ∨ ∃ g ∈ declared, g.key = f.key ∧ g.params = params

theorem Entered.receives {fs : List FunctionValue} {t u u' : Table}
    {declared : List FunctionValue} {flows : List Inflow} (h : Entered fs t u declared)
    (hu : u' = u.receiveAll flows)
    (hf : ∀ f ∈ flows, AllKnown (OneOf fs) (some f.values)) : Entered fs t u' declared where
  values := hu ▸ h.values.receiveAll hf
  signatures := by
    intro f params
    rw [← h.signatures, hu]
    unfold Table.signaturesOf
    rw [Table.signatures_receiveAll]

theorem carried_memberInflows {c : ScopeChain} {name : String} {values : ValueSet} {f : Inflow}
    (h : f ∈ memberInflows c name values) : f.values = values := by
  obtain ⟨key, _, rfl⟩ := List.mem_map.mp h
  rfl

theorem receiver_eq_some {c : ScopeChain} {name : String} {v : Value}
    (h : receiver c name = some v) : ∃ scope, c.enclosingType = some scope ∧ v = .type scope.name := by
  unfold receiver at h
  split at h
  · obtain ⟨scope, hscope, rfl⟩ := Option.map_eq_some_iff.mp h
    exact ⟨scope, hscope, rfl⟩
  · exact nomatch h

/-- Of its own a variable holds nothing but the receiver. -/
theorem all_variableInflows {D : Value → Prop} {c : ScopeChain} {name : String}
    (hreceiver : ∀ v, receiver c name = some v → D v) (site : Site) :
    ∀ f ∈ variableInflows c name site, AllKnown D (some f.values) := by
  intro f hf v hv
  match site with
  | .attribute owner =>
    obtain ⟨type, _, rfl⟩ := List.mem_map.mp hf
    exact absurd hv List.not_mem_nil
  | .lexical =>
    rcases List.mem_cons.mp hf with rfl | hf
    · exact hreceiver v (Option.mem_toList.mp (ValueSet.mem_toList_ofList hv))
    · rw [carried_memberInflows hf] at hv
      exact absurd hv List.not_mem_nil

theorem all_functionInflows {D : Value → Prop} {c : ScopeChain} {name : String}
    {returns : Option ValueSet} {params : List String} (hr : AllKnown D returns)
    (hf : D (.function (functionValue c name params))) :
    ∀ f ∈ functionInflows c name returns params, AllKnown D (some f.values) := by
  have hone : ∀ v ∈ (ValueSet.ofList [.function (functionValue c name params)]).toList, D v := by
    intro v hv
    rw [List.mem_singleton.mp (ValueSet.mem_toList_ofList hv)]
    exact hf
  intro f hflow
  rcases List.mem_cons.mp hflow with rfl | hflow
  · exact hr
  · rcases List.mem_cons.mp hflow with rfl | hflow
    · exact hone
    · rw [carried_memberInflows hflow]
      exact hone

theorem oneOf_variableInflows (fs : List FunctionValue) (c : ScopeChain) (name : String)
    (site : Site) : ∀ f ∈ variableInflows c name site, AllKnown (OneOf fs) (some f.values) := by
  apply all_variableInflows
  intro v hv
  obtain ⟨scope, _, rfl⟩ := receiver_eq_some hv
  exact trivial

theorem Entered.declares {fs : List FunctionValue} {t : Table} {s : Definition.State}
    {declared : List FunctionValue} {c : ScopeChain} {name : String} {returns : Option ValueSet}
    {params : List String} (h : Entered fs t s.table declared) (hr : AllKnown (OneOf fs) returns)
    (hf : functionValue c name params ∈ fs) :
    Entered fs t (declareFunction c name returns params s).table
      (declared ++ [functionValue c name params]) where
  values := by
    intro slot v hv
    rw [declareFunction_table, Table.held, Table.slot?_recordSignature] at hv
    exact h.values.receiveAll (all_functionInflows hr hf) slot v hv
  signatures := by
    intro f ps
    rw [declareFunction_table, Table.mem_signaturesOf_recordSignature]
    unfold Table.signaturesOf
    rw [Table.signatures_receiveAll]
    have hold := h.signatures f ps
    unfold Table.signaturesOf at hold
    rw [hold]
    simp only [List.mem_append, List.mem_singleton, or_and_right, exists_or, exists_eq_left,
      or_assoc]

theorem declaring_simulation (fs : List FunctionValue) (t : Table) :
    Simulation (fun _ _ => True) definition declaring (fun s declared => Entered fs t s.table declared)
      (fun v _ => AllKnown (OneOf fs) v) (fun _ declared => ∀ f ∈ declared, f ∈ fs) where
  unknown := allKnown_none _
  join := allKnown_joinKnown
  guard := fun _ _ _ h => declaring_step h
  declareType := by
    intro c n s declared _ h _
    refine h.receives (declareType_table s c n) fun f hf v hv => ?_
    obtain rfl := List.mem_singleton.mp hf
    rw [List.mem_singleton.mp (ValueSet.mem_toList_ofList hv)]
    exact trivial
  enterFunction := fun _ h _ => h
  declareFunction := by
    intro c n r r' ps s declared _ h hr hg
    exact h.declares hr (hg _ (List.mem_append_right _ List.mem_cons_self))
  useType := fun _ h _ => h
  bind := fun _ h _ _ =>
    h.receives (bindVariable_table _ _ _ _) (oneOf_variableInflows _ _ _ _)
  bindAttribute := fun _ h _ _ _ =>
    h.receives (bindVariable_table _ _ _ _) (oneOf_variableInflows _ _ _ _)
  parameter := fun _ h _ =>
    ⟨rfl, h.receives (bindVariable_table _ _ _ _) (oneOf_variableInflows _ _ _ _)⟩
  read := by
    intro c n s declared _ h _
    refine ⟨?_, h⟩
    show AllKnown _ (Definition.readVariable c n .lexical s)
    unfold Definition.readVariable
    dsimp only
    split
    · cases hv : lookup s.table c n with
      | none => exact allKnown_none _
      | some values => exact allKnown_nonEmpty? (Resolution.all_lookup h.values hv)
    · exact allKnown_none _
  readAttribute := fun _ h _ _ => ⟨allKnown_none _, h⟩
  call := fun _ h _ _ _ _ => ⟨allKnown_none _, h⟩

section Rounds

variable {fs : List FunctionValue} {t : Table}

theorem define_entered {m : SourceModule} (hm : ∀ f ∈ declaredFunctions m, f ∈ fs)
    (ht : t.All (OneOf fs)) : Entered fs t (define t m).1 (declaredFunctions m) := by
  have hstart : Entered fs t t [] := ⟨ht, by simp⟩
  exact (declaring_simulation fs t).runModule_related (a := ⟨t, #[]⟩) (fun _ _ => trivial) hstart hm

/-- All functions in the table of a definition round are declared ones, and the parameter lists
of a key are those of its declarations. -/
theorem definitionRound_entered {ms : List SourceModule}
    (hms : ∀ m ∈ ms, ∀ f ∈ declaredFunctions m, f ∈ fs) (ht : t.All (OneOf fs)) :
    Entered fs t (definitionRound t ms).1 (ms.flatMap declaredFunctions) := by
  induction ms generalizing t with
  | nil => exact ⟨ht, by simp [definitionRound]⟩
  | cons m ms ih =>
    rw [List.forall_mem_cons] at hms
    have hm := define_entered hms.1 ht
    have hrest := ih hms.2 hm.values
    refine ⟨hrest.values, fun f params => ?_⟩
    show params ∈ (definitionRound (define t m).1 ms).1.signaturesOf f ↔ _
    rw [hrest.signatures, hm.signatures]
    simp only [List.flatMap_cons, List.mem_append, or_and_right, exists_or, or_assoc]

end Rounds

end Flow

end NameFlow
