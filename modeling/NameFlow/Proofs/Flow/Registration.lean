import NameFlow.Proofs.Flow.Schedule
import NameFlow.Proofs.Flow.Visits

/-!
# Every value is registered

A definition leaves something behind at each declaration: a function stands under its key, beside
a return slot and its parameter list, and each parameter has a key. All values of the table come
from declarations, so that resolutions, which only move values, meet no function that is not
registered in full. The two branches of a call that provide for one are never taken:
whatever they did, the resolution would be the same.
-/

namespace NameFlow

set_option autoImplicit false

namespace Table

variable {t u : Table}

/-- The slots that inflows go to exist afterwards and hold the values. -/
theorem arrived_receiveAll (t : Table) (fs : List Inflow) {f : Inflow} (hf : f ∈ fs) :
    ((t.receiveAll fs).slot? f.slot).isSome = true ∧ (t.receiveAll fs).Meets f := by
  obtain ⟨before, after, rfl⟩ := List.append_of_mem hf
  have hsplit : t.receiveAll (before ++ f :: after) =
      ((t.receiveAll before).receive f).receiveAll after := List.foldl_append
  have hle := le_receiveAll ((t.receiveAll before).receive f) after
  rw [hsplit]
  constructor
  · apply isSome_of_le hle
    rw [slot?_receive, if_pos rfl]
    rfl
  · have hmet : ((t.receiveAll before).receive f).Meets f := by
      unfold Meets
      rw [held_receive, if_pos rfl]
      exact fun i hi => ValueSet.mem_union.mpr (Or.inr hi)
    exact ValueSet.Subset.trans hmet (held_subset hle f.slot)

end Table

namespace Flow

open Python Definition

section Entering

/-- What the definition of a step, taken in the given scopes, leaves in the table. -/
def Enters (c : ScopeChain) (x : Step) (t : Table) : Prop :=
  match x with
  | .leaveFunction n =>
    (t.slot? (.returned (c.leave.key n))).isSome = true ∧
      Identity.function c.leave.path n ∈ t.held (.entry (c.leave.key n))
  | .bind n | .parameter n => t.contains (c.key n) = true
  | _ => True

theorem Enters.mono {c : ScopeChain} {x : Step} {t u : Table} (h : Enters c x t) (hle : t ≤ u) :
    Enters c x u := by
  cases x with
  | leaveFunction n => exact ⟨Table.isSome_of_le hle _ h.1, Table.held_subset hle _ _ h.2⟩
  | bind n => exact Table.contains_of_le hle h
  | parameter n => exact Table.contains_of_le hle h
  | _ => exact trivial

theorem definition_step_le (s : Flow.State Definition.State) (x : Step) :
    s.inner.table ≤ (step definition s x).inner.table := by
  cases x with
  | declareType n =>
    show _ ≤ (definition.declareType s.scopes n s.inner).table
    rw [declareType_table]
    exact Table.le_receiveAll _ _
  | leaveFunction n =>
    show _ ≤ (declareFunction _ n _ _ _).table
    rw [declareFunction_table]
    exact Table.le_trans (Table.le_receiveAll _ _) (Table.le_recordSignature _ _)
  | bind n | parameter n =>
    show _ ≤ (bindVariable s.scopes n .lexical s.inner).2.table
    rw [bindVariable_table]
    exact Table.le_receiveAll _ _
  | bindAttribute n =>
    show _ ≤ (bindVariable s.scopes n (.attribute s.top) s.inner).2.table
    rw [bindVariable_table]
    exact Table.le_receiveAll _ _
  | _ => exact Table.le_refl _

theorem definition_step_enters (s : Flow.State Definition.State) (x : Step) :
    Enters s.scopes x (step definition s x).inner.table := by
  cases x with
  | leaveFunction n =>
    show Enters s.scopes (.leaveFunction n) (declareFunction s.scopes.leave n _ _ _).table
    rw [declareFunction_table]
    have hflows := fun f => Table.arrived_receiveAll s.inner.table
      (functionInflows s.scopes.leave n s.frame.returns s.frame.params) (f := f)
    have hreturned := hflows _ List.mem_cons_self
    have hentry := hflows _ (List.mem_cons_of_mem _ List.mem_cons_self)
    refine Enters.mono (t := s.inner.table.receiveAll _) ⟨hreturned.1, ?_⟩
      (Table.le_recordSignature _ _)
    exact hentry.2 _ ((ValueSet.mem_inserts _ ∅).mpr (Or.inr ⟨_, List.mem_cons_self, rfl⟩))
  | bind n | parameter n =>
    show Table.contains (bindVariable s.scopes n .lexical s.inner).2.table _ = true
    rw [bindVariable_table]
    exact (Table.arrived_receiveAll s.inner.table (variableInflows s.scopes n .lexical)
      (f := ⟨.entry (s.scopes.key n), _⟩) List.mem_cons_self).1
  | _ => exact trivial

theorem le_define (t : Table) (m : SourceModule) : t ≤ (define t m).1 := by
  have hrun : ∀ (code : List Step) (s : Flow.State Definition.State),
      s.inner.table ≤ (run definition code s).inner.table := by
    intro code
    induction code with
    | nil => exact fun s => Table.le_refl _
    | cons x code ih => exact fun s => Table.le_trans (definition_step_le s x) (ih _)
  exact hrun (blockCode m.body) (.start m.root ⟨t, #[]⟩)

theorem le_definitionRound (t : Table) (ms : List SourceModule) : t ≤ (definitionRound t ms).1 := by
  induction ms generalizing t with
  | nil => exact Table.le_refl t
  | cons m ms ih => exact Table.le_trans (le_define t m) (ih (define t m).1)

theorem define_enters (t : Table) (m : SourceModule) :
    ∀ v ∈ moduleVisits m, Enters v.1 v.2 (define t m).1 :=
  runModule_visited definition (fun c x s => Enters c x s.table) definition_step_enters
    (fun s x _ _ h => h.mono (definition_step_le s x)) m ⟨t, #[]⟩

/-- The definitions of all modules hold what each of their steps has entered. -/
theorem definitionRound_enters (t : Table) (ms : List SourceModule) :
    ∀ m ∈ ms, ∀ v ∈ moduleVisits m, Enters v.1 v.2 (definitionRound t ms).1 := by
  induction ms generalizing t with
  | nil => exact nofun
  | cons m ms ih =>
    rw [List.forall_mem_cons]
    refine ⟨fun v hv => ?_, ih (define t m).1⟩
    exact (define_enters t m v hv).mono (le_definitionRound (define t m).1 ms)

end Entering

section Classes

/-- A function, or a type that is named in the list. -/
def ClassOf (classes : List String) : Value → Prop
  | .type name => name ∈ classes
  | .function _ => True

/-- The class scopes around a step, and the class that it declares, are named in the list. -/
def ClassesAt (classes : List String) (c : ScopeChain) (x : Step) : Prop :=
  ClassesIn classes c ∧ ∀ n, x.className? = some n → n ∈ classes

theorem classesAt_of_mem_moduleVisits {m : SourceModule} :
    ∀ v ∈ moduleVisits m, ClassesAt (declaredClasses m) v.1 v.2 :=
  fun v hv => ⟨classesIn_of_mem_moduleVisits v hv, fun _ => declared_of_mem_moduleVisits hv⟩

theorem ClassesAt.mono {classes classes' : List String} {c : ScopeChain} {x : Step}
    (h : ClassesAt classes c x) (hsub : ∀ n ∈ classes, n ∈ classes') : ClassesAt classes' c x :=
  ⟨fun s hs hk => hsub _ (h.1 s hs hk), fun n hn => hsub n (h.2 n hn)⟩

theorem enclosingType_mem {c : ScopeChain} {s : Scope} (h : c.enclosingType = some s) :
    s ∈ c.scopes ∧ s.kind = .type := by
  unfold ScopeChain.enclosingType at h
  split at h
  · rename_i s' rest _ houter
    split at h
    · rename_i hk
      obtain rfl := Option.some.inj h
      refine ⟨List.mem_cons_of_mem _ ?_, hk⟩
      rw [houter]
      exact List.mem_cons_self
    · exact nomatch h
  · exact nomatch h

theorem classOf_variableInflows {classes : List String} {c : ScopeChain} (hc : ClassesIn classes c)
    (name : String) (site : Site) :
    ∀ f ∈ variableInflows c name site, AllKnown (ClassOf classes) (some f.values) := by
  apply all_variableInflows
  intro v hv
  obtain ⟨scope, hscope, rfl⟩ := receiver_eq_some hv
  obtain ⟨hmem, hkind⟩ := enclosingType_mem hscope
  exact hc scope hmem hkind

/-- A definition enters no type but the classes that it meets. -/
theorem classes_invariant (classes : List String) :
    Invariant (ClassesAt classes) definition (fun s => s.table.All (ClassOf classes))
      (AllKnown (ClassOf classes)) where
  unknown := allKnown_none _
  join := allKnown_joinKnown
  declareType := by
    intro c n s hx h
    rw [declareType_table]
    refine h.receiveAll fun f hf v hv => ?_
    obtain rfl := List.mem_singleton.mp hf
    rw [List.mem_singleton.mp (ValueSet.mem_toList_ofList hv)]
    exact hx.2 n rfl
  enterFunction := fun _ h => h
  declareFunction := by
    intro c n r ps s _ h hr
    show (declareFunction c.leave n r ps s).table.All (ClassOf classes)
    intro slot v hv
    rw [declareFunction_table, Table.held, Table.slot?_recordSignature] at hv
    exact h.receiveAll (all_functionInflows hr trivial) slot v hv
  useType := fun _ h => h
  bind := by
    intro c n v s hx h _
    show (bindVariable c n .lexical s).2.table.All (ClassOf classes)
    rw [bindVariable_table]
    exact h.receiveAll (classOf_variableInflows hx.1 n .lexical)
  bindAttribute := by
    intro c n o v s hx h _ _
    show (bindVariable c n (.attribute o) s).2.table.All (ClassOf classes)
    rw [bindVariable_table]
    exact h.receiveAll (classOf_variableInflows hx.1 n (.attribute o))
  parameter := by
    intro c n s hx h
    show (bindVariable c n .lexical s).2.table.All (ClassOf classes)
    rw [bindVariable_table]
    exact h.receiveAll (classOf_variableInflows hx.1 n .lexical)
  read := by
    intro c n s _ h
    refine ⟨?_, h⟩
    show AllKnown _ (Definition.readVariable c n .lexical s)
    unfold Definition.readVariable
    dsimp only
    split
    · cases hv : lookup s.table c n with
      | none => exact allKnown_none _
      | some values => exact allKnown_nonEmpty? (Resolution.all_lookup h hv)
    · exact allKnown_none _
  readAttribute := fun _ h _ => ⟨allKnown_none _, h⟩
  call := fun _ h _ _ _ => ⟨allKnown_none _, h⟩

theorem define_classes {classes : List String} {t : Table} {m : SourceModule}
    (hm : ∀ n ∈ declaredClasses m, n ∈ classes) (ht : t.All (ClassOf classes)) :
    (define t m).1.All (ClassOf classes) :=
  (classes_invariant classes).runModule (a := ⟨t, #[]⟩)
    (fun v hv => (classesAt_of_mem_moduleVisits v hv).mono hm) ht

theorem definitionRound_classes {classes : List String} {t : Table} {ms : List SourceModule}
    (hms : ∀ m ∈ ms, ∀ n ∈ declaredClasses m, n ∈ classes) (ht : t.All (ClassOf classes)) :
    (definitionRound t ms).1.All (ClassOf classes) := by
  induction ms generalizing t with
  | nil => exact ht
  | cons m ms ih =>
    rw [List.forall_mem_cons] at hms
    exact ih hms.2 (define_classes hms.1 ht)

theorem definitionRound_types (ms : List SourceModule) :
    (definitionRound ∅ ms).1.All (ClassOf (ms.flatMap declaredClasses)) :=
  definitionRound_classes (fun m hm _ hn => List.mem_flatMap.mpr ⟨m, hm, hn⟩) (Table.all_empty _)

end Classes

section Registered

/-- All functions that occur are among the given ones, each of which has parameter lists, and
every key in them exists. -/
structure Registered (fs : List FunctionValue) (t : Table) : Prop where
  values : t.All (OneOf fs)
  signed : ∀ f ∈ fs, t.signaturesOf f ≠ []
  keys : ∀ f ∈ fs, ∀ params ∈ t.signaturesOf f, ∀ key ∈ params, t.contains key = true

theorem Registered.of_shape {fs : List FunctionValue} {t u : Table} (h : Registered fs t)
    (hshape : t.SameShape u) (hu : u.All (OneOf fs)) : Registered fs u where
  values := hu
  signed := by
    rw [hshape.signaturesOf]
    exact h.signed
  keys := by
    rw [hshape.signaturesOf, funext hshape.contains]
    exact h.keys

open Resolution in
theorem registered_invariant (fs : List FunctionValue) :
    Invariant (fun _ _ => True) resolution (fun s => Registered fs s.table)
      (AllKnown (OneOf fs)) where
  unknown := allKnown_none _
  join := allKnown_joinKnown
  declareType := fun _ h => h
  enterFunction := fun _ h => h
  declareFunction := fun hx h hr => h.of_shape (absorbs_declareFunction _ _ _ _ _).shape
    ((values_invariant _).declareFunction hx h.values hr)
  useType := fun _ h => h
  bind := fun hx h hv => h.of_shape (absorbs_bindVariable _ _ _ _ _).shape
    ((values_invariant _).bind hx h.values hv)
  bindAttribute := fun hx h ho hv => h.of_shape (absorbs_bindVariable _ _ _ _ _).shape
    ((values_invariant _).bindAttribute hx h.values ho hv)
  parameter := fun _ h => h
  read := fun hx h =>
    have hread := (values_invariant _).read hx h.values
    ⟨hread.1, h.of_shape (absorbs_readVariable _ _ _ _).shape hread.2⟩
  readAttribute := fun hx h ho =>
    have hread := (values_invariant _).readAttribute hx h.values ho
    ⟨hread.1, h.of_shape (absorbs_readVariable _ _ _ _).shape hread.2⟩
  call := by
    intro c k ns f args named s hx h hf hargs hnamed
    have hcall := @Invariant.call _ _ _ _ _ (values_invariant (OneOf fs)) c k ns f args named s hx
      h.values hf hargs hnamed
    exact ⟨hcall.1, h.of_shape (absorbs_call _ _ _ _).shape hcall.2⟩

variable {ms : List SourceModule} {f : FunctionValue}

/-- A declared function stands under its key beside its return slot, its parameter list is
recorded, and the keys of all parameter lists under its key exist. -/
theorem definitionRound_registers (hf : f ∈ ms.flatMap declaredFunctions) :
    ((definitionRound ∅ ms).1.slot? (.returned f.key)).isSome = true ∧
    Identity.function f.scopePath f.name ∈ (definitionRound ∅ ms).1.held (.entry f.key) ∧
    f.params ∈ (definitionRound ∅ ms).1.signaturesOf f ∧
    ∀ params ∈ (definitionRound ∅ ms).1.signaturesOf f, ∀ key ∈ params,
      (definitionRound ∅ ms).1.contains key = true := by
  have hsignatures := (definitionRound_declared ms).signatures f
  have henters := definitionRound_enters ∅ ms
  obtain ⟨m, hm, hfm⟩ := List.mem_flatMap.mp hf
  obtain ⟨⟨c, n, hvisit, hvalue⟩, _⟩ := visits_of_declared hfm
  obtain ⟨hreturned, hentry⟩ := henters m hm _ hvisit
  rw [hvalue]
  refine ⟨hreturned, hentry, ?_, fun params hparams key hkey => ?_⟩
  · rw [← hvalue]
    exact (hsignatures f.params).mpr (Or.inr ⟨f, hf, rfl, rfl⟩)
  · rw [← hvalue] at hparams
    rcases (hsignatures params).mp hparams with hnone | ⟨g, hg, _, rfl⟩
    · exact absurd hnone List.not_mem_nil
    · obtain ⟨m', hm', hgm⟩ := List.mem_flatMap.mp hg
      obtain ⟨c', n', hvisit', rfl⟩ := (visits_of_declared hgm).2 key hkey
      exact henters m' hm' _ hvisit'

theorem definitionRound_registered (ms : List SourceModule) :
    Registered (ms.flatMap declaredFunctions) (definitionRound ∅ ms).1 where
  values := (definitionRound_declared ms).values
  signed := fun _ hf => definitionRound_signed hf
  keys := fun _ hf => (definitionRound_registers hf).2.2.2

theorem resolveAll_registered {fs : List FunctionValue} {t : Table} (h : Registered fs t)
    (schedule : List SourceModule) : Registered fs (resolveAll t schedule) :=
  h.of_shape (resolveAll_grows t schedule).shape (resolveAll_all h.values schedule)

end Registered

namespace Resolution

/-- What to do at a call of a function that is not registered: in place of moving the arguments
if it has no parameter list, and in place of assigning one if the parameter's key is missing. -/
structure Detour where
  unsigned : List (Option ValueSet) → List (String × Option ValueSet) → State → FunctionValue → State
  missing : State → String → ValueSet → String → State

/-- What a resolution provides for: the parameters of the function value itself are taken, and
missing keys are skipped. -/
def Detour.own : Detour where
  unsigned args named s f :=
    bindKeywords (bindPositional s (f.receiving f.params) args) (f.receiving f.params) named
  missing s _ _ _ := s

variable (d : Detour)

def assignVia (s : State) (key : String) (values : ValueSet) (name : String) : State :=
  if s.table.contains key then (s.merge key values).emit .assigned name
  else d.missing s key values name

def bindPositionalVia (s : State) (params : List String) (args : List (Option ValueSet)) : State :=
  (params.zip args).foldl (fun s (key, values) =>
    match values with
    | some values => assignVia d s key values (basename key)
    | none => s) s

def bindKeywordsVia (s : State) (params : List String) (named : List (String × Option ValueSet)) :
    State :=
  named.foldl (fun s (name, values) =>
    match values, params.find? (fun key => basename key = name) with
    | some values, some key => assignVia d s key values name
    | _, _ => s) s

def propagateVia (args : List (Option ValueSet)) (named : List (String × Option ValueSet))
    (s : State) (f : FunctionValue) : State :=
  match s.table.signaturesOf f with
  | [] => d.unsigned args named (s.emit .functionCalled f.name) f
  | lists =>
    lists.foldl (fun s params =>
      bindKeywordsVia d (bindPositionalVia d s (f.receiving params) args) (f.receiving params)
        named) (s.emit .functionCalled f.name)

def callVia (callee : Option ValueSet) (args : List (Option ValueSet))
    (named : List (String × Option ValueSet)) (s : State) : Option ValueSet × State :=
  match callee with
  | none => (none, s)
  | some callee =>
    let reach := callee.toList.foldl (reachValue s.table) ⟨∅, ∅⟩
    let s := callee.types.foldl (fun s name => s.emit .typeUsed name) s
    (reach.result.nonEmpty?, reach.targets.functions.foldl (propagateVia d args named) s)

end Resolution

/-- The resolution with other things to do at a call of a function that is not registered. -/
def resolutionVia (d : Resolution.Detour) : Interpretation Resolution.State :=
  { resolution with call := fun _ => Resolution.callVia d }

namespace Resolution

theorem propagateVia_own (args : List (Option ValueSet)) (named : List (String × Option ValueSet)) :
    propagateVia .own args named = propagate args named := by
  funext s f
  unfold propagateVia propagate
  cases s.table.signaturesOf f <;> rfl

theorem callVia_own : callVia .own = call := by
  funext callee args named s
  cases callee with
  | none => rfl
  | some callee => simp only [callVia, call, propagateVia_own]

section Detours

variable (d : Detour)

/-- Loops that agree as long as the shape of the table allows for it. -/
theorem foldl_via {α : Type} {round round' : State → α → State} (Ok : Table → α → Prop)
    (hshape : ∀ (s : State) x, s.table.SameShape (round s x).table)
    (hcongr : ∀ {t u : Table} {x}, t.SameShape u → Ok t x → Ok u x)
    (heq : ∀ (s : State) x, Ok s.table x → round' s x = round s x) {xs : List α} {s : State}
    (h : ∀ x ∈ xs, Ok s.table x) : xs.foldl round' s = xs.foldl round s := by
  induction xs generalizing s with
  | nil => rfl
  | cons x xs ih =>
    rw [List.forall_mem_cons] at h
    rw [List.foldl_cons, List.foldl_cons, heq s x h.1]
    exact ih fun y hy => hcongr (hshape s x) (h.2 y hy)

theorem assignVia_eq {s : State} {key : String} (h : s.table.contains key = true)
    (values : ValueSet) (name : String) :
    assignVia d s key values name = s.assign key values name := by
  unfold assignVia State.assign
  rw [if_pos h, if_pos h]

theorem bindPositionalVia_eq {s : State} {params : List String}
    (h : ∀ key ∈ params, s.table.contains key = true) (args : List (Option ValueSet)) :
    bindPositionalVia d s params args = bindPositional s params args := by
  apply foldl_via fun t arg => t.contains arg.1 = true
  · rintro s ⟨key, values⟩
    cases values with
    | none => exact .refl _
    | some values => exact (absorbs_assign s key values (basename key)).shape
  · exact fun hshape hk => (hshape.contains _).trans hk
  · rintro s ⟨key, values⟩ hk
    cases values with
    | none => rfl
    | some values => exact assignVia_eq d hk values (basename key)
  · exact fun arg harg => h arg.1 (List.of_mem_zip harg).1

theorem bindKeywordsVia_eq {s : State} {params : List String}
    (h : ∀ key ∈ params, s.table.contains key = true) (named : List (String × Option ValueSet)) :
    bindKeywordsVia d s params named = bindKeywords s params named := by
  apply foldl_via fun t _ => ∀ key ∈ params, t.contains key = true
  · rintro s ⟨name, values⟩
    dsimp only
    split
    · exact (absorbs_assign _ _ _ _).shape
    · exact .refl _
  · exact fun hshape hk key hkey => (hshape.contains key).trans (hk key hkey)
  · rintro s ⟨name, values⟩ hk
    dsimp only
    cases values with
    | none => rfl
    | some values =>
      cases hkey : params.find? (fun key => basename key = name) with
      | none => rfl
      | some key => exact assignVia_eq d (hk key (List.mem_of_find?_eq_some hkey)) values name
  · exact fun _ _ => h

theorem mem_of_mem_receiving {f : FunctionValue} {params : List String} {key : String}
    (h : key ∈ f.receiving params) : key ∈ params := by
  unfold FunctionValue.receiving at h
  split at h
  · exact List.mem_of_mem_tail h
  · exact h

theorem propagateVia_eq (args : List (Option ValueSet)) (named : List (String × Option ValueSet))
    {s : State} {f : FunctionValue} (hsigned : s.table.signaturesOf f ≠ [])
    (hkeys : ∀ params ∈ s.table.signaturesOf f, ∀ key ∈ params, s.table.contains key = true) :
    propagateVia d args named s f = propagate args named s f := by
  unfold propagateVia propagate
  cases hlists : s.table.signaturesOf f with
  | nil => exact absurd hlists hsigned
  | cons params lists =>
    rw [hlists] at hkeys
    apply foldl_via fun t params => ∀ key ∈ params, t.contains key = true
    · exact fun s params => (absorbs_bindArguments s (f.receiving params) args named).shape
    · exact fun hshape hk key hkey => (hshape.contains key).trans (hk key hkey)
    · intro s params hk
      have hreceiving : ∀ key ∈ f.receiving params, s.table.contains key = true :=
        fun key hkey => hk key (mem_of_mem_receiving hkey)
      have hshape := (absorbs_bindPositional s (f.receiving params) args).shape
      rw [bindPositionalVia_eq d hreceiving, bindKeywordsVia_eq d]
      exact fun key hkey => (hshape.contains key).trans (hreceiving key hkey)
    · exact hkeys

theorem callVia_eq {fs : List FunctionValue} {s : State} (h : Registered fs s.table)
    {callee : Option ValueSet} (hc : AllKnown (OneOf fs) callee) (args : List (Option ValueSet))
    (named : List (String × Option ValueSet)) :
    callVia d callee args named s = call callee args named s := by
  cases callee with
  | none => rfl
  | some callee =>
    have hemit := (absorbs_emits s .typeUsed callee.types).shape
    unfold callVia call
    dsimp only
    rw [reach_eq]
    refine congrArg (Prod.mk _) ?_
    apply foldl_via fun t f => t.signaturesOf f ≠ [] ∧
      ∀ params ∈ t.signaturesOf f, ∀ key ∈ params, t.contains key = true
    · exact fun s f => (absorbs_propagate s args named f).shape
    · intro t u f hshape hf
      rw [hshape.signaturesOf, funext hshape.contains]
      exact hf
    · exact fun s f hf => propagateVia_eq d args named hf.1 hf.2
    · intro f hf
      have hmem := all_callTargets h.values hc _ (ValueSet.mem_functions_iff.mp hf)
      rw [hemit.signaturesOf, funext hemit.contains]
      exact ⟨h.signed f hmem, h.keys f hmem⟩

end Detours

end Resolution

theorem resolutionVia_own : resolutionVia .own = resolution := by
  unfold resolutionVia
  rw [Resolution.callVia_own]
  rfl

/-- On registered values a resolution takes no detour. -/
theorem detour_simulation (d : Resolution.Detour) (fs : List FunctionValue) :
    Simulation (fun _ _ => True) (resolutionVia d) resolution
      (fun s t => s = t ∧ Registered fs s.table) (fun a b => a = b ∧ AllKnown (OneOf fs) a)
      (fun _ _ => True) :=
  { (registered_invariant fs).diagonal with
    guard := fun _ _ _ _ => trivial
    call := by
      rintro c k ns f _ args args' named named' s _ hx ⟨rfl, hs⟩ ⟨rfl, hf⟩ hargs hnamed _
      have hcall := @Simulation.call _ _ _ _ _ _ _ _ (registered_invariant fs).diagonal c k ns f f
        args args' named named' s s hx ⟨rfl, hs⟩ ⟨rfl, hf⟩ hargs hnamed trivial
      obtain ⟨rfl, _⟩ := Invariant.forall₂_diagonal id hargs
      obtain ⟨rfl, _⟩ := Invariant.forall₂_diagonal (A := fun a => AllKnown (OneOf fs) a.2)
        (fun h => ⟨Prod.ext h.1 h.2.1, h.2.2⟩) hnamed
      have heq : (resolutionVia d).call c f args named s = resolution.call c f args named s :=
        Resolution.callVia_eq d hs hf args named
      rw [heq]
      exact hcall }

theorem runModule_via_eq {fs : List FunctionValue} {t : Table} (h : Registered fs t)
    (d : Resolution.Detour) (m : SourceModule) :
    runModule (resolutionVia d) m ⟨t, #[], false⟩ = runModule resolution m ⟨t, #[], false⟩ :=
  ((detour_simulation d fs).runModule_related (fun _ _ => trivial) ⟨rfl, h⟩ trivial).1

/-- Whatever resolutions follow on the definitions, every type in the table is a declared class
and every function in it is declared and registered in full, so that no call takes a detour. -/
theorem resolveAll_values_registered (ms schedule : List SourceModule) :
    let t := resolveAll (definitionRound ∅ ms).1 schedule
    (∀ slot name, .type name ∈ (t.held slot).toList → name ∈ ms.flatMap declaredClasses) ∧
    (∀ slot f, .function f ∈ (t.held slot).toList →
      f ∈ ms.flatMap declaredFunctions ∧
      (∃ values, t.get? f.key = some values ∧ values.contains (.function f) = true) ∧
      (t.returnsOf f).isSome = true ∧
      t.signaturesOf f ≠ [] ∧ f.params ∈ t.signaturesOf f ∧
      ∀ params ∈ t.signaturesOf f, ∀ key ∈ params, t.contains key = true) ∧
    resolutionVia .own = resolution ∧
      ∀ d m, runModule (resolutionVia d) m ⟨t, #[], false⟩ = runModule resolution m ⟨t, #[], false⟩ := by
  intro t
  have hgrows := resolveAll_grows (definitionRound ∅ ms).1 schedule
  have hregistered := resolveAll_registered (definitionRound_registered ms) schedule
  refine ⟨fun slot name hname => ?_, fun slot f hf => ?_, resolutionVia_own,
    fun d m => runModule_via_eq hregistered d m⟩
  · exact resolveAll_all (definitionRound_types ms) schedule slot _ hname
  · have hdeclared := hregistered.values slot _ hf
    obtain ⟨hreturned, hentry, hparams, _⟩ := definitionRound_registers hdeclared
    obtain ⟨values, hvalues, hmem⟩ :=
      Table.exists_slot?_of_mem (Table.held_subset hgrows.le _ _ hentry)
    refine ⟨hdeclared, ⟨values, hvalues, decide_eq_true hmem⟩,
      Table.isSome_of_le hgrows.le _ hreturned, hregistered.signed f hdeclared, ?_,
      hregistered.keys f hdeclared⟩
    rw [hgrows.shape.signaturesOf]
    exact hparams

end Flow

end NameFlow
