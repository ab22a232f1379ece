import NameFlow.Proofs.Flow.Bindings
import NameFlow.Proofs.Flow.Declaration
import NameFlow.Proofs.Flow.Returns

/-!
# The skeleton that definitions build

The table of a definition round is what its requests enter into it, one after another. Since the
requests are those of the bindings, the table can be read off the trees: which keys there are,
which values stand under a key before anything has flowed, which return slots and which parameter
lists. Only for attributes and for what is returned the trees do not suffice. The key of an attribute
depends on what the definition knows of the owner when it comes to the target, and a return slot holds
what it knows of the returned expressions when it comes to them.
-/

namespace NameFlow

set_option autoImplicit false

namespace Flow

open Python Definition

section Requests

/-- What a definition sends to the table at a request. -/
def HookCall.inflows : HookCall → List Inflow
  | .declareType c n => typeInflows c n
  | .declareFunction c n returns params => functionInflows c n returns params
  | .bindVariable c n site _ => variableInflows c n site
  | _ => []

def HookCall.function? : HookCall → Option FunctionValue
  | .declareFunction c n _ params => some (functionValue c n params)
  | _ => none

/-- The table after a request to a definition. -/
def enter (t : Table) (call : HookCall) : Table :=
  call.function?.toList.foldl Table.recordSignature (t.receiveAll call.inflows)

theorem slot?_enter (t : Table) (call : HookCall) (slot : Slot) :
    (enter t call).slot? slot = (t.receiveAll call.inflows).slot? slot :=
  Table.slot?_recordSignatures _ call.function?.toList slot

theorem mem_parameterLists_enter {t : Table} {call : HookCall} {key : String}
    {params : List String} :
    params ∈ (enter t call).parameterLists key ↔ params ∈ t.parameterLists key ∨
      ∃ f ∈ call.function?.toList, f.key = key ∧ f.params = params := by
  rw [← Table.parameterLists_receiveAll t call.inflows]
  exact Table.mem_parameterLists_recordSignatures

/-- The table of a definition follows its requests. -/
theorem folds_definition : Folds definition (·.table) enter where
  declareType := fun c n s => declareType_table s c n
  enterFunction := fun _ _ _ => rfl
  declareFunction := fun c n returns params s => declareFunction_table s c n returns params
  bindVariable := fun c n site _ s => bindVariable_table s c n site
  useType := fun _ _ _ => rfl
  call := fun _ _ _ _ _ => rfl
  readVariable := fun _ _ _ _ => rfl

theorem define_eq_enter (t : Table) (m : SourceModule) :
    (define t m).1 = (hookCalls definition m ⟨t, #[]⟩).foldl enter t :=
  folds_definition.runModule m ⟨t, #[]⟩

/-- The requests of a definition round, in their order. -/
def definitionCalls (t : Table) : List SourceModule → List HookCall
  | [] => []
  | m :: ms => hookCalls definition m ⟨t, #[]⟩ ++ definitionCalls (define t m).1 ms

theorem definitionRound_eq_enter (t : Table) (ms : List SourceModule) :
    (definitionRound t ms).1 = (definitionCalls t ms).foldl enter t := by
  induction ms generalizing t with
  | nil => rfl
  | cons m ms ih =>
    rw [definitionCalls, List.foldl_append, ← define_eq_enter]
    exact ih (define t m).1

/-- A module of a definition round and the state in which its own definition begins. The table is
that of the modules before it. -/
def StartsIn (t : Table) (ms : List SourceModule) (m : SourceModule) (x : Definition.State) : Prop :=
  ∃ earlier later, ms = earlier ++ m :: later ∧ x = ⟨(definitionRound t earlier).1, #[]⟩

theorem startsIn_cons {t : Table} {m m' : SourceModule} {ms : List SourceModule}
    {x : Definition.State} : StartsIn t (m :: ms) m' x ↔
      m' = m ∧ x = ⟨t, #[]⟩ ∨ StartsIn (define t m).1 ms m' x := by
  constructor
  · rintro ⟨earlier, later, hms, hx⟩
    cases earlier with
    | nil => exact Or.inl ⟨(List.cons.inj hms).1.symm, hx⟩
    | cons first earlier =>
      obtain ⟨rfl, hrest⟩ := List.cons.inj hms
      exact Or.inr ⟨earlier, later, hrest, hx⟩
  · rintro (⟨rfl, rfl⟩ | ⟨earlier, later, rfl, rfl⟩)
    · exact ⟨[], ms, rfl, rfl⟩
    · exact ⟨m :: earlier, later, rfl, rfl⟩

theorem StartsIn.mem {t : Table} {ms : List SourceModule} {m : SourceModule}
    {x : Definition.State} (h : StartsIn t ms m x) : m ∈ ms := by
  obtain ⟨earlier, later, rfl, _⟩ := h
  simp

/-- The definition round arrives at an attribute target. -/
def Arrives (t : Table) (ms : List SourceModule) (r : Arrival Definition.State) : Prop :=
  ∃ m x, StartsIn t ms m x ∧ r.binding ∈ moduleBindings m ∧
    r.On definition x (hookCalls definition m x)

/-- The definition round walks a function, which it enters in the state `y`. -/
def Walked (t : Table) (ms : List SourceModule) (f : FunctionTree) (y : Definition.State) : Prop :=
  ∃ m x, StartsIn t ms m x ∧ f ∈ moduleFunctions m ∧
    f.EnteredIn definition x (hookCalls definition m x) y

theorem mem_definitionCalls {t : Table} {ms : List SourceModule} {m : SourceModule}
    {x : Definition.State} (hstart : StartsIn t ms m x) {call : HookCall}
    (hcall : call ∈ hookCalls definition m x) : call ∈ definitionCalls t ms := by
  induction ms generalizing t with
  | nil => cases hstart.mem
  | cons first ms ih =>
    rw [definitionCalls, List.mem_append]
    rcases startsIn_cons.mp hstart with ⟨rfl, rfl⟩ | hlater
    · exact Or.inl hcall
    · exact Or.inr (ih hlater)

theorem Arrives.mem {t : Table} {ms : List SourceModule} {r : Arrival Definition.State}
    (h : Arrives t ms r) : r.request definition ∈ definitionCalls t ms := by
  obtain ⟨m, x, hstart, _, hr⟩ := h
  exact mem_definitionCalls hstart hr.mem

theorem Walked.mem {t : Table} {ms : List SourceModule} {f : FunctionTree} {y : Definition.State}
    (h : Walked t ms f y) : f.declaration definition y ∈ definitionCalls t ms := by
  obtain ⟨m, x, hstart, _, hf⟩ := h
  exact mem_definitionCalls hstart hf.mem

theorem definitionCalls_accounts (t : Table) (ms : List SourceModule) :
    Accounts definition (Arrives t ms) (ms.flatMap moduleBindings) (definitionCalls t ms) := by
  induction ms generalizing t with
  | nil => exact ⟨nofun, nofun, .nil⟩
  | cons m ms ih =>
    apply Accounts.append
    · apply (hookCalls_accounts definition m ⟨t, #[]⟩).mono
      exact fun r hb hr => ⟨m, _, startsIn_cons.mpr (Or.inl ⟨rfl, rfl⟩), hb, hr⟩
    · apply (ih (define t m).1).mono
      rintro r _ ⟨m', x, hstart, hr⟩
      exact ⟨m', x, startsIn_cons.mpr (Or.inr hstart), hr⟩

/-- The declarations of a round are those of its functions, in their order. -/
theorem definitionCalls_declarations (t : Table) (ms : List SourceModule) :
    List.Forall₂ (fun f call => ∃ y, Walked t ms f y ∧ f.declaration definition y = call)
      (ms.flatMap moduleFunctions) ((definitionCalls t ms).filter HookCall.isDeclaration) := by
  induction ms generalizing t with
  | nil => exact .nil
  | cons m ms ih =>
    rw [List.flatMap_cons, definitionCalls, List.filter_append]
    apply List.rel_append
    · have hmodule := (List.forall₂_and_left _ _).mpr
        ⟨fun f hf => hf, (records_hookCalls (i := definition) m ⟨t, #[]⟩).declarations⟩
      apply hmodule.imp
      rintro f call ⟨hf, y, hy, rfl⟩
      exact ⟨y, ⟨m, _, startsIn_cons.mpr (Or.inl ⟨rfl, rfl⟩), hf, hy⟩, rfl⟩
    · apply (ih (define t m).1).imp
      rintro f call ⟨y, ⟨m', x, hstart, hf⟩, rfl⟩
      exact ⟨y, ⟨m', x, startsIn_cons.mpr (Or.inr hstart), hf⟩, rfl⟩

/-- Only functions that are walked are declared. -/
theorem walked_of_declaration {t : Table} {ms : List SourceModule} {call : HookCall}
    (hcall : call ∈ definitionCalls t ms) (hdeclares : call.isDeclaration = true) :
    ∃ f y, Walked t ms f y ∧ f.declaration definition y = call := by
  obtain ⟨f, _, y, hy⟩ := Resolution.exists_of_forall₂ (definitionCalls_declarations t ms).flip
    (List.mem_filter.mpr ⟨hcall, hdeclares⟩)
  exact ⟨f, y, hy⟩

theorem slot?_entered (t : Table) (calls : List HookCall) (slot : Slot) :
    (calls.foldl enter t).slot? slot =
      (t.receiveAll (calls.flatMap HookCall.inflows)).slot? slot := by
  induction calls generalizing t with
  | nil => rfl
  | cons call calls ih =>
    rw [List.foldl_cons, ih, List.flatMap_cons, Table.receiveAll_append]
    exact Table.slot?_receiveAll_congr (slot?_enter t call) _ slot

theorem held_entered (t : Table) (calls : List HookCall) (slot : Slot) :
    (calls.foldl enter t).held slot =
      (t.receiveAll (calls.flatMap HookCall.inflows)).held slot := by
  unfold Table.held
  rw [slot?_entered]

theorem mem_parameterLists_entered {t : Table} {calls : List HookCall} {key : String}
    {params : List String} :
    params ∈ (calls.foldl enter t).parameterLists key ↔ params ∈ t.parameterLists key ∨
      ∃ call ∈ calls, ∃ f ∈ call.function?.toList, f.key = key ∧ f.params = params := by
  induction calls generalizing t with
  | nil => simp
  | cons call calls ih =>
    rw [List.foldl_cons, ih, mem_parameterLists_enter, List.exists_mem_cons_iff, or_assoc]

end Requests

section Reading

/-- The keys that bindings open. An attribute opens a key in each class that its owner is known to
be an instance of where the definition comes to the target. -/
inductive Opened (bs : List Binding) (T : Arrival Definition.State → Prop) : String → Prop
  | type {c : ScopeChain} {n : String} (h : .type c n ∈ bs) : Opened bs T (c.key n)
  | function {c : ScopeChain} {n : String} {params : Parameters Expr}
      (h : .function c n params ∈ bs) : Opened bs T (c.key n)
  | parameter {c : ScopeChain} {n p : String} {params : Parameters Expr}
      (h : .function c n params ∈ bs) (hp : p ∈ boundNames params) :
      Opened bs T ((c.push n .function).key p)
  | name {c : ScopeChain} {n : String} (h : .name c n ∈ bs) : Opened bs T (c.key n)
  | method {c : ScopeChain} {n type : String} {params : Parameters Expr}
      (h : .function c n params ∈ bs) (hc : c.current = ⟨type, .type⟩) :
      Opened bs T (memberKey type n)
  | member {c : ScopeChain} {n type : String} (h : .name c n ∈ bs)
      (hc : c.current = ⟨type, .type⟩) : Opened bs T (memberKey type n)
  | attribute {c : ScopeChain} {owner : Expr} {n type : String} {x : Definition.State}
      {v : Option ValueSet} (h : .attribute c owner n ∈ bs) (hr : T ⟨c, owner, n, x, v⟩)
      (htype : type ∈ ((walkExpr definition c x owner).1.getD ∅).types) :
      Opened bs T (memberKey type n)

/-- The function that a binding declares. -/
def boundFunction (c : ScopeChain) (n : String) (params : Parameters Expr) : FunctionValue :=
  functionValue c n (parameterKeys (c.push n .function) params)

/-- The values that bindings place under keys. The receiver of a method is placed wherever its
name is bound in the method's scope. -/
inductive Placed (bs : List Binding) : String → Value → Prop
  | type {c : ScopeChain} {n : String} (h : .type c n ∈ bs) : Placed bs (c.key n) (.type n)
  | function {c : ScopeChain} {n : String} {params : Parameters Expr}
      (h : .function c n params ∈ bs) :
      Placed bs (c.key n) (.function (boundFunction c n params))
  | method {c : ScopeChain} {n type : String} {params : Parameters Expr}
      (h : .function c n params ∈ bs) (hc : c.current = ⟨type, .type⟩) :
      Placed bs (memberKey type n) (.function (boundFunction c n params))
  | receiver {c : ScopeChain} {n type : String} {params : Parameters Expr}
      (h : .function c n params ∈ bs) (hp : receiverName ∈ boundNames params)
      (hc : c.current = ⟨type, .type⟩) :
      Placed bs ((c.push n .function).key receiverName) (.type type)
  | rebound {c : ScopeChain} {type : String} (h : .name c receiverName ∈ bs)
      (hc : c.current.kind = .function) (hparent : c.parent = some ⟨type, .type⟩) :
      Placed bs (c.key receiverName) (.type type)

/-- A table that holds what the modules declare and nothing else. Of functions with one identity
only one is kept. -/
structure Skeleton (ms : List SourceModule) (t : Table) : Prop where
  keys : ∀ key, key ∈ t.keys ↔ Opened (ms.flatMap moduleBindings) (Arrives ∅ ms) key
  values : ∀ key, ∀ v ∈ (t.held (.entry key)).toList, Placed (ms.flatMap moduleBindings) key v
  identities : ∀ key i, i ∈ t.held (.entry key) ↔
    ∃ v, Placed (ms.flatMap moduleBindings) key v ∧ v.identity = i
  returnSlots : ∀ key, key ∈ t.returns.keys ↔
    ∃ c n params, .function c n params ∈ ms.flatMap moduleBindings ∧ c.key n = key
  /-- The slot holds what the functions return themselves, each returned expression evaluated in the
  state in which the definition comes to it. -/
  returned : ∀ key i, i ∈ t.held (.returned key) ↔
    ∃ f y e x, Walked ∅ ms f y ∧ f.scopes.key f.name = key ∧
      (e, x) ∈ f.returned definition (f.opened definition y).2 ∧
      i ∈ (walkExpr definition f.inside x e).1.getD ∅
  signatures : ∀ key params, params ∈ t.parameterLists key ↔
    ∃ c n ps, .function c n ps ∈ ms.flatMap moduleBindings ∧ c.key n = key ∧
      parameterKeys (c.push n .function) ps = params
  /-- Each attribute target has its own request, with what is known of the owner where the definition
  comes to it. -/
  attributes : List.Forall₂
    (fun b call => ∃ r, Arrives ∅ ms r ∧ r.binding = b ∧ r.request definition = call)
    ((ms.flatMap moduleBindings).filter Binding.isAttribute)
    ((definitionCalls ∅ ms).filter HookCall.bindsAttribute)
  /-- Each function has its own declaration, with what it returns from the state in which it is
  entered. -/
  declarations : List.Forall₂
    (fun f call => ∃ y, Walked ∅ ms f y ∧ f.declaration definition y = call)
    (ms.flatMap moduleFunctions) ((definitionCalls ∅ ms).filter HookCall.isDeclaration)

end Reading

section Forward

variable {bs : List Binding} {T : Arrival Definition.State → Prop} {calls : List HookCall}

theorem walkNames_definition (c : ScopeChain) (params : Parameters Expr) (x : Definition.State) :
    (walkNames definition c params x).1 = parameterKeys c params :=
  walkNames_keys definition (fun _ _ _ => rfl) c params x

theorem memberKey?_eq_some {c : ScopeChain} {n key : String} :
    c.memberKey? n = some key ↔ ∃ type, c.current = ⟨type, .type⟩ ∧ memberKey type n = key := by
  obtain ⟨⟨name, kind⟩, outer⟩ := c
  cases kind <;> simp [ScopeChain.memberKey?]

theorem mem_memberInflows {c : ScopeChain} {n : String} {values : ValueSet} {f : Inflow} :
    f ∈ memberInflows c n values ↔
      ∃ type, c.current = ⟨type, .type⟩ ∧ f = ⟨.entry (memberKey type n), values⟩ := by
  unfold memberInflows
  rw [List.mem_map]
  constructor
  · rintro ⟨key, hkey, rfl⟩
    obtain ⟨type, hc, rfl⟩ := memberKey?_eq_some.mp (Option.mem_toList.mp hkey)
    exact ⟨type, hc, rfl⟩
  · rintro ⟨type, hc, rfl⟩
    exact ⟨_, Option.mem_toList.mpr (memberKey?_eq_some.mpr ⟨type, hc, rfl⟩), rfl⟩

theorem method_mem_functionInflows {c : ScopeChain} {n type : String}
    (hc : c.current = ⟨type, .type⟩) (returns : Option ValueSet) (params : List String) :
    ⟨.entry (memberKey type n), .ofList [.function (functionValue c n params)]⟩ ∈
      functionInflows c n returns params := by
  unfold functionInflows
  apply List.mem_cons_of_mem
  apply List.mem_cons_of_mem
  exact mem_memberInflows.mpr ⟨type, hc, rfl⟩

theorem receiver_eq_some_iff {c : ScopeChain} {n : String} {v : Value} :
    receiver c n = some v ↔ n = receiverName ∧ c.current.kind = .function ∧
      ∃ type, c.parent = some ⟨type, .type⟩ ∧ v = .type type := by
  obtain ⟨⟨name, kind⟩, outer⟩ := c
  unfold receiver
  by_cases hn : n = receiverName
  · rw [if_pos hn]
    cases outer with
    | nil => cases kind <;> simp [ScopeChain.enclosingType, ScopeChain.parent]
    | cons around outer =>
      obtain ⟨type, kind'⟩ := around
      cases kind <;> cases kind' <;>
        simp [ScopeChain.enclosingType, ScopeChain.parent, hn, eq_comm]
  · simp [hn]

theorem identity_mem_ofList {v : Value} {vs : List Value} (h : v ∈ vs) :
    v.identity ∈ ValueSet.ofList vs :=
  (ValueSet.mem_inserts vs ∅).mpr (Or.inr ⟨v, h, rfl⟩)

theorem binds_of_inflow {call : HookCall} {f : Inflow} (hf : f ∈ call.inflows) :
    call.binds = true := by
  cases call with
  | declareType | declareFunction | bindVariable => rfl
  | _ => cases hf

/-- What a request sends to a key is what the binding behind it says. -/
theorem reading_of_inflow (h : Accounts definition T bs calls) {call : HookCall}
    (hcall : call ∈ calls) {f : Inflow} (hf : f ∈ call.inflows) {key : String}
    (hslot : f.slot = .entry key) :
    Opened bs T key ∧ ∀ v ∈ f.values.toList, Placed bs key v := by
  obtain ⟨b, hb, hreal⟩ := h.sound call hcall (binds_of_inflow hf)
  cases hreal with
  | type c n =>
    obtain rfl := List.mem_singleton.mp hf
    cases hslot
    refine ⟨.type hb, fun v hv => ?_⟩
    rw [List.mem_singleton.mp (ValueSet.mem_toList_ofList hv)]
    exact .type hb
  | function c n params returns x =>
    rw [HookCall.inflows, walkNames_definition] at hf
    rcases List.mem_cons.mp hf with rfl | hf
    · cases hslot
    rcases List.mem_cons.mp hf with rfl | hf
    · cases hslot
      refine ⟨.function hb, fun v hv => ?_⟩
      rw [List.mem_singleton.mp (ValueSet.mem_toList_ofList hv)]
      exact .function hb
    · obtain ⟨type, hc, rfl⟩ := mem_memberInflows.mp hf
      cases hslot
      refine ⟨.method hb hc, fun v hv => ?_⟩
      rw [List.mem_singleton.mp (ValueSet.mem_toList_ofList hv)]
      exact .method hb hc
  | parameter c n params p hp =>
    -- the scope is that of a function, so the name is no member
    obtain rfl := List.mem_singleton.mp hf
    cases hslot
    refine ⟨.parameter hb hp, fun v hv => ?_⟩
    have hv' := Option.mem_toList.mp (ValueSet.mem_toList_ofList hv)
    obtain ⟨rfl, _, type, hparent, rfl⟩ := receiver_eq_some_iff.mp hv'
    exact .receiver hb hp (Option.some.inj hparent)
  | name c n v =>
    rcases List.mem_cons.mp hf with rfl | hf
    · cases hslot
      refine ⟨.name hb, fun w hw => ?_⟩
      have hw' := Option.mem_toList.mp (ValueSet.mem_toList_ofList hw)
      obtain ⟨rfl, hkind, type, hparent, rfl⟩ := receiver_eq_some_iff.mp hw'
      exact .rebound hb hkind hparent
    · obtain ⟨type, hc, rfl⟩ := mem_memberInflows.mp hf
      cases hslot
      exact ⟨.member hb hc, nofun⟩
  | _ r hr =>
    obtain ⟨type, htype, rfl⟩ := List.mem_map.mp hf
    cases hslot
    exact ⟨.attribute hb hr htype, nofun⟩

end Forward

section Backward

variable {bs : List Binding} {T : Arrival Definition.State → Prop} {calls : List HookCall}
  {key : String}

/-- One of the requests opens the key. -/
theorem Opened.sent (h : Accounts definition T bs calls)
    (hT : ∀ r, T r → r.request definition ∈ calls) (hopened : Opened bs T key) :
    ∃ call ∈ calls, ∃ f ∈ call.inflows, f.slot = .entry key := by
  cases hopened with
  | type hb => exact ⟨_, h.complete _ hb, _, List.mem_cons_self, rfl⟩
  | function hb =>
    obtain ⟨⟨returns, x, hcall⟩, _⟩ := h.complete _ hb
    exact ⟨_, hcall, _, List.mem_cons_of_mem _ List.mem_cons_self, rfl⟩
  | parameter hb hp =>
    exact ⟨_, (h.complete _ hb).2 _ hp, _, List.mem_cons_self, rfl⟩
  | name hb =>
    obtain ⟨v, hcall⟩ := h.complete _ hb
    exact ⟨_, hcall, _, List.mem_cons_self, rfl⟩
  | method hb hc =>
    obtain ⟨⟨returns, x, hcall⟩, _⟩ := h.complete _ hb
    exact ⟨_, hcall, _, method_mem_functionInflows hc returns _, rfl⟩
  | member hb hc =>
    obtain ⟨v, hcall⟩ := h.complete _ hb
    exact ⟨_, hcall, _, List.mem_cons_of_mem _ (mem_memberInflows.mpr ⟨_, hc, rfl⟩), rfl⟩
  | _ hb hr htype => exact ⟨_, hT _ hr, _, List.mem_map.mpr ⟨_, htype, rfl⟩, rfl⟩

/-- One of the requests sends the value to the key. -/
theorem Placed.sent (h : Accounts definition T bs calls) {v : Value} (hplaced : Placed bs key v) :
    ∃ call ∈ calls, ∃ f ∈ call.inflows, f.slot = .entry key ∧ v.identity ∈ f.values := by
  have hone := fun v : Value => identity_mem_ofList (List.mem_singleton_self v)
  cases hplaced with
  | type hb => exact ⟨_, h.complete _ hb, _, List.mem_cons_self, rfl, hone _⟩
  | function hb =>
    obtain ⟨⟨returns, x, hcall⟩, _⟩ := h.complete _ hb
    exact ⟨_, hcall, _, List.mem_cons_of_mem _ List.mem_cons_self, rfl, hone _⟩
  | method hb hc =>
    obtain ⟨⟨returns, x, hcall⟩, _⟩ := h.complete _ hb
    exact ⟨_, hcall, _, method_mem_functionInflows hc returns _, rfl, hone _⟩
  | @receiver c n type params hb hp hc =>
    have hreceiver :
        Definition.receiver (c.push n .function) receiverName = some (.type type) :=
      receiver_eq_some_iff.mpr ⟨rfl, rfl, type, congrArg some hc, rfl⟩
    refine ⟨_, (h.complete _ hb).2 _ hp, _, List.mem_cons_self, rfl, ?_⟩
    exact identity_mem_ofList (Option.mem_toList.mpr hreceiver)
  | rebound hb hkind hparent =>
    obtain ⟨w, hcall⟩ := h.complete _ hb
    have hreceiver := receiver_eq_some_iff.mpr ⟨rfl, hkind, _, hparent, rfl⟩
    refine ⟨_, hcall, _, List.mem_cons_self, rfl, ?_⟩
    exact identity_mem_ofList (Option.mem_toList.mpr hreceiver)

/-- The functions are declared with the keys of their parameters. -/
theorem declareFunction_mem_iff (h : Accounts definition T bs calls) {c : ScopeChain} {n : String}
    {keys : List String} :
    (∃ returns, .declareFunction c n returns keys ∈ calls) ↔
      ∃ params, .function c n params ∈ bs ∧ parameterKeys (c.push n .function) params = keys := by
  constructor
  · rintro ⟨returns, hcall⟩
    obtain ⟨b, hb, hreal⟩ := h.sound _ hcall rfl
    cases hreal with
    | function _ _ params _ x => exact ⟨params, hb, (walkNames_definition _ params x).symm⟩
  · rintro ⟨params, hb, rfl⟩
    obtain ⟨⟨returns, x, hcall⟩, _⟩ := h.complete _ hb
    rw [walkNames_definition] at hcall
    exact ⟨returns, hcall⟩

/-- A return slot gets what its declarations return, and nothing else goes there. -/
theorem returned_inflow {call : HookCall} {f : Inflow} :
    f ∈ call.inflows ∧ f.slot = .returned key ↔
      ∃ c n returns params, call = .declareFunction c n returns params ∧ c.key n = key ∧
        f = ⟨.returned (c.key n), returns.getD ∅⟩ := by
  constructor
  · rintro ⟨hf, hslot⟩
    cases call with
    | declareType c n =>
      obtain rfl := List.mem_singleton.mp hf
      cases hslot
    | declareFunction c n returns params =>
      rcases List.mem_cons.mp hf with rfl | hf
      · cases hslot
        exact ⟨c, n, returns, params, rfl, rfl, rfl⟩
      rcases List.mem_cons.mp hf with rfl | hf
      · cases hslot
      · obtain ⟨type, _, rfl⟩ := mem_memberInflows.mp hf
        cases hslot
    | bindVariable c n site v =>
      match site with
      | .lexical =>
        rcases List.mem_cons.mp hf with rfl | hf
        · cases hslot
        · obtain ⟨type, _, rfl⟩ := mem_memberInflows.mp hf
          cases hslot
      | .attribute owner =>
        obtain ⟨type, _, rfl⟩ := List.mem_map.mp hf
        cases hslot
    | _ => cases hf
  · rintro ⟨c, n, returns, params, rfl, rfl, rfl⟩
    exact ⟨List.mem_cons_self, rfl⟩

end Backward

section Round

variable {calls : List HookCall}

theorem exists_inflow {P : Inflow → Prop} :
    (∃ f ∈ calls.flatMap HookCall.inflows, P f) ↔ ∃ call ∈ calls, ∃ f ∈ call.inflows, P f := by
  simp only [List.mem_flatMap]
  constructor
  · rintro ⟨f, ⟨call, hcall, hf⟩, hP⟩
    exact ⟨call, hcall, f, hf, hP⟩
  · rintro ⟨call, hcall, f, hf, hP⟩
    exact ⟨f, ⟨call, hcall, hf⟩, hP⟩

theorem slot?_empty (slot : Slot) : (∅ : Table).slot? slot = none := by cases slot <;> rfl

theorem held_empty (slot : Slot) : (∅ : Table).held slot = ∅ := by cases slot <;> rfl

theorem isSome_entered (calls : List HookCall) (slot : Slot) :
    ((calls.foldl enter ∅).slot? slot).isSome = true ↔
      ∃ call ∈ calls, ∃ f ∈ call.inflows, f.slot = slot := by
  rw [slot?_entered, Table.isSome_slot?_receiveAll, slot?_empty, exists_inflow]
  constructor
  · rintro (hnone | hsent)
    · cases hnone
    · exact hsent
  · exact Or.inr

theorem mem_held_entered {slot : Slot} {i : Identity} :
    i ∈ (calls.foldl enter ∅).held slot ↔
      ∃ call ∈ calls, ∃ f ∈ call.inflows, f.slot = slot ∧ i ∈ f.values := by
  rw [held_entered, Table.mem_held_receiveAll, held_empty, exists_inflow]
  constructor
  · rintro (hnone | hsent)
    · exact absurd hnone (ValueSet.not_mem_empty i)
    · exact hsent
  · exact Or.inr

theorem mem_toList_held_entered {slot : Slot} {v : Value}
    (h : v ∈ ((calls.foldl enter ∅).held slot).toList) :
    ∃ call ∈ calls, ∃ f ∈ call.inflows, f.slot = slot ∧ v ∈ f.values.toList := by
  rw [held_entered] at h
  rcases Table.mem_toList_held_receiveAll h with hnone | hsent
  · rw [held_empty] at hnone
    exact absurd hnone List.not_mem_nil
  · exact exists_inflow.mp hsent

/-- What a function is declared with are the values of the expressions that it returns itself. -/
theorem mem_getD_result {f : FunctionTree} {y : Definition.State} {v : Identity} :
    v ∈ (f.result definition y).getD ∅ ↔
      ∃ e x, (e, x) ∈ f.returned definition y ∧ v ∈ (walkExpr definition f.inside x e).1.getD ∅ := by
  unfold FunctionTree.result
  rw [mem_getD_collected]
  constructor
  · rintro ⟨w, hw, hv⟩
    obtain ⟨⟨e, x⟩, hr, rfl⟩ := List.mem_map.mp hw
    exact ⟨e, x, hr, hv⟩
  · rintro ⟨e, x, hr, hv⟩
    exact ⟨_, List.mem_map.mpr ⟨(e, x), hr, rfl⟩, hv⟩

/-- Entered into the empty table, the requests of a round build the skeleton. -/
theorem skeleton_entered (ms : List SourceModule) :
    Skeleton ms ((definitionCalls ∅ ms).foldl enter ∅) where
  keys := by
    intro key
    refine OrderedMap.contains_iff.symm.trans ((isSome_entered _ (.entry key)).trans ?_)
    constructor
    · rintro ⟨call, hcall, f, hf, hkey⟩
      exact (reading_of_inflow (definitionCalls_accounts ∅ ms) hcall hf hkey).1
    · exact fun hopened => hopened.sent (definitionCalls_accounts ∅ ms) fun _ hr => hr.mem
  values := by
    intro key v hv
    obtain ⟨call, hcall, f, hf, hkey, hv⟩ := mem_toList_held_entered hv
    exact (reading_of_inflow (definitionCalls_accounts ∅ ms) hcall hf hkey).2 v hv
  identities := by
    intro key i
    rw [mem_held_entered]
    constructor
    · rintro ⟨call, hcall, f, hf, hkey, hi⟩
      obtain ⟨v, hv, rfl⟩ := ValueSet.mem_iff.mp hi
      exact ⟨v, (reading_of_inflow (definitionCalls_accounts ∅ ms) hcall hf hkey).2 v hv, rfl⟩
    · rintro ⟨v, hplaced, rfl⟩
      exact hplaced.sent (definitionCalls_accounts ∅ ms)
  returnSlots := by
    intro key
    refine OrderedMap.contains_iff.symm.trans ((isSome_entered _ (.returned key)).trans ?_)
    constructor
    · rintro ⟨call, hcall, f, hf, hkey⟩
      obtain ⟨c, n, returns, keys, rfl, hn, _⟩ := returned_inflow.mp ⟨hf, hkey⟩
      obtain ⟨params, hb, _⟩ :=
        (declareFunction_mem_iff (definitionCalls_accounts ∅ ms)).mp ⟨returns, hcall⟩
      exact ⟨c, n, params, hb, hn⟩
    · rintro ⟨c, n, params, hb, hn⟩
      obtain ⟨returns, hcall⟩ :=
        (declareFunction_mem_iff (definitionCalls_accounts ∅ ms)).mpr ⟨params, hb, rfl⟩
      obtain ⟨hf, hkey⟩ := returned_inflow.mpr ⟨c, n, returns, _, rfl, hn, rfl⟩
      exact ⟨_, hcall, _, hf, hkey⟩
  returned := by
    intro key i
    rw [mem_held_entered]
    constructor
    · rintro ⟨call, hcall, inflow, hinflow, hkey, hi⟩
      obtain ⟨c, n, returns, params, rfl, hn, rfl⟩ := returned_inflow.mp ⟨hinflow, hkey⟩
      obtain ⟨f, y, hwalked, hdeclaration⟩ := walked_of_declaration hcall rfl
      obtain ⟨rfl, rfl, rfl, rfl⟩ := HookCall.declareFunction.inj hdeclaration
      obtain ⟨e, x, hr, hi⟩ := mem_getD_result.mp hi
      exact ⟨f, y, e, x, hwalked, hn, hr, hi⟩
    · rintro ⟨f, y, e, x, hwalked, hn, hr, hi⟩
      obtain ⟨hinflow, hkey⟩ := returned_inflow.mpr
        ⟨f.scopes, f.name, f.result definition (f.opened definition y).2,
          (f.opened definition y).1, rfl, hn, rfl⟩
      exact ⟨_, hwalked.mem, _, hinflow, hkey, mem_getD_result.mpr ⟨e, x, hr, hi⟩⟩
  signatures := by
    intro key params
    rw [mem_parameterLists_entered]
    constructor
    · rintro (hnone | ⟨call, hcall, f, hf, hkey, hparams⟩)
      · exact absurd hnone List.not_mem_nil
      · cases call with
        | declareFunction c n returns keys =>
          obtain rfl := List.mem_singleton.mp hf
          obtain ⟨ps, hb, hkeys⟩ :=
            (declareFunction_mem_iff (definitionCalls_accounts ∅ ms)).mp ⟨returns, hcall⟩
          exact ⟨c, n, ps, hb, hkey, hkeys.trans hparams⟩
        | _ => cases hf
    · rintro ⟨c, n, ps, hb, hkey, hparams⟩
      obtain ⟨returns, hcall⟩ :=
        (declareFunction_mem_iff (definitionCalls_accounts ∅ ms)).mpr ⟨ps, hb, hparams⟩
      exact Or.inr ⟨_, hcall, _, List.mem_singleton_self _, hkey, rfl⟩
  attributes := (definitionCalls_accounts ∅ ms).targets
  declarations := definitionCalls_declarations ∅ ms

/-- The definition round builds the skeleton that the trees declare. -/
theorem definitionRound_skeleton (ms : List SourceModule) :
    Skeleton ms (definitionRound ∅ ms).1 := by
  rw [definitionRound_eq_enter]
  exact skeleton_entered ms

end Round

end Flow

end NameFlow
