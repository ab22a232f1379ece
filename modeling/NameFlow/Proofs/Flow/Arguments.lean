import NameFlow.Proofs.Flow.Receiver

/-!
# Where the arguments of a call go

A declaration keeps the keys of its parameters in one list, the positional ones first and behind
them those that are only reached by a keyword; the starred ones are left out. The arguments of a
call are moved into this list by place and by name, less its first key if the function is a method.
As long as a method has a receiver and no call has more arguments than there are positional
parameters, this is what the kinds of the parameters ask for. Beyond that it is not: arguments that
a starred parameter would collect go on to the keyword-only ones, and a method that has nothing
but keyword-only parameters loses the first of them in place of its receiver.
-/

namespace NameFlow

set_option autoImplicit false

namespace Flow

open Python

namespace Resolution

section Arguments

variable {t : Table} {params : List String} {f : Inflow}

theorem mem_argumentInflow_iff {key : String} {v : Option ValueSet} :
    f ∈ argumentInflow t key v ↔
      ∃ values, v = some values ∧ t.contains key = true ∧ f = ⟨.entry key, values⟩ := by
  cases v with
  | none => simp [argumentInflow]
  | some values =>
    unfold argumentInflow entryInflow
    split
    · rename_i hkey
      simp [hkey]
    · rename_i hkey
      simp [hkey]

theorem mem_positionalInflows_iff {args : List (Option ValueSet)} :
    f ∈ positionalInflows t params args ↔ ∃ (k : Nat) (key : String) (values : ValueSet),
      params[k]? = some key ∧ args[k]? = some (some values) ∧ t.contains key = true ∧
        f = ⟨.entry key, values⟩ := by
  unfold positionalInflows
  rw [List.mem_flatMap]
  constructor
  · rintro ⟨⟨key, v⟩, hpair, hf⟩
    obtain ⟨k, hk⟩ := List.mem_iff_getElem?.mp hpair
    obtain ⟨hkey, hv⟩ := List.getElem?_zip_eq_some.mp hk
    obtain ⟨values, rfl, hcontains, rfl⟩ := mem_argumentInflow_iff.mp hf
    exact ⟨k, key, values, hkey, hv, hcontains, rfl⟩
  · rintro ⟨k, key, values, hkey, hv, hcontains, rfl⟩
    refine ⟨(key, some values), List.mem_iff_getElem?.mpr ⟨k, ?_⟩, ?_⟩
    · exact List.getElem?_zip_eq_some.mpr ⟨hkey, hv⟩
    · exact mem_argumentInflow_iff.mpr ⟨values, rfl, hcontains, rfl⟩

theorem mem_keywordInflows_iff {named : List (String × Option ValueSet)} :
    f ∈ keywordInflows t params named ↔ ∃ n key values,
      params.find? (fun key => basename key = n) = some key ∧ (n, some values) ∈ named ∧
        t.contains key = true ∧ f = ⟨.entry key, values⟩ := by
  unfold keywordInflows
  rw [List.mem_flatMap]
  constructor
  · rintro ⟨⟨n, v⟩, hnamed, hf⟩
    dsimp only at hf
    split at hf
    · rename_i key hkey
      obtain ⟨values, rfl, hcontains, rfl⟩ := mem_argumentInflow_iff.mp hf
      exact ⟨n, key, values, hkey, hnamed, hcontains, rfl⟩
    · exact absurd hf List.not_mem_nil
  · rintro ⟨n, key, values, hkey, hnamed, hcontains, rfl⟩
    refine ⟨(n, some values), hnamed, ?_⟩
    dsimp only
    rw [hkey]
    exact mem_argumentInflow_iff.mpr ⟨values, rfl, hcontains, rfl⟩

end Arguments

end Resolution

section Parameters

variable {c : ScopeChain} {params : Parameters Expr}

/-- The positional parameters that arguments are meant for. The first one of a method is its
receiver. -/
def explicit (c : ScopeChain) (params : Parameters Expr) : List (Parameter Expr) :=
  if c.current.kind = .type then params.positional.tail else params.positional

/-- The parameters that a call of the function moves its arguments into. -/
def receivable (f : FunctionValue) (params : Parameters Expr) : List (Parameter Expr) :=
  if f.isMethod then (params.positional ++ params.keywordOnly).tail
  else params.positional ++ params.keywordOnly

/-- What goes to the key of a parameter: an argument at its place, if it is one of those that are
filled by place, and an argument of its name, if it is one of those that are filled by name. -/
inductive Belongs (inner : ScopeChain) (byPlace byName : List (Parameter Expr))
    (args : List (Option ValueSet)) (named : List (String × Option ValueSet)) :
    String → ValueSet → Prop
  | place {k : Nat} {p : Parameter Expr} {values : ValueSet} (hp : byPlace[k]? = some p)
      (ha : args[k]? = some (some values)) :
      Belongs inner byPlace byName args named (inner.key p.name) values
  | name {p : Parameter Expr} {values : ValueSet} (hp : p ∈ byName)
      (ha : (p.name, some values) ∈ named) :
      Belongs inner byPlace byName args named (inner.key p.name) values

/-- The value that stands for a function is a method exactly if the declaration is in a class
body. -/
def SameForm (f : FunctionValue) (c : ScopeChain) : Prop :=
  f.isMethod = true ↔ c.current.kind = .type

variable {f : FunctionValue}

theorem receiving_parameterKeys (f : FunctionValue) (inner : ScopeChain)
    (params : Parameters Expr) :
    f.receiving (parameterKeys inner params) =
      (receivable f params).map fun p => inner.key p.name := by
  unfold FunctionValue.receiving parameterKeys receivable
  split
  · rw [List.map_tail]
  · rfl

theorem receivable_of_receiver (hform : SameForm f c)
    (h : c.current.kind = .type → params.positional ≠ []) :
    receivable f params = explicit c params ++ params.keywordOnly := by
  unfold receivable explicit
  by_cases hkind : c.current.kind = .type
  · rw [if_pos (hform.mpr hkind), if_pos hkind, List.tail_append_of_ne_nil (h hkind)]
  · rw [if_neg fun hmethod => hkind (hform.mp hmethod), if_neg hkind]

theorem receivable_of_no_receiver (hform : SameForm f c) (hkind : c.current.kind = .type)
    (hnone : params.positional = []) : receivable f params = params.keywordOnly.tail := by
  unfold receivable
  rw [if_pos (hform.mpr hkind), hnone]
  rfl

/-- At the places of the positional parameters stand the positional parameters. -/
theorem explicit_of_receivable (hform : SameForm f c) {k : Nat} {p : Parameter Expr}
    (hp : (receivable f params)[k]? = some p)
    (hk : params.keywordOnly = [] ∨ k < (explicit c params).length) :
    (explicit c params)[k]? = some p := by
  by_cases hreceiver : c.current.kind = .type → params.positional ≠ []
  · rw [receivable_of_receiver hform hreceiver] at hp
    rcases hk with hnone | hk
    · rwa [hnone, List.append_nil] at hp
    · rwa [List.getElem?_append_left hk] at hp
  · rw [Classical.not_imp, Classical.not_not] at hreceiver
    obtain ⟨hkind, hpositional⟩ := hreceiver
    rw [receivable_of_no_receiver hform hkind hpositional] at hp
    unfold explicit at hk
    rw [if_pos hkind, hpositional] at hk
    rcases hk with hnone | hk
    · rw [hnone] at hp
      cases hp
    · exact absurd hk (Nat.not_lt_zero k)

theorem mem_of_mem_receivable (hform : SameForm f c) {p : Parameter Expr}
    (h : p ∈ receivable f params) : p ∈ explicit c params ++ params.keywordOnly := by
  by_cases hreceiver : c.current.kind = .type → params.positional ≠ []
  · rwa [receivable_of_receiver hform hreceiver] at h
  · rw [Classical.not_imp, Classical.not_not] at hreceiver
    rw [receivable_of_no_receiver hform hreceiver.1 hreceiver.2] at h
    exact List.mem_append_right _ (List.mem_of_mem_tail h)

theorem mem_boundNames_of_receivable {p : Parameter Expr} (h : p ∈ receivable f params) :
    p.name ∈ boundNames params := by
  unfold receivable at h
  split at h
  · exact mem_boundNames_of_mem (List.mem_of_mem_tail h)
  · exact mem_boundNames_of_mem h

theorem find?_parameter {inner : ScopeChain} {ps : List (Parameter Expr)} {n key : String}
    (hdot : ∀ p ∈ ps, '.' ∉ p.name.toList) :
    (ps.map fun p => inner.key p.name).find? (fun key => basename key = n) = some key ↔
      ∃ p ∈ ps, p.name = n ∧ key = inner.key p.name := by
  induction ps with
  | nil => simp
  | cons p ps ih =>
    rw [List.forall_mem_cons] at hdot
    have hbase : basename (inner.key p.name) = p.name := basename_dotted inner.path hdot.1
    rw [List.map_cons, List.find?_cons, hbase]
    by_cases hp : p.name = n
    · rw [decide_eq_true hp]
      simp only [Option.some.injEq, List.exists_mem_cons_iff]
      constructor
      · rintro rfl
        exact Or.inl ⟨hp, rfl⟩
      · rintro (⟨_, rfl⟩ | ⟨q, _, hq, rfl⟩)
        · rfl
        · rw [hp, hq]
    · rw [decide_eq_false hp]
      simp only [List.exists_mem_cons_iff, hp, false_and, false_or]
      exact ih hdot.2

end Parameters

section Calls

open Resolution

/-- A call that a resolution makes, with the state that it is made in. -/
structure CallEvent where
  state : Resolution.State
  callee : Option ValueSet
  args : List (Option ValueSet)
  named : List (String × Option ValueSet)

namespace CallEvent

def before (e : CallEvent) : Table := e.state.table

def after (e : CallEvent) : Table := (call e.callee e.args e.named e.state).2.table

def targets (e : CallEvent) : List FunctionValue :=
  (callTargets e.before (e.callee.getD ∅)).functions

end CallEvent

/-- The call that a step makes of the operands. -/
def State.callEvent (s : State Resolution.State) (arity : Nat) (names : List String) : CallEvent :=
  let rest := s.operands.drop names.length
  ⟨s.inner, (rest.drop arity).head?.join, (rest.take arity).reverse,
    names.zip (s.operands.take names.length).reverse⟩

def callEvents : List Step → State Resolution.State → List CallEvent
  | [], _ => []
  | x :: code, s =>
    match x with
    | .call arity names => s.callEvent arity names :: callEvents code (step resolution s x)
    | _ => callEvents code (step resolution s x)

/-- The calls that the resolution of a module makes when it starts on the table. -/
def moduleCalls (t : Table) (m : SourceModule) : List CallEvent :=
  callEvents (blockCode m.body) (.start m.root ⟨t, #[], false⟩)

/-- A function that a call reaches, and a declaration under its key. -/
structure Reached (ms : List SourceModule) (e : CallEvent) (f : FunctionValue) (c : ScopeChain)
    (n : String) (params : Parameters Expr) : Prop where
  target : f ∈ e.targets
  declared : .function c n params ∈ ms.flatMap moduleBindings
  key : c.key n = f.key

/-- A table with the shape of another one and values of its functions only. -/
structure Filled (fs : List FunctionValue) (start t : Table) : Prop where
  registered : Registered fs t
  shape : start.SameShape t

theorem Filled.of_shape {fs : List FunctionValue} {start t u : Table} (h : Filled fs start t)
    (hshape : t.SameShape u) (hu : u.All (OneOf fs)) : Filled fs start u :=
  ⟨h.registered.of_shape hshape hu, h.shape.trans hshape⟩

theorem filled_invariant (fs : List FunctionValue) (start : Table) :
    Invariant (fun _ _ => True) resolution (fun s => Filled fs start s.table)
      (AllKnown (OneOf fs)) where
  unknown := allKnown_none _
  join := allKnown_joinKnown
  declareType := fun _ h => h
  enterFunction := fun _ h => h
  declareFunction := fun hx h hr => h.of_shape (absorbs_declareFunction _ _ _ _ _).shape
    ((registered_invariant fs).declareFunction hx h.registered hr).values
  useType := fun _ h => h
  bind := fun hx h hv => h.of_shape (absorbs_bindVariable _ _ _ _ _).shape
    ((registered_invariant fs).bind hx h.registered hv).values
  bindAttribute := fun hx h ho hv => h.of_shape (absorbs_bindVariable _ _ _ _ _).shape
    ((registered_invariant fs).bindAttribute hx h.registered ho hv).values
  parameter := fun _ h => h
  read := fun hx h =>
    have hread := (registered_invariant fs).read hx h.registered
    ⟨hread.1, h.of_shape (absorbs_readVariable _ _ _ _).shape hread.2.values⟩
  readAttribute := fun hx h ho =>
    have hread := (registered_invariant fs).readAttribute hx h.registered ho
    ⟨hread.1, h.of_shape (absorbs_readVariable _ _ _ _).shape hread.2.values⟩
  call := by
    intro c k ns f args named s hx h hf hargs hnamed
    have hcall := @Invariant.call _ _ _ _ _ (registered_invariant fs) c k ns f args named s hx
      h.registered hf hargs hnamed
    exact ⟨hcall.1, h.of_shape (absorbs_call _ _ _ _).shape hcall.2.values⟩

variable {ms : List SourceModule} {t : Table}

/-- At every call the table has the shape that the run has started with, and the callee is known. -/
theorem filled_of_mem_callEvents {fs : List FunctionValue} {start : Table} {code : List Step}
    {s : State Resolution.State}
    (h : Related (fun x y => x = y ∧ Filled fs start x.table)
      (fun a b => a = b ∧ AllKnown (OneOf fs) a) s s) :
    ∀ e ∈ callEvents code s, Filled fs start e.before ∧ AllKnown (OneOf fs) e.callee := by
  have hinv := (filled_invariant fs start).diagonal
  induction code generalizing s with
  | nil => exact fun e he => absurd he List.not_mem_nil
  | cons x code ih =>
    intro e he
    have hnext := hinv.step_related (x := x) trivial h trivial
    cases x with
    | call arity names =>
      rcases List.mem_cons.mp he with rfl | he
      · have hrest := List.forall₂_drop arity (List.forall₂_drop names.length h.operands)
        exact ⟨h.inner.2, (Related.head hinv.unknown hrest).2⟩
      · exact ih hnext e he
    | _ => exact ih hnext e he

theorem filled_of_mem_moduleCalls {fs : List FunctionValue} {start : Table} (ht : Filled fs start t)
    {m : SourceModule} : ∀ e ∈ moduleCalls t m,
      Filled fs start e.before ∧ AllKnown (OneOf fs) e.callee :=
  filled_of_mem_callEvents ⟨rfl, ⟨⟨rfl, allKnown_none _⟩, rfl⟩, .nil, .nil, rfl, ht⟩

/-- The parameter lists of a function that a call reaches are those of its declarations. -/
theorem mem_signatures_iff {f : FunctionValue} {keys : List String}
    (hs : Filled (ms.flatMap declaredFunctions) (definitionRound ∅ ms).1 t)
    (hf : f ∈ ms.flatMap declaredFunctions) :
    keys ∈ signatures t f ↔ ∃ c n params, .function c n params ∈ ms.flatMap moduleBindings ∧
      c.key n = f.key ∧ parameterKeys (c.push n .function) params = keys := by
  rw [signatures_eq (hs.registered.signed f hf), hs.shape.signaturesOf, definitionRound_eq_enter]
  exact (skeleton_entered ms).signatures f.key keys

section Reaching

variable {e : CallEvent} {f : FunctionValue} {c : ScopeChain} {n : String}
  {params : Parameters Expr}
  (he : Filled (ms.flatMap declaredFunctions) (definitionRound ∅ ms).1 e.before)
  (hcallee : AllKnown (OneOf (ms.flatMap declaredFunctions)) e.callee)

include he hcallee

theorem declared_of_mem_targets (hf : f ∈ e.targets) : f ∈ ms.flatMap declaredFunctions :=
  all_callTargets he.registered.values hcallee _ (ValueSet.mem_functions_iff.mp hf)

theorem Reached.mem_signatures (h : Reached ms e f c n params) :
    parameterKeys (c.push n .function) params ∈ signatures e.before f := by
  have hf := declared_of_mem_targets he hcallee h.target
  exact (mem_signatures_iff he hf).mpr ⟨c, n, params, h.declared, h.key, rfl⟩

/-- The parameters of a declaration are in the table when a call reaches it. -/
theorem Reached.contains (h : Reached ms e f c n params) {p : Parameter Expr}
    (hp : p ∈ receivable f params) :
    e.before.contains ((c.push n .function).key p.name) = true := by
  have hf := declared_of_mem_targets he hcallee h.target
  have hlist := h.mem_signatures he hcallee
  rw [signatures_eq (he.registered.signed f hf)] at hlist
  apply he.registered.keys f hf _ hlist
  apply mem_of_mem_receiving (f := f)
  rw [receiving_parameterKeys]
  exact List.mem_map_of_mem hp

/-- A call moves its arguments into the parameters of the declarations that it reaches. -/
theorem mem_callInflows_iff (hdot : Dotless ms) {flow : Inflow} :
    flow ∈ callInflows e.before e.callee e.args e.named ↔ ∃ f c n params key values,
      Reached ms e f c n params ∧ Belongs (c.push n .function) (receivable f params)
        (receivable f params) e.args e.named key values ∧ flow = ⟨.entry key, values⟩ := by
  have hnames : ∀ {f c n params}, .function c n params ∈ ms.flatMap moduleBindings →
      ∀ p ∈ receivable f params, '.' ∉ p.name.toList := by
    intro f c n params hb p hp
    exact hdot _ hb p.name (List.mem_cons_of_mem n (mem_boundNames_of_receivable hp))
  unfold callInflows functionInflows
  simp only [List.mem_flatMap, List.mem_append]
  constructor
  · rintro ⟨f, hf, keys, hlist, hflow⟩
    have hdeclared := declared_of_mem_targets he hcallee hf
    obtain ⟨c, n, params, hb, hkey, rfl⟩ := (mem_signatures_iff he hdeclared).mp hlist
    rw [receiving_parameterKeys] at hflow
    rcases hflow with hflow | hflow
    · obtain ⟨k, key, values, hparam, harg, _, rfl⟩ := mem_positionalInflows_iff.mp hflow
      rw [List.getElem?_map] at hparam
      obtain ⟨p, hp, rfl⟩ := Option.map_eq_some_iff.mp hparam
      exact ⟨f, c, n, params, _, values, ⟨hf, hb, hkey⟩, .place hp harg, rfl⟩
    · obtain ⟨name, key, values, hparam, harg, _, rfl⟩ := mem_keywordInflows_iff.mp hflow
      obtain ⟨p, hp, rfl, rfl⟩ := (find?_parameter (hnames hb)).mp hparam
      exact ⟨f, c, n, params, _, values, ⟨hf, hb, hkey⟩, .name hp harg, rfl⟩
  · rintro ⟨f, c, n, params, key, values, hreached, hbelongs, rfl⟩
    refine ⟨f, hreached.target, _, hreached.mem_signatures he hcallee, ?_⟩
    rw [receiving_parameterKeys]
    cases hbelongs with
    | @place k p _ hp ha =>
      left
      refine mem_positionalInflows_iff.mpr ⟨k, _, values, ?_, ha, ?_, rfl⟩
      · rw [List.getElem?_map, hp]
        rfl
      · exact hreached.contains he hcallee (List.mem_of_getElem? hp)
    | @name p _ hp ha =>
      right
      refine mem_keywordInflows_iff.mpr ⟨p.name, _, values, ?_, ha, ?_, rfl⟩
      · exact (find?_parameter (hnames hreached.declared)).mpr ⟨p, hp, rfl, rfl⟩
      · exact hreached.contains he hcallee hp

theorem mem_held_after_iff (hdot : Dotless ms) (slot : Slot) (i : Identity) :
    i ∈ e.after.held slot ↔ i ∈ e.before.held slot ∨ ∃ f c n params key values,
      Reached ms e f c n params ∧ Belongs (c.push n .function) (receivable f params)
        (receivable f params) e.args e.named key values ∧ slot = .entry key ∧ i ∈ values := by
  have htable : e.after = e.before.receiveAll (callInflows e.before e.callee e.args e.named) :=
    (absorbs_call e.state e.callee e.args e.named).table
  rw [htable, Table.mem_held_receiveAll]
  refine or_congr_right ⟨?_, ?_⟩
  · rintro ⟨flow, hflow, rfl, hi⟩
    obtain ⟨f, c, n, params, key, values, hreached, hbelongs, rfl⟩ :=
      (mem_callInflows_iff he hcallee hdot).mp hflow
    exact ⟨f, c, n, params, key, values, hreached, hbelongs, rfl, hi⟩
  · rintro ⟨f, c, n, params, key, values, hreached, hbelongs, rfl, hi⟩
    refine ⟨⟨.entry key, values⟩, ?_, rfl, hi⟩
    exact (mem_callInflows_iff he hcallee hdot).mpr
      ⟨f, c, n, params, key, values, hreached, hbelongs, rfl⟩

end Reaching

end Calls

section Kinds

/-- Whatever a call adds is an argument at its own place among the positional parameters of a
declaration, or an argument under its own name. -/
def PlacesByKind (ms : List SourceModule) (e : CallEvent) : Prop :=
  ∀ slot i, i ∈ e.after.held slot → i ∉ e.before.held slot → ∃ f c n params key values,
    Reached ms e f c n params ∧
    Belongs (c.push n .function) (explicit c params) (explicit c params ++ params.keywordOnly)
      e.args e.named key values ∧ slot = .entry key ∧ i ∈ values

/-- An argument with a name has come to the declaration's parameter of that name, unless this is
the receiver. -/
def NamesByKind (e : CallEvent) (c : ScopeChain) (n : String) (params : Parameters Expr) : Prop :=
  ∀ p ∈ explicit c params ++ params.keywordOnly, ∀ values, (p.name, some values) ∈ e.named →
    values ⊆ e.after.held (.entry ((c.push n .function).key p.name))

/-- A call moves its arguments into the positional and the keyword-only parameters, taken together
and less the first one for a method, of all declarations that it reaches, and does nothing else.
Hence they go by the kinds of the parameters, unless there are more arguments than positional
parameters before a keyword-only one, or a keyword-only parameter stands where a method has its
receiver, or the function is known as a method and declared as none, or the reverse. -/
theorem call_moves_arguments {ms : List SourceModule} (hdot : Dotless ms)
    (schedule : List SourceModule) (m : SourceModule) {e : CallEvent}
    (he : e ∈ moduleCalls (resolveAll (definitionRound ∅ ms).1 schedule) m) :
    (∀ slot i, i ∈ e.after.held slot ↔ i ∈ e.before.held slot ∨ ∃ f c n params key values,
      Reached ms e f c n params ∧
      Belongs (c.push n .function) (receivable f params) (receivable f params) e.args e.named key
        values ∧ slot = .entry key ∧ i ∈ values) ∧
    ((∀ f c n params, Reached ms e f c n params → SameForm f c ∧
        (params.keywordOnly = [] ∨ e.args.length ≤ (explicit c params).length)) →
      PlacesByKind ms e) ∧
    ∀ f c n params, Reached ms e f c n params → SameForm f c →
      (c.current.kind = .type → params.positional ≠ []) → NamesByKind e c n params := by
  have hstart : Filled (ms.flatMap declaredFunctions) (definitionRound ∅ ms).1
      (resolveAll (definitionRound ∅ ms).1 schedule) :=
    ⟨resolveAll_registered (definitionRound_registered ms) schedule,
      (resolveAll_grows (definitionRound ∅ ms).1 schedule).shape⟩
  obtain ⟨hfilled, hcallee⟩ := filled_of_mem_moduleCalls hstart e he
  have hheld := mem_held_after_iff hfilled hcallee hdot
  refine ⟨hheld, ?_, ?_⟩
  · intro hkinds slot i hafter hbefore
    rcases (hheld slot i).mp hafter with
      hi | ⟨f, c, n, params, key, values, hreached, hbelongs, hnew⟩
    · exact absurd hi hbefore
    · obtain ⟨hform, hroom⟩ := hkinds f c n params hreached
      refine ⟨f, c, n, params, key, values, hreached, ?_, hnew⟩
      cases hbelongs with
      | @place k p _ hp ha =>
        have hk : k < e.args.length := (List.getElem?_eq_some_iff.mp ha).1
        have hexplicit := explicit_of_receivable hform hp (hroom.imp_right (Nat.lt_of_lt_of_le hk))
        exact .place hexplicit ha
      | name hp ha => exact .name (mem_of_mem_receivable hform hp) ha
  · intro f c n params hreached hform hreceiver p hp values hnamed i hi
    rw [← receivable_of_receiver hform hreceiver] at hp
    apply (hheld _ i).mpr
    exact Or.inr ⟨f, c, n, params, _, values, hreached, .name hp hnamed, rfl, hi⟩

/-- A module with a class and a function, declared in the body of another class or of the module,
and an expression. -/
def smallFile (inClass : Bool) (n : String) (params : Parameters Expr) (e : Expr) : SourceModule :=
  let function := .functionDef n params none [.opaqueStmt]
  ⟨"m.py", "m",
    [.classDef "Item" [] [.opaqueStmt],
     if inClass then .classDef "Shelf" [] [function] else function,
     .expr e]⟩

theorem eq_of_declared_smallFile {inClass : Bool} {n n' : String} {params params' : Parameters Expr}
    {e : Expr} {c : ScopeChain}
    (hparams : ∀ c, parametersBindings c params = []) (he : exprBindings (.root "m") e = [])
    (h : .function c n' params' ∈ [smallFile inClass n params e].flatMap moduleBindings) :
    c = (if inClass then (ScopeChain.root "m").push "Shelf" .type else .root "m") ∧ n' = n ∧
      params' = params := by
  cases inClass with
  | _ =>
    simpa [smallFile, moduleBindings, blockBindings, stmtBindings, typesBindings, typeBindings?,
      hparams, he] using h

/-- `Shelf().put(Item(), label=Item())`, where the method has a parameter of each kind. -/
def stockFile : SourceModule :=
  smallFile true "put"
    ⟨[⟨"self", none, none⟩, ⟨"item", none, none⟩], none, [⟨"label", none, none⟩], none⟩
    (.call (.attribute (.call (.name "Shelf") [] []) "put") [.call (.name "Item") [] []]
      [⟨some "label", .call (.name "Item") [] []⟩])

theorem stock_goes_by_kind :
    Dotless [stockFile] ∧ ∃ e ∈ moduleCalls (definitionRound ∅ [stockFile]).1 stockFile,
      .type "Item" ∉ e.before.held (.entry "m.Shelf.put.label") ∧
      .type "Item" ∈ e.after.held (.entry "m.Shelf.put.label") ∧ PlacesByKind [stockFile] e := by
  have hdot : Dotless [stockFile] := by decide
  obtain ⟨e, he, hbefore, hafter, hargs, hmethods⟩ :
      ∃ e ∈ moduleCalls (definitionRound ∅ [stockFile]).1 stockFile,
        .type "Item" ∉ e.before.held (.entry "m.Shelf.put.label") ∧
        .type "Item" ∈ e.after.held (.entry "m.Shelf.put.label") ∧
        e.args.length ≤ 1 ∧ ∀ f ∈ e.targets, f.isMethod = true := by
    decide +kernel
  refine ⟨hdot, e, he, hbefore, hafter, ?_⟩
  apply (call_moves_arguments hdot [] stockFile he).2.1
  intro f c n params hreached
  obtain ⟨rfl, rfl, rfl⟩ := eq_of_declared_smallFile (fun _ => rfl) rfl hreached.declared
  exact ⟨⟨fun _ => rfl, fun _ => hmethods f hreached.target⟩, Or.inr hargs⟩

/-- `(*rest, label)` -/
def labelOnly : Parameters Expr := ⟨[], some "rest", [⟨"label", none, none⟩], none⟩

/-- `gather(Item())`, where arguments are collected. -/
def gatherFile : SourceModule :=
  smallFile false "gather" labelOnly
    (.call (.name "gather") [.call (.name "Item") [] []] [])

/-- `Shelf().put(label=Item())`, where the method has no receiver of its own. -/
def shelfFile : SourceModule :=
  smallFile true "put" labelOnly
    (.call (.attribute (.call (.name "Shelf") [] []) "put") []
      [⟨some "label", .call (.name "Item") [] []⟩])

/-- A call with an argument under a name that no program text can have. -/
def dottedFile : SourceModule :=
  smallFile false "put" ⟨[⟨"a.b", none, none⟩], none, [], none⟩
    (.call (.name "put") [] [⟨some "a.b", .call (.name "Item") [] []⟩])

/-- Without arguments that have a name, what a call adds belongs to a place. -/
theorem Belongs.of_unnamed {inner : ScopeChain} {byPlace byName : List (Parameter Expr)}
    {args : List (Option ValueSet)} {named : List (String × Option ValueSet)} {key : String}
    {values : ValueSet} (h : Belongs inner byPlace byName args named key values)
    (hnamed : named.length = 0) : ∃ p ∈ byPlace, key = inner.key p.name := by
  obtain rfl := List.length_eq_zero_iff.mp hnamed
  cases h with
  | @place k p _ hp _ => exact ⟨p, List.mem_of_getElem? hp, rfl⟩
  | name _ ha => exact absurd ha List.not_mem_nil

theorem not_namesByKind {e : CallEvent} {c : ScopeChain} {n : String} {params : Parameters Expr}
    {p : Parameter Expr} {i : Identity} (hp : p ∈ explicit c params ++ params.keywordOnly)
    (hnamed : ∃ arg ∈ e.named, arg.1 = p.name ∧ ∃ values ∈ arg.2.toList, i ∈ values)
    (hafter : i ∉ e.after.held (.entry ((c.push n .function).key p.name))) :
    ¬NamesByKind e c n params := by
  obtain ⟨⟨name, v⟩, harg, rfl, values, hv, hi⟩ := hnamed
  obtain rfl := Option.mem_toList.mp hv
  exact fun hnames => hafter (hnames p hp values harg i hi)

/-- An argument that is to be collected goes to the keyword-only parameter. -/
theorem gathered_into_label :
    Dotless [gatherFile] ∧ ∃ e ∈ moduleCalls (definitionRound ∅ [gatherFile]).1 gatherFile,
      (∀ f c n params, Reached [gatherFile] e f c n params → SameForm f c) ∧
        ¬PlacesByKind [gatherFile] e := by
  obtain ⟨e, he, hbefore, hafter, hnamed, hplain⟩ :
      ∃ e ∈ moduleCalls (definitionRound ∅ [gatherFile]).1 gatherFile,
        .type "Item" ∉ e.before.held (.entry "m.gather.label") ∧
        .type "Item" ∈ e.after.held (.entry "m.gather.label") ∧
        e.named.length = 0 ∧ ∀ f ∈ e.targets, f.isMethod = false := by
    decide +kernel
  refine ⟨by decide, e, he, ?_, ?_⟩
  · intro f c n params hreached
    obtain ⟨rfl, rfl, rfl⟩ := eq_of_declared_smallFile (fun _ => rfl) rfl hreached.declared
    unfold SameForm
    rw [hplain f hreached.target]
    decide
  · intro hplaces
    obtain ⟨f, c, n, params, key, values, hreached, hbelongs, _⟩ := hplaces _ _ hafter hbefore
    obtain ⟨rfl, rfl, rfl⟩ := eq_of_declared_smallFile (fun _ => rfl) rfl hreached.declared
    obtain ⟨p, hp, _⟩ := hbelongs.of_unnamed hnamed
    exact absurd hp List.not_mem_nil

/-- A keyword-only parameter that is taken for the receiver gets nothing. -/
theorem label_taken_for_receiver :
    Dotless [shelfFile] ∧ ∃ e ∈ moduleCalls (definitionRound ∅ [shelfFile]).1 shelfFile,
      ∃ f c n params, Reached [shelfFile] e f c n params ∧ SameForm f c ∧
        ¬NamesByKind e c n params := by
  obtain ⟨e, he, ⟨f, hf, hkey, hmethod⟩, hnamed, hafter⟩ :
      ∃ e ∈ moduleCalls (definitionRound ∅ [shelfFile]).1 shelfFile,
        (∃ f ∈ e.targets, f.key = "m.Shelf.put" ∧ f.isMethod = true) ∧
        (∃ arg ∈ e.named, arg.1 = "label" ∧ ∃ values ∈ arg.2.toList, .type "Item" ∈ values) ∧
        .type "Item" ∉ e.after.held (.entry "m.Shelf.put.label") := by
    decide +kernel
  have hb : .function ((ScopeChain.root "m").push "Shelf" .type) "put" labelOnly ∈
      [shelfFile].flatMap moduleBindings := List.mem_of_getElem? (i := 2) rfl
  refine ⟨by decide, e, he, f, _, _, _, ⟨hf, hb, hkey.symm⟩, ⟨fun _ => rfl, fun _ => hmethod⟩, ?_⟩
  exact not_namesByKind (p := ⟨"label", none, none⟩) List.mem_cons_self hnamed hafter

/-- The argument of a function goes to the receiver of a method that has its key. -/
theorem job_taken_for_receiver :
    Dotless [functionFile, methodFile] ∧
      ∃ e ∈ moduleCalls (definitionRound ∅ [functionFile, methodFile]).1 functionFile,
        (∀ f c n params, Reached [functionFile, methodFile] e f c n params →
          params.keywordOnly = []) ∧ ¬PlacesByKind [functionFile, methodFile] e := by
  obtain ⟨e, he, hbefore, hafter, hnamed⟩ :
      ∃ e ∈ moduleCalls (definitionRound ∅ [functionFile, methodFile]).1 functionFile,
        .type "Job" ∉ e.before.held (.entry "pkg.util.run.self") ∧
        .type "Job" ∈ e.after.held (.entry "pkg.util.run.self") ∧ e.named.length = 0 := by
    decide +kernel
  have hdeclared : ∀ {f c n params}, Reached [functionFile, methodFile] e f c n params →
      params.keywordOnly = [] ∧ explicit c params = [⟨"job", none, none⟩] := by
    intro f c n params hreached
    have hb : .function c n params ∈ [Binding.function (.root "pkg.util") "run"
        ⟨[⟨"job", none, none⟩], none, [], none⟩, .type (.root "pkg.util") "Job",
        .type (.root "pkg") "util", .function ((ScopeChain.root "pkg").push "util" .type) "run"
        ⟨[⟨"self", none, none⟩, ⟨"job", none, none⟩], none, [], none⟩] := hreached.declared
    simp only [List.mem_cons, Binding.function.injEq, reduceCtorEq, List.not_mem_nil, or_false,
      false_or] at hb
    rcases hb with ⟨rfl, rfl, rfl⟩ | ⟨rfl, rfl, rfl⟩
    · exact ⟨rfl, rfl⟩
    · exact ⟨rfl, rfl⟩
  refine ⟨by decide, e, he, fun f c n params hreached => (hdeclared hreached).1, ?_⟩
  intro hplaces
  obtain ⟨f, c, n, params, key, values, hreached, hbelongs, hslot, _⟩ := hplaces _ _ hafter hbefore
  obtain ⟨p, hp, rfl⟩ := hbelongs.of_unnamed hnamed
  rw [(hdeclared hreached).2] at hp
  obtain rfl := List.mem_singleton.mp hp
  have hkey : "pkg.util.run" ++ "." ++ "self" = (c.push n .function).path ++ "." ++ "job" :=
    Slot.entry.inj hslot
  have hname := (eq_of_dotted (by decide) (by decide) hkey).2
  exact absurd hname (by decide)

/-- A parameter is not found under a name with a dot. -/
theorem dotted_name_not_found :
    ∃ e ∈ moduleCalls (definitionRound ∅ [dottedFile]).1 dottedFile,
      ∃ f c n params, Reached [dottedFile] e f c n params ∧ SameForm f c ∧
        c.current.kind ≠ .type ∧ ¬NamesByKind e c n params := by
  obtain ⟨e, he, ⟨f, hf, hkey, hplain⟩, hnamed, hafter⟩ :
      ∃ e ∈ moduleCalls (definitionRound ∅ [dottedFile]).1 dottedFile,
        (∃ f ∈ e.targets, f.key = "m.put" ∧ f.isMethod = false) ∧
        (∃ arg ∈ e.named, arg.1 = "a.b" ∧ ∃ values ∈ arg.2.toList, .type "Item" ∈ values) ∧
        .type "Item" ∉ e.after.held (.entry "m.put.a.b") := by
    decide +kernel
  have hb : .function (.root "m") "put" ⟨[⟨"a.b", none, none⟩], none, [], none⟩ ∈
      [dottedFile].flatMap moduleBindings := List.mem_of_getElem? (i := 1) rfl
  refine ⟨e, he, f, _, _, _, ⟨hf, hb, hkey.symm⟩, ?_, by decide, ?_⟩
  · unfold SameForm
    rw [hplain]
    decide
  · exact not_namesByKind (p := ⟨"a.b", none, none⟩) List.mem_cons_self hnamed hafter

/-- None of the conditions can be left out. -/
theorem kinds_confused :
    (Dotless [gatherFile] ∧ ∃ e ∈ moduleCalls (definitionRound ∅ [gatherFile]).1 gatherFile,
      (∀ f c n params, Reached [gatherFile] e f c n params → SameForm f c) ∧
        ¬PlacesByKind [gatherFile] e) ∧
    (Dotless [shelfFile] ∧ ∃ e ∈ moduleCalls (definitionRound ∅ [shelfFile]).1 shelfFile,
      ∃ f c n params, Reached [shelfFile] e f c n params ∧ SameForm f c ∧
        ¬NamesByKind e c n params) ∧
    (Dotless [functionFile, methodFile] ∧
      ∃ e ∈ moduleCalls (definitionRound ∅ [functionFile, methodFile]).1 functionFile,
        (∀ f c n params, Reached [functionFile, methodFile] e f c n params →
          params.keywordOnly = []) ∧ ¬PlacesByKind [functionFile, methodFile] e) ∧
    ∃ e ∈ moduleCalls (definitionRound ∅ [dottedFile]).1 dottedFile,
      ∃ f c n params, Reached [dottedFile] e f c n params ∧ SameForm f c ∧
        c.current.kind ≠ .type ∧ ¬NamesByKind e c n params :=
  ⟨gathered_into_label, label_taken_for_receiver, job_taken_for_receiver, dotted_name_not_found⟩

end Kinds

end Flow

end NameFlow
