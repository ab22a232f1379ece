import NameFlow.Flow.Resolution
import NameFlow.Proofs.Table

/-!
# What a resolution step reads and writes

Each step of a resolution is split into the value it gives, which depends on the table alone,
and the inflows it sends to the table. The inflows of a step are determined by the table before
the step: a resolution adds no keys and no parameter lists.
-/

namespace NameFlow

set_option autoImplicit false

/-- The same keys in the same order, and the same parameter lists. -/
structure Table.SameShape (t u : Table) : Prop where
  keys : u.keys = t.keys
  signatures : u.signatures = t.signatures

namespace Table.SameShape

variable {t u w : Table}

theorem refl (t : Table) : t.SameShape t := ⟨rfl, rfl⟩

theorem trans (htu : t.SameShape u) (huw : u.SameShape w) : t.SameShape w :=
  ⟨huw.keys.trans htu.keys, huw.signatures.trans htu.signatures⟩

theorem contains (h : t.SameShape u) (key : String) : u.contains key = t.contains key := by
  have hk : u.entries.keys = t.entries.keys := h.keys
  unfold Table.contains
  rw [Bool.eq_iff_iff, OrderedMap.contains_iff, OrderedMap.contains_iff, hk]

theorem signaturesOf (h : t.SameShape u) : u.signaturesOf = t.signaturesOf := by
  funext f
  unfold Table.signaturesOf
  rw [h.signatures]

theorem receive {f : Inflow} (ha : ∀ key, f.slot = .entry key → t.contains key = true) :
    t.SameShape (t.receive f) := by
  obtain ⟨slot, values⟩ := f
  cases slot with
  | entry key => exact ⟨OrderedMap.keys_update_of_contains (ha key rfl) _, rfl⟩
  | returned key => exact ⟨rfl, rfl⟩

end Table.SameShape

namespace Flow.Resolution

section Inflows

/-- Values for a key that exists. -/
def entryInflow (t : Table) (key : String) (values : ValueSet) : List Inflow :=
  if t.contains key then [⟨.entry key, values⟩] else []

def argumentInflow (t : Table) (key : String) : Option ValueSet → List Inflow
  | some values => entryInflow t key values
  | none => []

def positionalInflows (t : Table) (params : List String) (args : List (Option ValueSet)) :
    List Inflow :=
  (params.zip args).flatMap fun arg => argumentInflow t arg.1 arg.2

def keywordInflows (t : Table) (params : List String) (named : List (String × Option ValueSet)) :
    List Inflow :=
  named.flatMap fun arg =>
    match params.find? (fun key => basename key = arg.1) with
    | some key => argumentInflow t key arg.2
    | none => []

/-- The parameter lists that the arguments of a call are moved into. -/
def signatures (t : Table) (f : FunctionValue) : List (List String) :=
  match t.signaturesOf f with
  | [] => [f.params]
  | lists => lists

def functionInflows (t : Table) (args : List (Option ValueSet))
    (named : List (String × Option ValueSet)) (f : FunctionValue) : List Inflow :=
  (signatures t f).flatMap fun params =>
    positionalInflows t (f.receiving params) args ++ keywordInflows t (f.receiving params) named

/-- A type gives itself, a function what it returns. -/
def valueResults (t : Table) : Value → List Value
  | .type name => [.type name]
  | .function f => (t.held (.returned f.key)).toList

/-- A type reaches its constructors, a function itself. -/
def valueTargets (t : Table) : Value → List Value
  | .type name => (t.held (.entry (memberKey name constructorName))).functions.map .function
  | .function f => [.function f]

/-- What a call of these values gives. -/
def callResult (t : Table) (callee : ValueSet) : ValueSet :=
  .ofList (callee.toList.flatMap (valueResults t))

/-- The functions that a call of these values reaches; of equal ones the first. -/
def callTargets (t : Table) (callee : ValueSet) : ValueSet :=
  .ofList (callee.toList.flatMap (valueTargets t))

def callInflows (t : Table) (callee : Option ValueSet) (args : List (Option ValueSet))
    (named : List (String × Option ValueSet)) : List Inflow :=
  (callTargets t (callee.getD ∅)).functions.flatMap (functionInflows t args named)

def callValue (t : Table) (callee : Option ValueSet) : Option ValueSet :=
  (callResult t (callee.getD ∅)).nonEmpty?

def attributeInflows (t : Table) (owner : Option ValueSet) (name : String) (values : ValueSet) :
    List Inflow :=
  (owner.getD ∅).types.flatMap fun type => entryInflow t (memberKey type name) values

def lexicalInflows (t : Table) (scopes : ScopeChain) (name : String) (values : ValueSet) :
    List Inflow :=
  match (scopes.lexicalKeys name).find? t.contains with
  | none => []
  | some key =>
    ⟨.entry key, values⟩ ::
      match scopes.memberKey? name with
      | some member => entryInflow t member values
      | none => []

def bindInflows (t : Table) (scopes : ScopeChain) (name : String) (site : Site)
    (incoming : Option ValueSet) : List Inflow :=
  match incoming, site with
  | none, _ => []
  | some values, .attribute owner => attributeInflows t owner name values
  | some values, .lexical => lexicalInflows t scopes name values

def returnInflows (scopes : ScopeChain) (name : String) : Option ValueSet → List Inflow
  | some values => [⟨.returned (scopes.key name), values⟩]
  | none => []

/-- What the types of an owner hold under an attribute's name. -/
def attributeValues (t : Table) (owner : Option ValueSet) (name : String) : ValueSet :=
  (owner.getD ∅).types.foldl
    (fun found type => found.union (t.held (.entry (memberKey type name)))) ∅

def readValue (t : Table) (scopes : ScopeChain) (name : String) : Site → Option ValueSet
  | .attribute owner => (attributeValues t owner name).nonEmpty?
  | .lexical => (lookup t scopes name).bind (·.nonEmpty?)

end Inflows

section Shape

variable {t u : Table}

theorem entryInflow_congr (h : t.SameShape u) : entryInflow u = entryInflow t := by
  funext key values
  unfold entryInflow
  rw [h.contains]

theorem argumentInflow_congr (h : t.SameShape u) : argumentInflow u = argumentInflow t := by
  funext key values
  cases values with
  | none => rfl
  | some values => exact congrFun (congrFun (entryInflow_congr h) key) values

theorem functionInflows_congr (h : t.SameShape u) : functionInflows u = functionInflows t := by
  funext args named f
  unfold functionInflows positionalInflows keywordInflows signatures
  rw [h.signaturesOf, argumentInflow_congr h]

end Shape

/-- The second state is the first after the given inflows: its table received them, and it is
changed if it was before or if one of them brought a value. -/
structure Absorbs (s : State) (fs : List Inflow) (s' : State) : Prop where
  table : s'.table = s.table.receiveAll fs
  changed : s'.changed = false ↔ s.changed = false ∧ ∀ f ∈ fs, s.table.Meets f
  shape : s.table.SameShape s'.table

namespace Absorbs

variable {s s' s'' : State} {fs gs : List Inflow}

theorem of_eq (ht : s'.table = s.table) (hc : s'.changed = s.changed) : Absorbs s [] s' where
  table := ht
  changed := by simp [hc]
  shape := ht ▸ .refl _

theorem emit (role : Role) (name : String) : Absorbs s [] (s.emit role name) := of_eq rfl rfl

theorem trans (h : Absorbs s fs s') (h' : Absorbs s' gs s'') : Absorbs s (fs ++ gs) s'' where
  table := by rw [h'.table, h.table, Table.receiveAll, Table.receiveAll, Table.receiveAll,
    List.foldl_append]
  changed := by
    rw [h'.changed, h.changed, h.table, List.forall_mem_append, and_assoc]
    refine and_congr_right fun _ => and_congr_right fun hfs => ?_
    exact forall_congr' fun g => imp_congr_right fun _ => Table.meets_receiveAll hfs
  shape := h.shape.trans h'.shape

/-- A loop absorbs what its rounds absorb. -/
theorem foldl {α γ : Type} (π : γ → State) (round : γ → α → γ) (flows : Table → α → List Inflow)
    (hcongr : ∀ {t u}, t.SameShape u → flows u = flows t)
    (hround : ∀ g x, Absorbs (π g) (flows (π g).table x) (π (round g x))) (xs : List α) (g : γ) :
    Absorbs (π g) (xs.flatMap (flows (π g).table)) (π (xs.foldl round g)) := by
  induction xs generalizing g with
  | nil => exact of_eq rfl rfl
  | cons x xs ih =>
    have hx := hround g x
    have hxs := ih (round g x)
    rw [hcongr hx.shape] at hxs
    exact hx.trans hxs

end Absorbs

theorem reachValues_eq (t : Table) (values : List Value) (r : Reach) :
    values.foldl (reachValue t) r =
      ⟨(values.flatMap (valueResults t)).foldl ValueSet.insert r.result,
        (values.flatMap (valueTargets t)).foldl ValueSet.insert r.targets⟩ := by
  induction values generalizing r with
  | nil => rfl
  | cons v values ih =>
    rw [List.foldl_cons, ih, List.flatMap_cons, List.flatMap_cons, List.foldl_append,
      List.foldl_append]
    cases v <;> rfl

theorem reach_eq (t : Table) (callee : ValueSet) :
    callee.toList.foldl (reachValue t) ⟨∅, ∅⟩ = ⟨callResult t callee, callTargets t callee⟩ :=
  reachValues_eq t callee.toList ⟨∅, ∅⟩

section Writes

variable (s : State)

theorem not_lacks_iff {values : ValueSet} {slot : Option ValueSet} :
    Table.lacks values slot = false ↔ values ⊆ slot.getD ∅ := by
  rw [Table.lacks, Bool.not_eq_false', ValueSet.isSubset_iff]

theorem absorbs_merge {key : String} (hk : s.table.contains key = true) (values : ValueSet) :
    Absorbs s [⟨.entry key, values⟩] (s.merge key values) where
  table := rfl
  changed := by
    show (s.changed || Table.lacks values (s.table.entries.get? key)) = false ↔ _
    rw [Bool.or_eq_false_iff, not_lacks_iff, List.forall_mem_singleton]
    exact Iff.rfl
  shape := .receive (f := ⟨.entry key, values⟩) fun _ h => Slot.entry.inj h ▸ hk

theorem absorbs_mergeReturns (key : String) (values : ValueSet) :
    Absorbs s [⟨.returned key, values⟩] (s.mergeReturns key values) where
  table := rfl
  changed := by
    show (s.changed || Table.lacks values (s.table.returns.get? key)) = false ↔ _
    rw [Bool.or_eq_false_iff, not_lacks_iff, List.forall_mem_singleton]
    exact Iff.rfl
  shape := .receive (f := ⟨.returned key, values⟩) fun _ h => nomatch h

theorem absorbs_assign (key : String) (values : ValueSet) (name : String) :
    Absorbs s (entryInflow s.table key values) (s.assign key values name) := by
  unfold State.assign entryInflow
  split
  · rename_i hk
    exact (absorbs_merge s hk values).trans (.emit .assigned name)
  · exact .of_eq rfl rfl

theorem absorbs_bindPositional (params : List String) (args : List (Option ValueSet)) :
    Absorbs s (positionalInflows s.table params args) (bindPositional s params args) := by
  unfold positionalInflows bindPositional
  apply Absorbs.foldl id _ fun t (arg : String × Option ValueSet) => argumentInflow t arg.1 arg.2
  · intro t u h
    rw [argumentInflow_congr h]
  · rintro s ⟨key, values⟩
    cases values with
    | none => exact .of_eq rfl rfl
    | some values => exact absorbs_assign s key values (basename key)

theorem absorbs_bindKeywords (params : List String) (named : List (String × Option ValueSet)) :
    Absorbs s (keywordInflows s.table params named) (bindKeywords s params named) := by
  unfold keywordInflows bindKeywords
  apply Absorbs.foldl id _ fun t (arg : String × Option ValueSet) =>
    match params.find? (fun key => basename key = arg.1) with
    | some key => argumentInflow t key arg.2
    | none => []
  · intro t u h
    rw [argumentInflow_congr h]
  · rintro s ⟨name, values⟩
    dsimp only [id]
    cases params.find? (fun key => decide (basename key = name)) with
    | none => cases values <;> exact .of_eq rfl rfl
    | some key =>
      cases values with
      | none => exact .of_eq rfl rfl
      | some values => exact absorbs_assign s key values name

theorem absorbs_bindArguments (params : List String) (args : List (Option ValueSet))
    (named : List (String × Option ValueSet)) :
    Absorbs s (positionalInflows s.table params args ++ keywordInflows s.table params named)
      (bindKeywords (bindPositional s params args) params named) := by
  have hp := absorbs_bindPositional s params args
  have hk := absorbs_bindKeywords (bindPositional s params args) params named
  unfold keywordInflows at hk
  rw [argumentInflow_congr hp.shape] at hk
  exact hp.trans hk

theorem absorbs_propagate (args : List (Option ValueSet)) (named : List (String × Option ValueSet))
    (f : FunctionValue) :
    Absorbs s (functionInflows s.table args named f) (propagate args named s f) := by
  have hloop := Absorbs.foldl id
    (fun s params => bindKeywords (bindPositional s (f.receiving params) args)
      (f.receiving params) named)
    (fun t params => positionalInflows t (f.receiving params) args ++
      keywordInflows t (f.receiving params) named)
    (by
      intro t u h
      unfold positionalInflows keywordInflows
      rw [argumentInflow_congr h])
    (fun s params => absorbs_bindArguments s (f.receiving params) args named)
    (signatures s.table f) (s.emit .functionCalled f.name)
  exact (Absorbs.emit .functionCalled f.name).trans hloop

theorem absorbs_emits (role : Role) (names : List String) :
    Absorbs s [] (names.foldl (fun s name => s.emit role name) s) := by
  have h := Absorbs.foldl id (fun s name => s.emit role name) (fun _ _ => []) (fun _ => rfl)
    (fun _ name => .emit role name) names s
  rwa [List.flatMap_eq_nil_iff.mpr fun _ _ => rfl] at h

theorem absorbs_call (callee : Option ValueSet) (args : List (Option ValueSet))
    (named : List (String × Option ValueSet)) :
    Absorbs s (callInflows s.table callee args named) (call callee args named s).2 := by
  cases callee with
  | none => exact .of_eq rfl rfl
  | some callee =>
    have hemit := absorbs_emits s .typeUsed callee.types
    have hloop := Absorbs.foldl id (propagate args named) (fun t => functionInflows t args named)
      (fun h => by rw [functionInflows_congr h]) (fun s f => absorbs_propagate s args named f)
      (callTargets s.table callee).functions
      (callee.types.foldl (fun s name => s.emit .typeUsed name) s)
    dsimp only [id] at hloop
    rw [functionInflows_congr hemit.shape] at hloop
    simp only [call, reach_eq]
    exact hemit.trans hloop

theorem absorbs_bindAttribute (owner : Option ValueSet) (name : String) (values : ValueSet) :
    Absorbs s (attributeInflows s.table owner name values)
      (bindAttribute owner name values s).2 := by
  unfold attributeInflows bindAttribute
  apply Absorbs.foldl (γ := Option String × State) Prod.snd _
    (fun t type => entryInflow t (memberKey type name) values) _ _ _ (none, s)
  · intro t u h
    rw [entryInflow_congr h]
  · rintro ⟨bound, s⟩ type
    dsimp only
    unfold entryInflow
    split
    · rename_i hk
      exact ((absorbs_merge s hk values).trans (.emit .resolvedThrough type)).trans
        (.emit .assigned name)
    · exact .of_eq rfl rfl

theorem absorbs_mergeMember (member : String) (values : ValueSet) :
    Absorbs s (entryInflow s.table member values)
      (if s.table.contains member then s.merge member values else s) := by
  unfold entryInflow
  split
  · rename_i hk
    exact absorbs_merge s hk values
  · exact .of_eq rfl rfl

theorem absorbs_bindLexical (scopes : ScopeChain) (name : String) (values : ValueSet) :
    Absorbs s (lexicalInflows s.table scopes name values)
      (bindLexical scopes name values s).2 := by
  unfold lexicalInflows bindLexical
  cases hkey : (scopes.lexicalKeys name).find? s.table.contains with
  | none => exact .of_eq rfl rfl
  | some key =>
    have hfirst := (absorbs_merge s (List.find?_some hkey) values).trans (.emit .assigned name)
    dsimp only
    cases scopes.memberKey? name with
    | none => exact hfirst
    | some member =>
      have hmember := absorbs_mergeMember ((s.merge key values).emit .assigned name) member values
      rw [entryInflow_congr hfirst.shape] at hmember
      exact hfirst.trans hmember

theorem absorbs_bindVariable (scopes : ScopeChain) (name : String) (site : Site)
    (incoming : Option ValueSet) :
    Absorbs s (bindInflows s.table scopes name site incoming)
      (bindVariable scopes name site incoming s).2 := by
  cases incoming with
  | none => exact .of_eq rfl rfl
  | some values =>
    match site with
    | .lexical => exact absorbs_bindLexical s scopes name values
    | .attribute owner => exact absorbs_bindAttribute s owner name values

theorem absorbs_declareFunction (scopes : ScopeChain) (name : String) (returns : Option ValueSet)
    (params : List String) :
    Absorbs s (returnInflows scopes name returns)
      (resolution.declareFunction scopes name returns params s) := by
  cases returns with
  | none => exact .of_eq rfl rfl
  | some values => exact absorbs_mergeReturns s (scopes.key name) values

end Writes

section Reads

variable (s : State)

theorem call_value (callee : Option ValueSet) (args : List (Option ValueSet))
    (named : List (String × Option ValueSet)) :
    (call callee args named s).1 = callValue s.table callee := by
  cases callee with
  | none => rfl
  | some callee =>
    simp only [call, reach_eq]
    rfl

theorem readTypes_eq (name : String) (types : List String) (found : ValueSet) (s : State) :
    let r := types.foldl (fun (found, s) type =>
      match s.table.get? (memberKey type name) with
      | some values =>
        (found.union values, (s.emit .resolvedThrough type).emit .variableUsed name)
      | none => (found, s)) (found, s)
    r.1 = types.foldl (fun found type =>
        found.union (s.table.held (.entry (memberKey type name)))) found ∧
      Absorbs s [] r.2 := by
  induction types generalizing found s with
  | nil => exact ⟨rfl, .of_eq rfl rfl⟩
  | cons type types ih =>
    simp only [List.foldl_cons] at ih ⊢
    have hheld : s.table.held (.entry (memberKey type name)) =
      (s.table.get? (memberKey type name)).getD ∅ := rfl
    cases hv : s.table.get? (memberKey type name) with
    | none =>
      rw [hheld, hv]
      exact ih found s
    | some values =>
      rw [hheld, hv]
      have h := ih (found.union values) ((s.emit .resolvedThrough type).emit .variableUsed name)
      exact ⟨h.1, ((Absorbs.emit _ _).trans (.emit _ _)).trans h.2⟩

theorem readVariable_value (scopes : ScopeChain) (name : String) (site : Site) :
    (readVariable scopes name site s).1 = readValue s.table scopes name site := by
  match site with
  | .lexical =>
    unfold readVariable readValue
    cases lookup s.table scopes name <;> rfl
  | .attribute owner =>
    exact congrArg ValueSet.nonEmpty? (readTypes_eq name (owner.getD ∅).types ∅ s).1

theorem absorbs_readVariable (scopes : ScopeChain) (name : String) (site : Site) :
    Absorbs s [] (readVariable scopes name site s).2 := by
  match site with
  | .lexical =>
    unfold readVariable
    cases lookup s.table scopes name <;> exact .of_eq rfl rfl
  | .attribute owner => exact (readTypes_eq name (owner.getD ∅).types ∅ s).2

theorem informative_callValue (t : Table) (callee : Option ValueSet) :
    Informative (callValue t callee) := informative_nonEmpty? _

theorem informative_readValue (t : Table) (scopes : ScopeChain) (name : String) (site : Site) :
    Informative (readValue t scopes name site) := by
  match site with
  | .attribute owner => exact informative_nonEmpty? _
  | .lexical =>
    unfold readValue
    cases lookup t scopes name with
    | none => exact informative_none
    | some values => exact informative_nonEmpty? values

end Reads

/-- The keys that a name may be bound at. -/
def bindKeys (scopes : ScopeChain) (name : String) : Site → List String
  | .lexical => scopes.lexicalKeys name ++ (scopes.memberKey? name).toList
  | .attribute owner => (owner.getD ∅).types.map (memberKey · name)

section Destinations

variable {t : Table} {f : Inflow}

theorem mem_entryInflow {key : String} {values : ValueSet} (h : f ∈ entryInflow t key values) :
    f.slot = .entry key ∧ t.contains key = true ∧ f.values = values := by
  unfold entryInflow at h
  split at h
  · rename_i hk
    rw [List.mem_singleton.mp h]
    exact ⟨rfl, hk, rfl⟩
  · exact absurd h List.not_mem_nil

theorem mem_argumentInflow {key : String} {v : Option ValueSet} (h : f ∈ argumentInflow t key v) :
    f.slot = .entry key ∧ t.contains key = true ∧ v = some f.values := by
  cases v with
  | none => exact absurd h List.not_mem_nil
  | some values =>
    obtain ⟨hslot, hk, rfl⟩ := mem_entryInflow h
    exact ⟨hslot, hk, rfl⟩

/-- The arguments of a call go to existing parameters of the functions that it reaches. -/
theorem mem_callInflows {callee : Option ValueSet} {args : List (Option ValueSet)}
    {named : List (String × Option ValueSet)} (h : f ∈ callInflows t callee args named) :
    ∃ g ∈ (callTargets t (callee.getD ∅)).functions, ∃ params ∈ signatures t g,
      ∃ key ∈ g.receiving params, f.slot = .entry key ∧ t.contains key = true ∧
        (some f.values ∈ args ∨ ∃ arg ∈ named, arg.2 = some f.values) := by
  obtain ⟨g, hg, h⟩ := List.mem_flatMap.mp h
  obtain ⟨params, hparams, h⟩ := List.mem_flatMap.mp h
  refine ⟨g, hg, params, hparams, ?_⟩
  rcases List.mem_append.mp h with h | h
  · obtain ⟨arg, harg, h⟩ := List.mem_flatMap.mp h
    obtain ⟨hslot, hk, hvalue⟩ := mem_argumentInflow h
    exact ⟨arg.1, (List.of_mem_zip harg).1, hslot, hk, Or.inl (hvalue ▸ (List.of_mem_zip harg).2)⟩
  · obtain ⟨arg, harg, h⟩ := List.mem_flatMap.mp h
    split at h
    · rename_i key hkey
      obtain ⟨hslot, hk, hvalue⟩ := mem_argumentInflow h
      exact ⟨key, List.mem_of_find?_eq_some hkey, hslot, hk, Or.inr ⟨arg, harg, hvalue⟩⟩
    · exact absurd h List.not_mem_nil

/-- A binding goes to existing keys among those of its name. -/
theorem mem_bindInflows {scopes : ScopeChain} {name : String} {site : Site} {v : Option ValueSet}
    (h : f ∈ bindInflows t scopes name site v) :
    ∃ key ∈ bindKeys scopes name site, f.slot = .entry key ∧ t.contains key = true ∧
      v = some f.values := by
  cases v with
  | none => exact absurd h List.not_mem_nil
  | some values =>
    match site with
    | .attribute owner =>
      obtain ⟨type, htype, h⟩ := List.mem_flatMap.mp h
      obtain ⟨hslot, hk, rfl⟩ := mem_entryInflow h
      exact ⟨_, List.mem_map.mpr ⟨type, htype, rfl⟩, hslot, hk, rfl⟩
    | .lexical =>
      unfold bindInflows lexicalInflows at h
      dsimp only at h
      split at h
      · exact absurd h List.not_mem_nil
      · rename_i key hkey
        rcases List.mem_cons.mp h with rfl | h
        · exact ⟨key, List.mem_append_left _ (List.mem_of_find?_eq_some hkey), rfl,
            List.find?_some hkey, rfl⟩
        · split at h
          · rename_i member hmember
            obtain ⟨hslot, hk, rfl⟩ := mem_entryInflow h
            refine ⟨member, List.mem_append_right _ ?_, hslot, hk, rfl⟩
            rw [hmember]
            exact List.mem_singleton.mpr rfl
          · exact absurd h List.not_mem_nil

theorem mem_returnInflows {scopes : ScopeChain} {name : String} {v : Option ValueSet}
    (h : f ∈ returnInflows scopes name v) :
    f.slot = .returned (scopes.key name) ∧ v = some f.values := by
  cases v with
  | none => exact absurd h List.not_mem_nil
  | some values =>
    rw [List.mem_singleton.mp h]
    exact ⟨rfl, rfl⟩

theorem carried_callInflows {callee : Option ValueSet} {args : List (Option ValueSet)}
    {named : List (String × Option ValueSet)} (h : f ∈ callInflows t callee args named) :
    some f.values ∈ args ∨ ∃ arg ∈ named, arg.2 = some f.values := by
  obtain ⟨_, _, _, _, _, _, _, _, hvalue⟩ := mem_callInflows h
  exact hvalue

theorem carried_bindInflows {scopes : ScopeChain} {name : String} {site : Site}
    {v : Option ValueSet} (h : f ∈ bindInflows t scopes name site v) : v = some f.values := by
  obtain ⟨_, _, _, _, hvalue⟩ := mem_bindInflows h
  exact hvalue

end Destinations

section Admitted

variable {t : Table} {f : Inflow}

theorem admits_of_entry {key : String} (hslot : f.slot = .entry key)
    (hk : t.contains key = true) : t.Admits f := by
  unfold Table.Admits
  rw [hslot]
  exact hk

theorem admits_of_mem_callInflows {callee : Option ValueSet} {args : List (Option ValueSet)}
    {named : List (String × Option ValueSet)} (h : f ∈ callInflows t callee args named) :
    t.Admits f := by
  obtain ⟨_, _, _, _, key, _, hslot, hk, _⟩ := mem_callInflows h
  exact admits_of_entry hslot hk

theorem admits_of_mem_bindInflows {scopes : ScopeChain} {name : String} {site : Site}
    {incoming : Option ValueSet} (h : f ∈ bindInflows t scopes name site incoming) :
    t.Admits f := by
  obtain ⟨key, _, hslot, hk, _⟩ := mem_bindInflows h
  exact admits_of_entry hslot hk

theorem admits_of_mem_returnInflows {scopes : ScopeChain} {name : String}
    {returns : Option ValueSet} (hr : Informative returns) (h : f ∈ returnInflows scopes name returns) :
    t.Admits f := by
  obtain ⟨hslot, hvalue⟩ := mem_returnInflows h
  unfold Table.Admits
  rw [hslot]
  exact hr f.values hvalue

end Admitted

end Flow.Resolution

end NameFlow
