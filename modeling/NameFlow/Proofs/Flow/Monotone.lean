import NameFlow.Proofs.Flow.Satisfaction

/-!
# A resolution stays below a satisfying table

Whatever a resolution reads grows with the table and with the operands, and so do the inflows
that it sends. A table below one that satisfies a module is therefore still below it after the
module's resolution. Two values of one function may differ in what they know of its scope; a
call treats them alike only if both of them or neither is a method.
-/

namespace NameFlow

set_option autoImplicit false

/-- Every value that is known satisfies the predicate. -/
def AllKnown (D : Value → Prop) (v : Option ValueSet) : Prop := ∀ x ∈ (v.getD ∅).toList, D x

/-- Values that stand for one function are methods together or not at all. -/
def Coherent (D : Value → Prop) : Prop :=
  ∀ f g, D (.function f) → D (.function g) → f.scopePath = g.scopePath → f.name = g.name →
    f.isMethod = g.isMethod

theorem allKnown_none (D : Value → Prop) : AllKnown D none := nofun

theorem allKnown_nonEmpty? {D : Value → Prop} {s : ValueSet} (h : ∀ x ∈ s.toList, D x) :
    AllKnown D s.nonEmpty? := by
  unfold AllKnown
  rwa [ValueSet.getD_nonEmpty?]

theorem allKnown_joinKnown {D : Value → Prop} {v w : Option ValueSet} (hv : AllKnown D v)
    (hw : AllKnown D w) : AllKnown D (joinKnown v w) := by
  cases v with
  | none => exact hw
  | some s =>
    cases w with
    | none => exact hv
    | some t => exact fun x hx => (ValueSet.mem_toList_union hx).elim (hv x) (hw x)

namespace Table

def All (t : Table) (D : Value → Prop) : Prop := ∀ slot, ∀ v ∈ (t.held slot).toList, D v

theorem all_empty (D : Value → Prop) : (∅ : Table).All D := by
  intro slot v hv
  cases slot <;> exact absurd hv List.not_mem_nil

theorem All.receive {t : Table} {D : Value → Prop} (h : t.All D) {f : Inflow}
    (hf : AllKnown D (some f.values)) : (t.receive f).All D := by
  intro slot v hv
  rw [held_receive] at hv
  split at hv
  · exact (ValueSet.mem_toList_union hv).elim (h f.slot v) (hf v)
  · exact h slot v hv

theorem All.receiveAll {t : Table} {D : Value → Prop} {fs : List Inflow} (h : t.All D)
    (hd : ∀ f ∈ fs, AllKnown D (some f.values)) : (t.receiveAll fs).All D := by
  induction fs generalizing t with
  | nil => exact h
  | cons f fs ih =>
    rw [List.forall_mem_cons] at hd
    exact ih (h.receive hd.1) hd.2

/-- The tables have the same keys and parameter lists that the larger one has too, and all values
of both are among the given ones, whose functions have parameter lists. -/
structure Below (D : Value → Prop) (t u : Table) : Prop where
  le : t ≤ u
  keys : ∀ key, t.contains key = u.contains key
  signatures : ∀ f, ∀ params ∈ t.signaturesOf f, params ∈ u.signaturesOf f
  signed : ∀ f, D (.function f) → t.signaturesOf f ≠ []
  lower : t.All D
  upper : u.All D

theorem Below.receiveAll {D : Value → Prop} {t u : Table} {fs : List Inflow} (h : t.Below D u)
    (ha : ∀ f ∈ fs, t.Admits f) (hm : ∀ f ∈ fs, u.Meets f)
    (hd : ∀ f ∈ fs, AllKnown D (some f.values)) : (t.receiveAll fs).Below D u := by
  induction fs generalizing t with
  | nil => exact h
  | cons f fs ih =>
    rw [List.forall_mem_cons] at ha hm hd
    have hshape := (Grows.receive ha.1).shape
    have hf : (t.receive f).Below D u := by
      refine ⟨receive_le h.le ha.1 hm.1, fun key => ?_, fun g => ?_, fun g => ?_, ?_, h.upper⟩
      · rw [hshape.contains, h.keys]
      · rw [hshape.signaturesOf]
        exact h.signatures g
      · rw [hshape.signaturesOf]
        exact h.signed g
      · exact h.lower.receive hd.1
    exact ih hf (fun g hg => (ha.2 g hg).congr hshape) hm.2 hd.2

end Table

namespace Flow.Resolution

section Members

variable {t : Table} {a : ValueSet} {i : Identity} {v : Value}

theorem mem_callResult_iff :
    i ∈ callResult t a ↔
      (∃ name ∈ a.types, i = .type name) ∨ ∃ f ∈ a.functions, i ∈ t.held (.returned f.key) := by
  unfold callResult ValueSet.ofList
  rw [ValueSet.mem_inserts]
  constructor
  · rintro (h | ⟨w, hw, rfl⟩)
    · exact absurd h (ValueSet.not_mem_empty i)
    · obtain ⟨x, hx, hw⟩ := List.mem_flatMap.mp hw
      cases x with
      | type name =>
        rw [List.mem_singleton.mp hw]
        exact Or.inl ⟨name, ValueSet.mem_types_iff.mpr hx, rfl⟩
      | function f =>
        exact Or.inr ⟨f, ValueSet.mem_functions_iff.mpr hx, ValueSet.identity_mem hw⟩
  · rintro (⟨name, hname, rfl⟩ | ⟨f, hf, hi⟩)
    · exact Or.inr ⟨_, List.mem_flatMap.mpr
        ⟨_, ValueSet.mem_types_iff.mp hname, List.mem_singleton.mpr rfl⟩, rfl⟩
    · obtain ⟨w, hw, rfl⟩ := ValueSet.mem_iff.mp hi
      exact Or.inr ⟨w, List.mem_flatMap.mpr ⟨_, ValueSet.mem_functions_iff.mp hf, hw⟩, rfl⟩

theorem mem_callTargets_iff :
    i ∈ callTargets t a ↔
      (∃ name ∈ a.types, ∃ f ∈ (t.held (.entry (memberKey name constructorName))).functions,
        i = .function f.scopePath f.name) ∨
      ∃ f ∈ a.functions, i = .function f.scopePath f.name := by
  unfold callTargets ValueSet.ofList
  rw [ValueSet.mem_inserts]
  constructor
  · rintro (h | ⟨w, hw, rfl⟩)
    · exact absurd h (ValueSet.not_mem_empty i)
    · obtain ⟨x, hx, hw⟩ := List.mem_flatMap.mp hw
      cases x with
      | type name =>
        obtain ⟨f, hf, rfl⟩ := List.mem_map.mp hw
        exact Or.inl ⟨name, ValueSet.mem_types_iff.mpr hx, f, hf, rfl⟩
      | function f =>
        rw [List.mem_singleton.mp hw]
        exact Or.inr ⟨f, ValueSet.mem_functions_iff.mpr hx, rfl⟩
  · rintro (⟨name, hname, f, hf, rfl⟩ | ⟨f, hf, rfl⟩)
    · exact Or.inr ⟨.function f, List.mem_flatMap.mpr
        ⟨_, ValueSet.mem_types_iff.mp hname, List.mem_map.mpr ⟨f, hf, rfl⟩⟩, rfl⟩
    · exact Or.inr ⟨.function f, List.mem_flatMap.mpr
        ⟨_, ValueSet.mem_functions_iff.mp hf, List.mem_singleton.mpr rfl⟩, rfl⟩

theorem mem_attributeValues_iff {owner : Option ValueSet} {name : String} :
    i ∈ attributeValues t owner name ↔
      ∃ type ∈ (owner.getD ∅).types, i ∈ t.held (.entry (memberKey type name)) := by
  have hfold : ∀ (types : List String) (found : ValueSet),
      i ∈ types.foldl (fun found type => found.union (t.held (.entry (memberKey type name)))) found ↔
        i ∈ found ∨ ∃ type ∈ types, i ∈ t.held (.entry (memberKey type name)) := by
    intro types
    induction types with
    | nil => simp
    | cons type types ih =>
      intro found
      rw [List.foldl_cons, ih, ValueSet.mem_union, or_assoc]
      simp only [List.mem_cons, exists_eq_or_imp]
  unfold attributeValues
  rw [hfold]
  exact or_iff_right (ValueSet.not_mem_empty i)

end Members

section Sources

variable {t : Table} {D : Value → Prop}

theorem all_callResult (h : t.All D) {a : ValueSet} (ha : ∀ v ∈ a.toList, D v) :
    ∀ v ∈ (callResult t a).toList, D v := by
  intro v hv
  obtain ⟨x, hx, hv⟩ := List.mem_flatMap.mp (ValueSet.mem_toList_ofList hv)
  cases x with
  | type name => exact List.mem_singleton.mp hv ▸ ha _ hx
  | function f => exact h _ v hv

theorem all_callTargets (h : t.All D) {a : ValueSet} (ha : ∀ v ∈ a.toList, D v) :
    ∀ v ∈ (callTargets t a).toList, D v := by
  intro v hv
  obtain ⟨x, hx, hv⟩ := List.mem_flatMap.mp (ValueSet.mem_toList_ofList hv)
  cases x with
  | type name =>
    obtain ⟨f, hf, rfl⟩ := List.mem_map.mp hv
    exact h _ _ (ValueSet.mem_functions_iff.mp hf)
  | function f => exact List.mem_singleton.mp hv ▸ ha _ hx

theorem all_attributeValues (h : t.All D) (owner : Option ValueSet) (name : String) :
    ∀ v ∈ (attributeValues t owner name).toList, D v := by
  have hfold : ∀ (types : List String) (found : ValueSet), (∀ v ∈ found.toList, D v) →
      ∀ v ∈ (types.foldl (fun found type =>
        found.union (t.held (.entry (memberKey type name)))) found).toList, D v := by
    intro types
    induction types with
    | nil => exact fun _ hfound => hfound
    | cons type types ih =>
      intro found hfound
      exact ih _ fun v hv => (ValueSet.mem_toList_union hv).elim (hfound v) (h _ v)
  exact hfold _ ∅ nofun

theorem all_lookup (h : t.All D) {scopes : ScopeChain} {name : String} {s : ValueSet}
    (hs : lookup t scopes name = some s) : ∀ v ∈ s.toList, D v := by
  obtain ⟨key, _, hkey⟩ := List.exists_of_findSome?_eq_some hs
  have hheld : t.held (.entry key) = s := Table.held_of_slot? hkey
  exact hheld ▸ h (.entry key)

theorem allKnown_callValue (h : t.All D) {callee : Option ValueSet} (hc : AllKnown D callee) :
    AllKnown D (callValue t callee) := allKnown_nonEmpty? (all_callResult h hc)

theorem allKnown_readValue (h : t.All D) (scopes : ScopeChain) (name : String) (site : Site) :
    AllKnown D (readValue t scopes name site) := by
  match site with
  | .attribute owner => exact allKnown_nonEmpty? (all_attributeValues h owner name)
  | .lexical =>
    unfold readValue
    cases hs : lookup t scopes name with
    | none => exact allKnown_none D
    | some s => exact allKnown_nonEmpty? (all_lookup h hs)

theorem known_of_mem_callInflows {callee : Option ValueSet} {args : List (Option ValueSet)}
    {named : List (String × Option ValueSet)} (hargs : ∀ a ∈ args, AllKnown D a)
    (hnamed : ∀ a ∈ named, AllKnown D a.2) {f : Inflow} (hf : f ∈ callInflows t callee args named) :
    AllKnown D (some f.values) := by
  rcases carried_callInflows hf with hmem | ⟨arg, hmem, harg⟩
  · exact hargs _ hmem
  · exact harg ▸ hnamed arg hmem

end Sources

section Reads

variable {t u : Table} {a b : ValueSet}

theorem callResult_subset (h : t ≤ u) (hab : a ⊆ b) : callResult t a ⊆ callResult u b := by
  intro i hi
  rw [mem_callResult_iff] at hi ⊢
  rcases hi with ⟨name, hname, rfl⟩ | ⟨f, hf, hi⟩
  · exact Or.inl ⟨name, ValueSet.types_subset hab hname, rfl⟩
  · obtain ⟨g, hg, hpath, hname⟩ := ValueSet.functions_subset hab hf
    refine Or.inr ⟨g, hg, Table.held_subset h _ i ?_⟩
    unfold FunctionValue.key at hi ⊢
    rwa [hpath, hname]

theorem callTargets_subset (h : t ≤ u) (hab : a ⊆ b) : callTargets t a ⊆ callTargets u b := by
  intro i hi
  rw [mem_callTargets_iff] at hi ⊢
  rcases hi with ⟨name, hname, f, hf, rfl⟩ | ⟨f, hf, rfl⟩
  · obtain ⟨g, hg, hpath, hgname⟩ := ValueSet.functions_subset (Table.held_subset h _) hf
    exact Or.inl ⟨name, ValueSet.types_subset hab hname, g, hg, by rw [hpath, hgname]⟩
  · obtain ⟨g, hg, hpath, hname⟩ := ValueSet.functions_subset hab hf
    exact Or.inr ⟨g, hg, by rw [hpath, hname]⟩

theorem attributeValues_subset (h : t ≤ u) {o o' : Option ValueSet} (ho : o.getD ∅ ⊆ o'.getD ∅)
    (name : String) : attributeValues t o name ⊆ attributeValues u o' name := by
  intro i hi
  obtain ⟨type, htype, hi⟩ := mem_attributeValues_iff.mp hi
  exact mem_attributeValues_iff.mpr
    ⟨type, ValueSet.types_subset ho htype, Table.held_subset h _ i hi⟩

/-- With the same keys the innermost key of a name is the same one. -/
theorem lookup_subset (h : t ≤ u) (hk : ∀ key, t.contains key = u.contains key)
    (scopes : ScopeChain) (name : String) :
    (lookup t scopes name).getD ∅ ⊆ (lookup u scopes name).getD ∅ := by
  unfold lookup
  induction scopes.lexicalKeys name with
  | nil => exact ValueSet.empty_subset _
  | cons key keys ih =>
    have hkey : (t.get? key).isSome = (u.get? key).isSome := hk key
    rw [List.findSome?_cons, List.findSome?_cons]
    cases ht : t.get? key with
    | none =>
      have hu : u.get? key = none := by
        cases hu : u.get? key with
        | none => rfl
        | some s => rw [ht, hu] at hkey; exact nomatch hkey
      rw [hu]
      exact ih
    | some s =>
      obtain ⟨s', hs', hss⟩ := h (.entry key) s ht
      have hu : u.get? key = some s' := hs'
      rw [hu]
      exact hss

theorem getD_callValue (t : Table) (callee : Option ValueSet) :
    (callValue t callee).getD ∅ = callResult t (callee.getD ∅) := ValueSet.getD_nonEmpty? _

theorem getD_readValue_attribute (t : Table) (scopes : ScopeChain) (name : String)
    (owner : Option ValueSet) :
    (readValue t scopes name (.attribute owner)).getD ∅ = attributeValues t owner name :=
  ValueSet.getD_nonEmpty? _

theorem getD_readValue_lexical (t : Table) (scopes : ScopeChain) (name : String) :
    (readValue t scopes name .lexical).getD ∅ = (lookup t scopes name).getD ∅ := by
  unfold readValue
  cases lookup t scopes name with
  | none => rfl
  | some s => exact ValueSet.getD_nonEmpty? s

end Reads

/-- Each inflow has a counterpart into the same slot with at least its values. -/
def Dominated (fs gs : List Inflow) : Prop :=
  ∀ f ∈ fs, ∃ g ∈ gs, g.slot = f.slot ∧ f.values ⊆ g.values

/-- What is known on the left is known on the right as well. -/
structure Lesser (D : Value → Prop) (v w : Option ValueSet) : Prop where
  subset : v.getD ∅ ⊆ w.getD ∅
  informative : Informative v
  left : AllKnown D v
  right : AllKnown D w

namespace Dominated

theorem meets {u : Table} {fs gs : List Inflow} (h : Dominated fs gs)
    (hg : ∀ g ∈ gs, u.Meets g) : ∀ f ∈ fs, u.Meets f := by
  intro f hf
  obtain ⟨g, hmem, hslot, hsub⟩ := h f hf
  have hmet := hg g hmem
  unfold Table.Meets at hmet ⊢
  rw [← hslot]
  exact ValueSet.Subset.trans hsub hmet

theorem nil (gs : List Inflow) : Dominated [] gs := nofun

theorem single {slot : Slot} {a b : ValueSet} (h : a ⊆ b) : Dominated [⟨slot, a⟩] [⟨slot, b⟩] := by
  intro f hf
  obtain rfl := List.mem_singleton.mp hf
  exact ⟨⟨slot, b⟩, List.mem_singleton.mpr rfl, rfl, h⟩

theorem append {fs gs fs' gs' : List Inflow} (h : Dominated fs gs) (h' : Dominated fs' gs') :
    Dominated (fs ++ fs') (gs ++ gs') := by
  intro f hf
  rcases List.mem_append.mp hf with hf | hf
  · obtain ⟨g, hg, hfg⟩ := h f hf
    exact ⟨g, List.mem_append_left gs' hg, hfg⟩
  · obtain ⟨g, hg, hfg⟩ := h' f hf
    exact ⟨g, List.mem_append_right gs hg, hfg⟩

theorem flatMap {α β : Type} {xs : List α} {ys : List β} {F : α → List Inflow}
    {G : β → List Inflow} (h : ∀ x ∈ xs, ∃ y ∈ ys, Dominated (F x) (G y)) :
    Dominated (xs.flatMap F) (ys.flatMap G) := by
  intro f hf
  obtain ⟨x, hx, hf⟩ := List.mem_flatMap.mp hf
  obtain ⟨y, hy, hxy⟩ := h x hx
  obtain ⟨g, hg, hfg⟩ := hxy f hf
  exact ⟨g, List.mem_flatMap.mpr ⟨y, hy, hg⟩, hfg⟩

end Dominated

theorem Lesser.some_right {D : Value → Prop} {a : ValueSet} {w : Option ValueSet}
    (h : Lesser D (some a) w) : ∃ b, w = some b ∧ a ⊆ b := by
  cases w with
  | some b => exact ⟨b, rfl, h.subset⟩
  | none =>
    obtain ⟨v, hv⟩ := List.exists_mem_of_ne_nil _ (h.informative a rfl)
    exact absurd (h.subset _ (ValueSet.identity_mem hv)) (ValueSet.not_mem_empty _)

section Values

variable {D : Value → Prop} {t u : Table}

theorem lesser_readLexical (h : t.Below D u) (scopes : ScopeChain) (name : String) :
    Lesser D (readValue t scopes name .lexical) (readValue u scopes name .lexical) := by
  have hsub := lookup_subset h.le h.keys scopes name
  rw [← getD_readValue_lexical, ← getD_readValue_lexical] at hsub
  exact ⟨hsub, informative_readValue _ _ _ _, allKnown_readValue h.lower _ _ _,
    allKnown_readValue h.upper _ _ _⟩

theorem lesser_readAttribute (h : t.Below D u) (scopes : ScopeChain) (name : String)
    {o o' : Option ValueSet} (ho : Lesser D o o') :
    Lesser D (readValue t scopes name (.attribute o)) (readValue u scopes name (.attribute o')) := by
  have hsub := attributeValues_subset h.le ho.subset name
  rw [← getD_readValue_attribute _ scopes, ← getD_readValue_attribute _ scopes] at hsub
  exact ⟨hsub, informative_readValue _ _ _ _, allKnown_readValue h.lower _ _ _,
    allKnown_readValue h.upper _ _ _⟩

theorem lesser_callValue (h : t.Below D u) {callee callee' : Option ValueSet}
    (hc : Lesser D callee callee') : Lesser D (callValue t callee) (callValue u callee') := by
  have hsub := callResult_subset h.le hc.subset
  rw [← getD_callValue, ← getD_callValue] at hsub
  exact ⟨hsub, informative_callValue _ _, allKnown_callValue h.lower hc.left,
    allKnown_callValue h.upper hc.right⟩

end Values

theorem exists_of_forall₂ {α β : Type} {R : α → β → Prop} {l : List α} {m : List β}
    (h : List.Forall₂ R l m) {a : α} (ha : a ∈ l) : ∃ b ∈ m, R a b := by
  induction h with
  | nil => exact absurd ha List.not_mem_nil
  | cons hab _ ih =>
    rcases List.mem_cons.mp ha with rfl | ha
    · exact ⟨_, List.mem_cons_self, hab⟩
    · obtain ⟨b, hb, hR⟩ := ih ha
      exact ⟨b, List.mem_cons_of_mem _ hb, hR⟩

section Inflows

variable {D : Value → Prop} {t u : Table}

theorem dominated_entryInflow (hk : ∀ key, t.contains key = u.contains key) (key : String)
    {a b : ValueSet} (h : a ⊆ b) : Dominated (entryInflow t key a) (entryInflow u key b) := by
  unfold entryInflow
  rw [hk key]
  split
  · exact .single h
  · exact .nil _

theorem dominated_argumentInflow (hk : ∀ key, t.contains key = u.contains key) (key : String)
    {v w : Option ValueSet} (h : Lesser D v w) :
    Dominated (argumentInflow t key v) (argumentInflow u key w) := by
  cases v with
  | none => exact .nil _
  | some a =>
    obtain ⟨b, rfl, hab⟩ := h.some_right
    exact dominated_entryInflow hk key hab

theorem dominated_positionalInflows (hk : ∀ key, t.contains key = u.contains key)
    (params : List String) {args args' : List (Option ValueSet)}
    (h : List.Forall₂ (Lesser D) args args') :
    Dominated (positionalInflows t params args) (positionalInflows u params args') := by
  refine .flatMap fun arg harg => ?_
  obtain ⟨arg', harg', hname, hlt⟩ := exists_of_forall₂ (forall₂_named params h) harg
  exact ⟨arg', harg', hname ▸ dominated_argumentInflow hk arg.1 hlt⟩

theorem dominated_keywordInflows (hk : ∀ key, t.contains key = u.contains key)
    (params : List String) {named named' : List (String × Option ValueSet)}
    (h : List.Forall₂ (NamedRel (Lesser D)) named named') :
    Dominated (keywordInflows t params named) (keywordInflows u params named') := by
  refine .flatMap fun arg harg => ?_
  obtain ⟨arg', harg', hname, hlt⟩ := exists_of_forall₂ h harg
  refine ⟨arg', harg', ?_⟩
  rw [← hname]
  cases params.find? (fun key => basename key = arg.1) with
  | none => exact .nil _
  | some key => exact dominated_argumentInflow hk key hlt

theorem dominated_bindInflows (hk : ∀ key, t.contains key = u.contains key) (scopes : ScopeChain)
    (name : String) {v w : Option ValueSet} (h : Lesser D v w) :
    Dominated (bindInflows t scopes name .lexical v) (bindInflows u scopes name .lexical w) := by
  cases v with
  | none => exact .nil _
  | some a =>
    obtain ⟨b, rfl, hab⟩ := h.some_right
    show Dominated (lexicalInflows t scopes name a) (lexicalInflows u scopes name b)
    unfold lexicalInflows
    rw [funext hk]
    cases (scopes.lexicalKeys name).find? u.contains with
    | none => exact .nil _
    | some key =>
      refine .append (.single hab) ?_
      cases scopes.memberKey? name with
      | none => exact .nil _
      | some member => exact dominated_entryInflow hk member hab

theorem dominated_bindAttribute (hk : ∀ key, t.contains key = u.contains key) (scopes : ScopeChain)
    (name : String) {o o' v w : Option ValueSet} (ho : Lesser D o o') (h : Lesser D v w) :
    Dominated (bindInflows t scopes name (.attribute o) v)
      (bindInflows u scopes name (.attribute o') w) := by
  cases v with
  | none => exact .nil _
  | some a =>
    obtain ⟨b, rfl, hab⟩ := h.some_right
    refine .flatMap fun type htype => ?_
    exact ⟨type, ValueSet.types_subset ho.subset htype, dominated_entryInflow hk _ hab⟩

theorem dominated_returnInflows (scopes : ScopeChain) (name : String) {v w : Option ValueSet}
    (h : Lesser D v w) :
    Dominated (returnInflows scopes name v) (returnInflows scopes name w) := by
  cases v with
  | none => exact .nil _
  | some a =>
    obtain ⟨b, rfl, hab⟩ := h.some_right
    exact .single hab

theorem signatures_eq {f : FunctionValue} (h : t.signaturesOf f ≠ []) :
    signatures t f = t.signaturesOf f := by
  unfold signatures
  cases hs : t.signaturesOf f with
  | nil => exact absurd hs h
  | cons params lists => rfl

/-- The one place where the scope of a function matters, not only its identity: the receiver of
a method takes no argument. -/
theorem dominated_callInflows (hD : Coherent D) (h : t.Below D u) {callee callee' : Option ValueSet}
    {args args' : List (Option ValueSet)} {named named' : List (String × Option ValueSet)}
    (hc : Lesser D callee callee') (ha : List.Forall₂ (Lesser D) args args')
    (hn : List.Forall₂ (NamedRel (Lesser D)) named named') :
    Dominated (callInflows t callee args named) (callInflows u callee' args' named') := by
  refine .flatMap fun f hf => ?_
  obtain ⟨g, hg, hpath, hname⟩ :=
    ValueSet.functions_subset (callTargets_subset h.le hc.subset) hf
  have hfD := all_callTargets h.lower hc.left _ (ValueSet.mem_functions_iff.mp hf)
  have hgD := all_callTargets h.upper hc.right _ (ValueSet.mem_functions_iff.mp hg)
  have hreceiving : f.receiving = g.receiving := by
    funext params
    unfold FunctionValue.receiving
    rw [hD f g hfD hgD hpath.symm hname.symm]
  have hkey : g.key = f.key := by
    unfold FunctionValue.key
    rw [hpath, hname]
  refine ⟨g, hg, .flatMap fun params hparams => ⟨params, ?_, ?_⟩⟩
  · rw [signatures_eq (h.signed f hfD)] at hparams
    have hu : params ∈ u.signaturesOf g := by
      unfold Table.signaturesOf
      rw [hkey]
      exact h.signatures f params hparams
    rwa [signatures_eq (List.ne_nil_of_mem hu)]
  · rw [hreceiving]
    exact .append (dominated_positionalInflows h.keys _ ha) (dominated_keywordInflows h.keys _ hn)

end Inflows

end Flow.Resolution

/-- Inflows with counterparts that the larger table meets keep a state below it. -/
theorem Table.Below.absorbs {D : Value → Prop} {u : Table} {s s' : Flow.Resolution.State}
    {fs gs : List Inflow} (h : s.table.Below D u) (hs : Flow.Resolution.Absorbs s fs s')
    (hd : Flow.Resolution.Dominated fs gs) (hg : ∀ g ∈ gs, u.Meets g)
    (ha : ∀ f ∈ fs, s.table.Admits f) (hv : ∀ f ∈ fs, AllKnown D (some f.values)) :
    s'.table.Below D u := by
  rw [hs.table]
  exact h.receiveAll ha (hd.meets hg) hv

namespace Flow

open Python Resolution

variable {D : Value → Prop}

theorem lesser_none (D : Value → Prop) : Lesser D none none :=
  ⟨ValueSet.Subset.refl _, informative_none, allKnown_none D, allKnown_none D⟩

theorem Resolution.Lesser.join {a b a' b' : Option ValueSet} (h : Lesser D a b)
    (h' : Lesser D a' b') : Lesser D (joinKnown a a') (joinKnown b b') where
  subset := fun i hi => mem_joinKnown.mpr ((mem_joinKnown.mp hi).imp (h.subset i) (h'.subset i))
  informative := informative_joinKnown h.informative h'.informative
  left := allKnown_joinKnown h.left h'.left
  right := allKnown_joinKnown h.right h'.right

/-- No resolution makes up a value. -/
theorem values_invariant (D : Value → Prop) :
    Invariant (fun _ _ => True) resolution (fun s => s.table.All D) (AllKnown D) where
  unknown := allKnown_none D
  join := allKnown_joinKnown
  declareType := fun _ h => h
  enterFunction := fun _ h => h
  declareFunction := by
    intro c n r ps s _ h hr
    rw [(absorbs_declareFunction s c.leave n r ps).table]
    exact h.receiveAll fun f hf => (mem_returnInflows hf).2 ▸ hr
  useType := fun _ h => h
  bind := by
    intro c n v s _ h hv
    show (bindVariable c n .lexical v s).2.table.All D
    rw [(absorbs_bindVariable s c n .lexical v).table]
    exact h.receiveAll fun f hf => carried_bindInflows hf ▸ hv
  bindAttribute := by
    intro c n o v s _ h _ hv
    show (bindVariable c n (.attribute o) v s).2.table.All D
    rw [(absorbs_bindVariable s c n (.attribute o) v).table]
    exact h.receiveAll fun f hf => carried_bindInflows hf ▸ hv
  parameter := fun _ h => h
  read := by
    intro c n s _ h
    show AllKnown D (readVariable c n .lexical s).1 ∧ (readVariable c n .lexical s).2.table.All D
    rw [readVariable_value, (absorbs_readVariable s c n .lexical).table]
    exact ⟨allKnown_readValue h _ _ _, h⟩
  readAttribute := by
    intro c n o s _ h _
    show AllKnown D (readVariable c n (.attribute o) s).1 ∧
      (readVariable c n (.attribute o) s).2.table.All D
    rw [readVariable_value, (absorbs_readVariable s c n (.attribute o)).table]
    exact ⟨allKnown_readValue h _ _ _, h⟩
  call := by
    intro c k ns f args named s _ h hf hargs hnamed
    show AllKnown D (call f args named s).1 ∧ (call f args named s).2.table.All D
    rw [call_value, (absorbs_call s f args named).table]
    refine ⟨allKnown_callValue h hf, h.receiveAll fun g hg => ?_⟩
    exact known_of_mem_callInflows hargs hnamed hg

theorem resolve_all {t : Table} (h : t.All D) (m : SourceModule) : (resolve t m).1.All D :=
  (values_invariant D).runModule (a := ⟨t, #[], false⟩) (fun _ _ => trivial) h

theorem below_simulation (hD : Coherent D) (u : Table) :
    Simulation (fun _ _ => True) resolution (checking u) (fun s _ => s.table.Below D u) (Lesser D)
      (fun _ p => p) where
  unknown := lesser_none D
  join := Lesser.join
  guard := fun _ _ _ h => checking_step h
  declareType := fun _ h _ => h
  enterFunction := fun _ h _ => h
  declareFunction := by
    intro c n r r' ps s p _ h hr hg
    have hdom := dominated_returnInflows c.leave n hr
    apply h.absorbs (absorbs_declareFunction s c.leave n r ps) hdom hg.2
    · exact fun _ => admits_of_mem_returnInflows hr.informative
    · exact fun f hf => (mem_returnInflows hf).2 ▸ hr.left
  useType := fun _ h _ => h.absorbs (.emit _ _) (.nil []) nofun nofun nofun
  bind := by
    intro c n v v' s p _ h hv hg
    have hdom := dominated_bindInflows h.keys c n hv
    apply h.absorbs (absorbs_bindVariable s c n .lexical v) hdom hg.2
    · exact fun _ => admits_of_mem_bindInflows
    · exact fun f hf => carried_bindInflows hf ▸ hv.left
  bindAttribute := by
    intro c n o o' v v' s p _ h ho hv hg
    have hdom := dominated_bindAttribute h.keys c n ho hv
    apply h.absorbs (absorbs_bindVariable s c n (.attribute o) v) hdom hg.2
    · exact fun _ => admits_of_mem_bindInflows
    · exact fun f hf => carried_bindInflows hf ▸ hv.left
  parameter := fun _ h _ => ⟨rfl, h⟩
  read := by
    intro c n s p _ h hg
    refine ⟨?_, h.absorbs (absorbs_readVariable _ _ _ _) (.nil []) nofun nofun nofun⟩
    show Lesser D (readVariable c n .lexical s).1 (readValue u c n .lexical)
    rw [readVariable_value]
    exact lesser_readLexical h c n
  readAttribute := by
    intro c n o o' s p _ h ho hg
    refine ⟨?_, h.absorbs (absorbs_readVariable _ _ _ _) (.nil []) nofun nofun nofun⟩
    show Lesser D (readVariable c n (.attribute o) s).1 (readValue u c n (.attribute o'))
    rw [readVariable_value]
    exact lesser_readAttribute h c n ho
  call := by
    intro c k ns f f' args args' named named' s p _ h hf hargs hnamed hg
    constructor
    · show Lesser D (call f args named s).1 (callValue u f')
      rw [call_value]
      exact lesser_callValue h hf
    · have hdom := dominated_callInflows hD h hf hargs hnamed
      apply h.absorbs (absorbs_call s f args named) hdom hg.2
      · exact fun _ => admits_of_mem_callInflows
      · refine fun g hg => known_of_mem_callInflows (fun a ha => ?_) (fun a ha => ?_) hg
        · obtain ⟨_, _, hlt⟩ := exists_of_forall₂ hargs ha
          exact hlt.left
        · obtain ⟨_, _, _, hlt⟩ := exists_of_forall₂ hnamed ha
          exact hlt.left

/-- A resolution does not lead above a table that satisfies the module. -/
theorem resolve_below (hD : Coherent D) {t u : Table} {m : SourceModule} (h : t.Below D u)
    (hm : Satisfies u m) : (resolve t m).1.Below D u :=
  (below_simulation hD u).runModule_related (m := m) (a := ⟨t, #[], false⟩) (b := True)
    (fun _ _ => trivial) h hm

end Flow

end NameFlow
