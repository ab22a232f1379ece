import Mathlib.Data.List.Find
import NameFlow.Proofs.Restriction
import NameFlow.Proofs.Flow.Registration

/-!
# Runs that stay within some keys

If the scopes of a module give to names only keys of a chosen kind, and the values found under
such keys lead to no others, then the module's run cannot tell the table from its restriction to
these keys. It finds the same features on both, its writes are the same, and under all other keys
nothing happens.
-/

namespace NameFlow.Flow

set_option autoImplicit false

open Python

universe u v

/-- Every key that the scopes give to a name is among the chosen ones. -/
structure Owns (p : String → Bool) (c : ScopeChain) : Prop where
  lexical : ∀ name, ∀ key ∈ c.lexicalKeys name, p key = true
  members : ∀ s ∈ c.scopes, s.kind = .type → ∀ name, p (memberKey s.name name) = true

/-- A value that leads to chosen keys only. -/
def Within (p : String → Bool) : Value → Prop
  | .type name => ∀ member, p (memberKey name member) = true
  | .function f => p f.key = true ∧ ∀ key ∈ f.params, p key = true

/-- All values of the table, and all its parameter lists, lead to chosen keys only. -/
structure Confined (p : String → Bool) (t : Table) : Prop where
  values : t.All (Within p)
  signatures : ∀ f, ∀ params ∈ t.signaturesOf f, ∀ key ∈ params, p key = true

namespace Owns

variable {p : String → Bool} {c : ScopeChain}

theorem key (h : Owns p c) (name : String) : p (c.key name) = true :=
  h.lexical name _ List.mem_cons_self

theorem memberKey? (h : Owns p c) {name key : String} (hk : c.memberKey? name = some key) :
    p key = true := by
  unfold ScopeChain.memberKey? at hk
  split at hk
  · rename_i hkind
    obtain rfl := Option.some.inj hk
    exact h.members c.current List.mem_cons_self hkind name
  · exact nomatch hk

theorem leave (h : Owns p c) : Owns p c.leave := by
  refine ⟨fun name key hkey => h.lexical name key ?_, fun s hs => h.members s (mem_scopes_leave hs)⟩
  obtain ⟨current, outer⟩ := c
  cases outer with
  | nil => exact hkey
  | cons s rest => exact List.mem_cons_of_mem _ hkey

end Owns

section Loops

/-- A map of states can be exchanged with a loop if it can be with each of its rounds. -/
theorem foldl_exchange {α : Type u} {γ : Type v} (r : γ → γ) (K : γ → Prop) {round : γ → α → γ}
    (hkeep : ∀ g x, K g → K (round g x)) (xs : List α)
    (h : ∀ x ∈ xs, ∀ g, K g → round (r g) x = r (round g x)) {g : γ} (hg : K g) :
    xs.foldl round (r g) = r (xs.foldl round g) := by
  induction xs generalizing g with
  | nil => rfl
  | cons x xs ih =>
    rw [List.forall_mem_cons] at h
    rw [List.foldl_cons, List.foldl_cons, h.1 g hg]
    exact ih h.2 (hkeep g x hg)

end Loops

section Reads

variable {p : String → Bool}

theorem lookup_restrict {c : ScopeChain} (hc : Owns p c) (t : Table) (name : String) :
    lookup (t.restrict p) c name = lookup t c name := by
  have hkeys := hc.lexical name
  unfold lookup
  generalize c.lexicalKeys name = keys at hkeys ⊢
  induction keys with
  | nil => rfl
  | cons key keys ih =>
    rw [List.forall_mem_cons] at hkeys
    rw [List.findSome?_cons, List.findSome?_cons, Table.get?_restrict t hkeys.1, ih hkeys.2]

namespace Resolution

theorem valueResults_restrict {v : Value} (hv : Within p v) (t : Table) :
    valueResults (t.restrict p) v = valueResults t v := by
  cases v with
  | type name => rfl
  | function f =>
    exact congrArg (fun values => (values.getD ∅).toList) (Table.returnsOf_restrict t hv.1)

theorem valueTargets_restrict {v : Value} (hv : Within p v) (t : Table) :
    valueTargets (t.restrict p) v = valueTargets t v := by
  cases v with
  | type name =>
    exact congrArg (fun values => (values.getD ∅).functions.map Value.function)
      (Table.get?_restrict t (hv constructorName))
  | function f => rfl

variable {callee : ValueSet} (hc : ∀ v ∈ callee.toList, Within p v) (t : Table)
include hc

theorem callResult_restrict : callResult (t.restrict p) callee = callResult t callee := by
  unfold callResult
  rw [List.flatMap_def, List.flatMap_def,
    List.map_congr_left fun v hv => valueResults_restrict (hc v hv) t]

theorem callTargets_restrict : callTargets (t.restrict p) callee = callTargets t callee := by
  unfold callTargets
  rw [List.flatMap_def, List.flatMap_def,
    List.map_congr_left fun v hv => valueTargets_restrict (hc v hv) t]

end Resolution

end Reads

/-- The types known of the owner, if the site has one, have chosen keys for all members. -/
def OwnerWithin (p : String → Bool) : Site → Prop
  | .lexical => True
  | .attribute owner => ∀ type ∈ (owner.getD ∅).types, ∀ name, p (memberKey type name) = true

theorem ownerWithin_of_allKnown {p : String → Bool} {owner : Option ValueSet}
    (h : AllKnown (Within p) owner) : OwnerWithin p (.attribute owner) :=
  fun type htype => h (.type type) (ValueSet.mem_types_iff.mp htype)

namespace Resolution

/-- The state with its table restricted; what was met and found stays. -/
def State.restrict (p : String → Bool) (s : State) : State := { s with table := s.table.restrict p }

variable {p : String → Bool} {key : String}

section Writes

variable (s : State)

theorem merge_restrict (hk : p key = true) (values : ValueSet) :
    (s.restrict p).merge key values = (s.merge key values).restrict p := by
  have htable := Table.restrict_receive s.table (f := ⟨.entry key, values⟩) hk
  have hlacks : Table.lacks values ((s.table.restrict p).entries.get? key) =
      Table.lacks values (s.table.entries.get? key) :=
    congrArg (Table.lacks values) (OrderedMap.get?_restrict hk s.table.entries)
  unfold State.merge State.restrict
  exact congrArg₂ (State.mk · s.features ·) htable.symm (congrArg (s.changed || ·) hlacks)

theorem mergeReturns_restrict (hk : p key = true) (values : ValueSet) :
    (s.restrict p).mergeReturns key values = (s.mergeReturns key values).restrict p := by
  have htable := Table.restrict_receive s.table (f := ⟨.returned key, values⟩) hk
  have hlacks : Table.lacks values ((s.table.restrict p).returns.get? key) =
      Table.lacks values (s.table.returns.get? key) :=
    congrArg (Table.lacks values) (OrderedMap.get?_restrict hk s.table.returns)
  unfold State.mergeReturns State.restrict
  exact congrArg₂ (State.mk · s.features ·) htable.symm (congrArg (s.changed || ·) hlacks)

theorem assign_restrict (hk : p key = true) (values : ValueSet) (name : String) :
    (s.restrict p).assign key values name = (s.assign key values name).restrict p := by
  have hcontains : (s.restrict p).table.contains key = s.table.contains key :=
    Table.contains_restrict s.table hk
  unfold State.assign
  rw [hcontains, merge_restrict s hk]
  split <;> rfl

theorem bindPositional_restrict {params : List String} (h : ∀ key ∈ params, p key = true)
    (args : List (Option ValueSet)) :
    bindPositional (s.restrict p) params args = (bindPositional s params args).restrict p := by
  refine foldl_exchange (State.restrict p) (fun _ => True) (fun _ _ _ => trivial) _ ?_ trivial
  rintro ⟨key, values⟩ harg s _
  cases values with
  | none => rfl
  | some values => exact assign_restrict s (h key (List.of_mem_zip harg).1) values (basename key)

theorem bindKeywords_restrict {params : List String} (h : ∀ key ∈ params, p key = true)
    (named : List (String × Option ValueSet)) :
    bindKeywords (s.restrict p) params named = (bindKeywords s params named).restrict p := by
  refine foldl_exchange (State.restrict p) (fun _ => True) (fun _ _ _ => trivial) _ ?_ trivial
  rintro ⟨name, values⟩ _ s _
  cases values with
  | none => rfl
  | some values =>
    dsimp only
    cases hkey : params.find? (fun key => basename key = name) with
    | none => rfl
    | some key => exact assign_restrict s (h key (List.mem_of_find?_eq_some hkey)) values name

theorem propagate_eq (f : FunctionValue) (args : List (Option ValueSet))
    (named : List (String × Option ValueSet)) :
    propagate args named s f = (signatures s.table f).foldl (fun s params =>
      bindKeywords (bindPositional s (f.receiving params) args) (f.receiving params) named)
      (s.emit .functionCalled f.name) := rfl

theorem propagate_restrict {f : FunctionValue} (hf : Within p (.function f))
    (hlists : ∀ params ∈ s.table.signaturesOf f, ∀ key ∈ params, p key = true)
    (args : List (Option ValueSet)) (named : List (String × Option ValueSet)) :
    propagate args named (s.restrict p) f = (propagate args named s f).restrict p := by
  have hsame : signatures (s.restrict p).table f = signatures s.table f := by
    unfold signatures
    rw [show (s.restrict p).table.signaturesOf f = _ from Table.signaturesOf_restrict s.table hf.1]
  have howned : ∀ params ∈ signatures s.table f, ∀ key ∈ params, p key = true := by
    unfold signatures
    split
    · exact List.forall_mem_singleton.mpr hf.2
    · exact hlists
  rw [propagate_eq, propagate_eq, hsame]
  refine foldl_exchange (State.restrict p) (fun _ => True) (fun _ _ _ => trivial)
    (signatures s.table f) ?_ (g := s.emit .functionCalled f.name) trivial
  intro params hparams s _
  have hreceiving : ∀ key ∈ f.receiving params, p key = true :=
    fun key hkey => howned params hparams key (mem_of_mem_receiving hkey)
  rw [bindPositional_restrict s hreceiving, bindKeywords_restrict _ hreceiving]

theorem call_restrict (hs : Confined p (s.table.restrict p)) {callee : Option ValueSet}
    (hc : AllKnown (Within p) callee) (args : List (Option ValueSet))
    (named : List (String × Option ValueSet)) :
    call callee args named (s.restrict p) =
      Prod.map id (State.restrict p) (call callee args named s) := by
  cases callee with
  | none => rfl
  | some callee =>
    have hemit : callee.types.foldl (fun s name => s.emit .typeUsed name) (s.restrict p) =
        (callee.types.foldl (fun s name => s.emit .typeUsed name) s).restrict p :=
      foldl_exchange (State.restrict p) (fun _ => True) (fun _ _ _ => trivial) callee.types
        (fun _ _ _ _ => rfl) trivial
    have hresult : callResult (s.restrict p).table callee = callResult s.table callee :=
      callResult_restrict hc s.table
    have htargets : callTargets (s.restrict p).table callee = callTargets s.table callee :=
      callTargets_restrict hc s.table
    have hwithin := all_callTargets hs.values hc
    unfold call
    dsimp only
    rw [reach_eq, reach_eq, hemit, hresult, htargets]
    refine Prod.ext rfl ?_
    -- no round of the loop changes a parameter list
    refine foldl_exchange (State.restrict p) (fun g => g.table.signaturesOf = s.table.signaturesOf)
      ?_ (callTargets s.table callee).functions ?_ ?_
    · intro g f hg
      exact (absorbs_propagate g args named f).shape.signaturesOf.trans hg
    · intro f hf g hg
      have hf : Within p (.function f) := by
        rw [← htargets] at hf
        exact hwithin _ (ValueSet.mem_functions_iff.mp hf)
      refine propagate_restrict g hf ?_ args named
      rw [hg, ← Table.signaturesOf_restrict s.table hf.1]
      exact hs.signatures f
    · exact (absorbs_emits s .typeUsed callee.types).shape.signaturesOf

theorem bindAttribute_restrict {owner : Option ValueSet} (ho : OwnerWithin p (.attribute owner))
    (name : String) (incoming : ValueSet) :
    bindAttribute owner name incoming (s.restrict p) =
      Prod.map id (State.restrict p) (bindAttribute owner name incoming s) := by
  refine foldl_exchange (Prod.map id (State.restrict p)) (fun _ => True) (fun _ _ _ => trivial)
    (owner.getD ∅).types ?_ (g := (none, s)) trivial
  rintro type htype ⟨bound, s⟩ _
  have hk := ho type htype name
  have hcontains : (s.restrict p).table.contains (memberKey type name) =
      s.table.contains (memberKey type name) := Table.contains_restrict s.table hk
  dsimp only [Prod.map]
  rw [hcontains, merge_restrict s hk]
  split <;> rfl

theorem bindLexical_restrict {c : ScopeChain} (hc : Owns p c) (name : String)
    (incoming : ValueSet) :
    bindLexical c name incoming (s.restrict p) =
      Prod.map id (State.restrict p) (bindLexical c name incoming s) := by
  have hfind : (c.lexicalKeys name).find? (s.restrict p).table.contains =
      (c.lexicalKeys name).find? s.table.contains :=
    List.find?_congr fun key hkey => Table.contains_restrict s.table (hc.lexical name key hkey)
  unfold bindLexical
  rw [hfind]
  cases hkey : (c.lexicalKeys name).find? s.table.contains with
  | none => rfl
  | some key =>
    have hk := hc.lexical name key (List.mem_of_find?_eq_some hkey)
    dsimp only
    rw [merge_restrict s hk]
    cases hmember : c.memberKey? name with
    | none => rfl
    | some member =>
      have hm := hc.memberKey? hmember
      have hcontains : (((s.merge key incoming).restrict p).emit .assigned name).table.contains
          member = ((s.merge key incoming).emit .assigned name).table.contains member :=
        Table.contains_restrict (s.merge key incoming).table hm
      have hmerge := merge_restrict ((s.merge key incoming).emit .assigned name) hm incoming
      dsimp only
      rw [hcontains]
      refine Prod.ext rfl ?_
      dsimp only [Prod.map]
      split
      · exact hmerge
      · rfl

theorem bindVariable_restrict {c : ScopeChain} (hc : Owns p c) (name : String) (site : Site)
    (hsite : OwnerWithin p site)
    (incoming : Option ValueSet) :
    bindVariable c name site incoming (s.restrict p) =
      Prod.map id (State.restrict p) (bindVariable c name site incoming s) := by
  cases incoming with
  | none => rfl
  | some values =>
    match site with
    | .lexical => exact bindLexical_restrict s hc name values
    | .attribute owner => exact bindAttribute_restrict s hsite name values

theorem readVariable_restrict {c : ScopeChain} (hc : Owns p c) (name : String) (site : Site)
    (hsite : OwnerWithin p site) :
    readVariable c name site (s.restrict p) =
      Prod.map id (State.restrict p) (readVariable c name site s) := by
  match site with
  | .lexical =>
    have hlookup : lookup (s.restrict p).table c name = lookup s.table c name :=
      lookup_restrict hc s.table name
    unfold readVariable
    rw [hlookup]
    cases lookup s.table c name <;> rfl
  | .attribute owner =>
    have hread : readAttribute owner name (s.restrict p) =
        Prod.map id (State.restrict p) (readAttribute owner name s) := by
      refine foldl_exchange (Prod.map id (State.restrict p)) (fun _ => True) (fun _ _ _ => trivial)
        (owner.getD ∅).types ?_ (g := (∅, s)) trivial
      rintro type htype ⟨found, s⟩ _
      have hk := hsite type htype name
      have hget : (s.restrict p).table.get? (memberKey type name) =
          s.table.get? (memberKey type name) := Table.get?_restrict s.table hk
      dsimp only [Prod.map]
      rw [hget]
      cases s.table.get? (memberKey type name) <;> rfl
    unfold readVariable
    dsimp only
    rw [hread]
    rfl

theorem declareFunction_restrict {c : ScopeChain} (hc : Owns p c) (name : String)
    (returns : Option ValueSet) (params : List String) :
    resolution.declareFunction c name returns params (s.restrict p) =
      (resolution.declareFunction c name returns params s).restrict p := by
  cases returns with
  | none => rfl
  | some values => exact mergeReturns_restrict s (hc.key name) values

end Writes

section Destinations

variable {t : Table} {f : Inflow}

theorem slot_of_mem_callInflows {callee : Option ValueSet} {args : List (Option ValueSet)}
    {named : List (String × Option ValueSet)} (ht : Confined p (t.restrict p))
    (hc : AllKnown (Within p) callee) (h : f ∈ callInflows t callee args named) :
    p f.slot.key = true := by
  obtain ⟨g, hg, params, hparams, key, hkey, hslot, _⟩ := mem_callInflows h
  have hg : Within p (.function g) := by
    rw [← callTargets_restrict hc t] at hg
    exact all_callTargets ht.values hc _ (ValueSet.mem_functions_iff.mp hg)
  have hkey := mem_of_mem_receiving hkey
  rw [hslot]
  unfold signatures at hparams
  split at hparams
  · rw [List.mem_singleton.mp hparams] at hkey
    exact hg.2 key hkey
  · rw [← Table.signaturesOf_restrict t hg.1] at hparams
    exact ht.signatures g params hparams key hkey

theorem slot_of_mem_bindInflows {c : ScopeChain} (hc : Owns p c) {name : String} {site : Site}
    {incoming : Option ValueSet} (h : f ∈ bindInflows t c name site incoming)
    (hsite : OwnerWithin p site) : p f.slot.key = true := by
  obtain ⟨key, hkey, hslot, _⟩ := mem_bindInflows h
  rw [hslot]
  match site with
  | .lexical =>
    rcases List.mem_append.mp hkey with hkey | hkey
    · exact hc.lexical name key hkey
    · exact hc.memberKey? (Option.mem_toList.mp hkey)
  | .attribute owner =>
    obtain ⟨type, htype, rfl⟩ := List.mem_map.mp hkey
    exact hsite type htype name

theorem slot_of_mem_returnInflows {c : ScopeChain} (hc : Owns p c) {name : String}
    {returns : Option ValueSet} (h : f ∈ returnInflows c name returns) :
    p f.slot.key = true := by
  rw [(mem_returnInflows h).1]
  exact hc.key name

end Destinations

end Resolution

section Resolutions

open Resolution

variable {p q : String → Bool}

/-- A run beside the one on its restricted table, with the part that it does not touch. -/
structure Mirrors (p q : String → Bool) (w : Table) (s s' : Resolution.State) : Prop where
  same : s' = s.restrict p
  confined : Confined p s'.table
  elsewhere : s.table.restrict q = w

theorem Mirrors.absorbs {w : Table} {s s' u u' : Resolution.State} {fs fs' : List Inflow}
    (h : Mirrors p q w s s') (hd : ∀ key, p key = true → q key = false) (hsame : u' = u.restrict p)
    (hu : Absorbs s fs u) (hu' : Absorbs s' fs' u') (hfs : ∀ f ∈ fs, p f.slot.key = true)
    (hvalues : u'.table.All (Within p)) : Mirrors p q w u u' where
  same := hsame
  confined := by
    refine ⟨hvalues, ?_⟩
    rw [hu'.shape.signaturesOf]
    exact h.confined.signatures
  elsewhere := by
    rw [hu.table, Table.restrict_receiveAll_of_not s.table fun f hf => hd _ (hfs f hf)]
    exact h.elsewhere

/-- A resolution in scopes that give chosen keys only finds the same on the restricted table. -/
theorem mirrors_simulation (hd : ∀ key, p key = true → q key = false) (w : Table) :
    Simulation (fun c _ => Owns p c) resolution resolution (Mirrors p q w)
      (fun a b => a = b ∧ AllKnown (Within p) a) (fun _ _ => True) where
  unknown := ⟨rfl, allKnown_none _⟩
  join := by
    rintro a _ a' _ ⟨rfl, ha⟩ ⟨rfl, ha'⟩
    exact ⟨rfl, allKnown_joinKnown ha ha'⟩
  guard := fun _ _ _ _ => trivial
  declareType := fun _ h _ => h
  enterFunction := fun _ h _ => h
  declareFunction := by
    rintro c n r _ ps s _ hc h ⟨rfl, hr⟩ _
    obtain rfl := h.same
    apply h.absorbs hd (declareFunction_restrict s hc.leave n r ps)
      (absorbs_declareFunction s c.leave n r ps) (absorbs_declareFunction _ c.leave n r ps)
    · exact fun f hf => slot_of_mem_returnInflows hc.leave hf
    · exact (values_invariant (Within p)).declareFunction trivial h.confined.values hr
  useType := by
    intro c n s s' _ h _
    obtain rfl := h.same
    exact h.absorbs hd rfl (.emit _ _) (.emit _ _) nofun h.confined.values
  bind := by
    rintro c n v _ s _ hc h ⟨rfl, hv⟩ _
    obtain rfl := h.same
    have hbind := bindVariable_restrict s hc n .lexical trivial v
    apply h.absorbs hd (congrArg Prod.snd hbind) (absorbs_bindVariable s c n .lexical v)
      (absorbs_bindVariable _ c n .lexical v)
    · exact fun f hf => slot_of_mem_bindInflows hc hf trivial
    · exact (values_invariant (Within p)).bind trivial h.confined.values hv
  bindAttribute := by
    rintro c n o _ v _ s _ hc h ⟨rfl, ho⟩ ⟨rfl, hv⟩ _
    obtain rfl := h.same
    have hbind := bindVariable_restrict s hc n (.attribute o) (ownerWithin_of_allKnown ho) v
    apply h.absorbs hd (congrArg Prod.snd hbind) (absorbs_bindVariable s c n (.attribute o) v)
      (absorbs_bindVariable _ c n (.attribute o) v)
    · exact fun f hf => slot_of_mem_bindInflows hc hf (ownerWithin_of_allKnown ho)
    · exact (values_invariant (Within p)).bindAttribute trivial h.confined.values ho hv
  parameter := fun _ h _ => ⟨rfl, h⟩
  read := by
    intro c n s s' hc h _
    obtain rfl := h.same
    have hread := readVariable_restrict s hc n .lexical trivial
    have hvalues := (values_invariant (Within p)).read (c := c) (n := n) trivial h.confined.values
    have hvalue := congrArg Prod.fst hread
    refine ⟨⟨hvalue.symm, hvalue ▸ hvalues.1⟩, ?_⟩
    exact h.absorbs hd (congrArg Prod.snd hread) (absorbs_readVariable s c n .lexical)
      (absorbs_readVariable _ c n .lexical) nofun hvalues.2
  readAttribute := by
    rintro c n o _ s _ hc h ⟨rfl, ho⟩ _
    obtain rfl := h.same
    have hread := readVariable_restrict s hc n (.attribute o) (ownerWithin_of_allKnown ho)
    have hvalues := (values_invariant (Within p)).readAttribute (c := c) (n := n) trivial
      h.confined.values ho
    have hvalue := congrArg Prod.fst hread
    refine ⟨⟨hvalue.symm, hvalue ▸ hvalues.1⟩, ?_⟩
    exact h.absorbs hd (congrArg Prod.snd hread) (absorbs_readVariable s c n (.attribute o))
      (absorbs_readVariable _ c n (.attribute o)) nofun hvalues.2
  call := by
    rintro c k ns f _ args args' named named' s _ _ h ⟨rfl, hf⟩ hargs hnamed _
    obtain rfl := h.same
    obtain ⟨rfl, hknown⟩ := Invariant.forall₂_diagonal id hargs
    obtain ⟨rfl, hknown'⟩ := Invariant.forall₂_diagonal (A := fun a => AllKnown (Within p) a.2)
      (fun h => ⟨Prod.ext h.1 h.2.1, h.2.2⟩) hnamed
    have hcall := call_restrict s h.confined hf args named
    have hvalues := @Invariant.call _ _ _ _ _ (values_invariant (Within p)) c k ns f args named
      (s.restrict p) trivial h.confined.values hf hknown hknown'
    have hvalue := congrArg Prod.fst hcall
    refine ⟨⟨hvalue.symm, hvalue ▸ hvalues.1⟩, ?_⟩
    exact h.absorbs hd (congrArg Prod.snd hcall) (absorbs_call s f args named)
      (absorbs_call _ f args named) (fun _ => slot_of_mem_callInflows h.confined hf) hvalues.2

theorem resolve_restrict (hd : ∀ key, p key = true → q key = false) {t : Table}
    {m : SourceModule} (hm : ∀ v ∈ moduleVisits m, Owns p v.1) (ht : Confined p (t.restrict p)) :
    resolve (t.restrict p) m = ((resolve t m).1.restrict p, (resolve t m).2) ∧
      (resolve t m).1.restrict q = t.restrict q := by
  have hend := (mirrors_simulation hd (t.restrict q)).runModule_related (m := m)
    (a := ⟨t, #[], false⟩) (b := ⟨t.restrict p, #[], false⟩) hm ⟨rfl, ht, rfl⟩ trivial
  refine ⟨?_, hend.elsewhere⟩
  unfold resolve
  dsimp only
  rw [hend.same]
  rfl

theorem Confined.resolve {t : Table} (h : Confined p t) (m : SourceModule) :
    Confined p (resolve t m).1 where
  values := resolve_all h.values m
  signatures := by
    rw [(resolve_grows t m).shape.signaturesOf]
    exact h.signatures

end Resolutions

namespace Definition

variable (s : State) (c : ScopeChain) (name : String)

theorem declareFunction_features (returns : Option ValueSet) (params : List String) :
    (declareFunction c name returns params s).features =
      s.features.push ⟨.functionDefined, name⟩ := by
  unfold declareFunction State.recordMember
  cases c.memberKey? name <;> rfl

theorem recordTypes_features (types : List String) :
    (types.foldl (fun s type => s.record (memberKey type name) none) s).features = s.features := by
  induction types generalizing s with
  | nil => rfl
  | cons type types ih => exact ih (s.record (memberKey type name) none)

theorem bindVariable_features (site : Site) :
    (bindVariable c name site s).2.features = s.features.push ⟨.variableDefined, name⟩ := by
  match site with
  | .lexical =>
    unfold bindVariable State.recordMember
    cases c.memberKey? name <;> rfl
  | .attribute owner => exact recordTypes_features (s.emit .variableDefined name) name _

section Destinations

variable {s c name} {p : String → Bool} {f : Inflow}

theorem slot_of_mem_memberInflows (hc : Owns p c) {values : ValueSet}
    (h : f ∈ memberInflows c name values) : p f.slot.key = true := by
  obtain ⟨key, hkey, rfl⟩ := List.mem_map.mp h
  exact hc.memberKey? (Option.mem_toList.mp hkey)

theorem slot_of_mem_functionInflows (hc : Owns p c) {returns : Option ValueSet}
    {params : List String} (h : f ∈ functionInflows c name returns params) :
    p f.slot.key = true := by
  rcases List.mem_cons.mp h with rfl | h
  · exact hc.key name
  · rcases List.mem_cons.mp h with rfl | h
    · exact hc.key name
    · exact slot_of_mem_memberInflows hc h

theorem slot_of_mem_variableInflows (hc : Owns p c) {site : Site}
    (h : f ∈ variableInflows c name site) (hsite : OwnerWithin p site) : p f.slot.key = true := by
  match site with
  | .lexical =>
    rcases List.mem_cons.mp h with rfl | h
    · exact hc.key name
    · exact slot_of_mem_memberInflows hc h
  | .attribute owner =>
    obtain ⟨type, htype, rfl⟩ := List.mem_map.mp h
    exact hsite type htype name

end Destinations

end Definition

section Definitions

open Definition

variable {p q : String → Bool} {classes : List String} {w : Table}

/-- A definition beside the one on its restricted table, with the part that it does not touch. -/
structure Copies (p q : String → Bool) (classes : List String) (w : Table)
    (s s' : Definition.State) : Prop where
  table : s'.table = s.table.restrict p
  features : s'.features = s.features
  types : s'.table.All (ClassOf classes)
  elsewhere : s.table.restrict q = w

theorem Copies.receives {s s' u u' : Definition.State} {fs : List Inflow}
    (h : Copies p q classes w s s') (hd : ∀ key, p key = true → q key = false)
    (hu : u.table = s.table.receiveAll fs) (hu' : u'.table = s'.table.receiveAll fs)
    (hfs : ∀ f ∈ fs, p f.slot.key = true) (hfeatures : u'.features = u.features)
    (htypes : u'.table.All (ClassOf classes)) : Copies p q classes w u u' where
  table := by rw [hu, hu', h.table, Table.restrict_receiveAll s.table hfs]
  features := hfeatures
  types := htypes
  elsewhere := by
    rw [hu, Table.restrict_receiveAll_of_not s.table fun f hf => hd _ (hfs f hf)]
    exact h.elsewhere

theorem Copies.declares {s s' : Definition.State} {c : ScopeChain} (hc : Owns p c)
    (h : Copies p q classes w s s') (hd : ∀ key, p key = true → q key = false) (name : String)
    (returns : Option ValueSet) (params : List String)
    (htypes : (declareFunction c name returns params s').table.All (ClassOf classes)) :
    Copies p q classes w (declareFunction c name returns params s)
      (declareFunction c name returns params s') where
  table := by
    have hf : p (functionValue c name params).key = true := hc.key name
    rw [declareFunction_table, declareFunction_table, h.table, Table.restrict_recordSignature _ hf,
      Table.restrict_receiveAll s.table fun f hf => slot_of_mem_functionInflows hc hf]
  features := by rw [declareFunction_features, declareFunction_features, h.features]
  types := htypes
  elsewhere := by
    have hf : q (functionValue c name params).key = false := hd _ (hc.key name)
    rw [declareFunction_table, Table.restrict_recordSignature_of_not _ hf,
      Table.restrict_receiveAll_of_not s.table
        fun f hf => hd _ (slot_of_mem_functionInflows hc hf)]
    exact h.elsewhere

theorem Copies.binds {s s' : Definition.State} {c : ScopeChain} (hc : Owns p c)
    (h : Copies p q classes w s s') (hd : ∀ key, p key = true → q key = false) (name : String)
    (site : Site) (hsite : OwnerWithin p site)
    (htypes : (bindVariable c name site s').2.table.All (ClassOf classes)) :
    Copies p q classes w (bindVariable c name site s).2 (bindVariable c name site s').2 := by
  apply h.receives hd (bindVariable_table s c name site) (bindVariable_table s' c name site)
  · exact fun f hf => slot_of_mem_variableInflows hc hf hsite
  · rw [bindVariable_features, bindVariable_features, h.features]
  · exact htypes

/-- A definition in scopes that give chosen keys only enters the same into the restricted table. -/
theorem copies_simulation (hd : ∀ key, p key = true → q key = false)
    (hp : ∀ n ∈ classes, ∀ name, p (memberKey n name) = true) (w : Table) :
    Simulation (fun c x => Owns p c ∧ ClassesAt classes c x) definition definition
      (Copies p q classes w) (fun a b => a = b ∧ AllKnown (ClassOf classes) a)
      (fun _ _ => True) where
  unknown := ⟨rfl, allKnown_none _⟩
  join := by
    rintro a _ a' _ ⟨rfl, ha⟩ ⟨rfl, ha'⟩
    exact ⟨rfl, allKnown_joinKnown ha ha'⟩
  guard := fun _ _ _ _ => trivial
  declareType := by
    intro c n s s' hx h _
    apply h.receives hd (declareType_table s c n) (declareType_table s' c n)
    · intro f hf
      rw [List.mem_singleton.mp hf]
      exact hx.1.key n
    · exact congrArg (Array.push · _) h.features
    · exact (classes_invariant classes).declareType hx.2 h.types
  enterFunction := fun _ h _ => h
  declareFunction := by
    rintro c n r _ ps s s' hx h ⟨rfl, hr⟩ _
    exact h.declares hx.1.leave hd n r ps
      ((classes_invariant classes).declareFunction hx.2 h.types hr)
  useType := fun _ h _ => h
  bind := by
    rintro c n v _ s s' hx h ⟨rfl, hv⟩ _
    exact h.binds hx.1 hd n .lexical trivial ((classes_invariant classes).bind hx.2 h.types hv)
  bindAttribute := by
    rintro c n o _ v _ s s' hx h ⟨rfl, ho⟩ ⟨rfl, hv⟩ _
    have howner : OwnerWithin p (.attribute o) :=
      fun type htype => hp type (ho (.type type) (ValueSet.mem_types_iff.mp htype))
    exact h.binds hx.1 hd n (.attribute o) howner
      ((classes_invariant classes).bindAttribute hx.2 h.types ho hv)
  parameter := by
    intro c n s s' hx h _
    exact ⟨rfl, h.binds hx.1 hd n .lexical trivial
      ((classes_invariant classes).parameter hx.2 h.types)⟩
  read := by
    intro c n s s' hx h _
    have hvalue : Definition.readVariable c n .lexical s' =
        Definition.readVariable c n .lexical s := by
      unfold Definition.readVariable
      rw [h.table, lookup_restrict hx.1]
    have hread : AllKnown (ClassOf classes) (Definition.readVariable c n .lexical s') :=
      ((classes_invariant classes).read hx.2 h.types).1
    rw [hvalue] at hread
    exact ⟨⟨hvalue.symm, hread⟩, h⟩
  readAttribute := fun _ h _ _ => ⟨⟨rfl, allKnown_none _⟩, h⟩
  call := fun _ h _ _ _ _ => ⟨⟨rfl, allKnown_none _⟩, h⟩

theorem define_restrict (hd : ∀ key, p key = true → q key = false)
    (hp : ∀ n ∈ classes, ∀ name, p (memberKey n name) = true) {t : Table} {m : SourceModule}
    (hm : ∀ v ∈ moduleVisits m, Owns p v.1) (hn : ∀ n ∈ declaredClasses m, n ∈ classes)
    (ht : (t.restrict p).All (ClassOf classes)) :
    define (t.restrict p) m = ((define t m).1.restrict p, (define t m).2) ∧
      (define t m).1.restrict q = t.restrict q := by
  have hvisits : ∀ v ∈ moduleVisits m, Owns p v.1 ∧ ClassesAt classes v.1 v.2 :=
    fun v hv => ⟨hm v hv, (classesAt_of_mem_moduleVisits v hv).mono hn⟩
  have hend := (copies_simulation hd hp (t.restrict q)).runModule_related (m := m)
    (a := ⟨t, #[]⟩) (b := ⟨t.restrict p, #[]⟩) hvisits ⟨rfl, rfl, ht, rfl⟩ trivial
  refine ⟨?_, hend.elsewhere⟩
  unfold define
  dsimp only
  rw [hend.table, hend.features]

end Definitions

end NameFlow.Flow
