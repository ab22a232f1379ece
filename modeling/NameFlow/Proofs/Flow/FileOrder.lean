import NameFlow.Flow.Analysis
import NameFlow.Proofs.Flow.Schedule

/-!
# The order of the files

The rounds of an analysis are a schedule of resolutions, so that the order of the files could
only matter through the definitions. They do depend on it: a definition looks the receiver of
a method up in the table, which holds what the files before have entered, and of two functions
under one path and name the first stays, be it a method or not. Where every function is held
in one form, the analyses of two orders agree exactly if each finds what the other one's
definitions enter.
-/

namespace NameFlow.Flow

set_option autoImplicit false

open Python

section Rounds

theorem resolutionRound_table (t : Table) (ms : List SourceModule) :
    (resolutionRound t ms).1 = resolveAll t ms := by
  induction ms generalizing t with
  | nil => rfl
  | cons m ms ih => exact ih (resolve t m).1

theorem settled_of_unchanged {t : Table} {ms : List SourceModule}
    (h : (resolutionRound t ms).2.changed = false) :
    Settled ms t := by
  rw [resolutionRound_unchanged_iff_satisfies] at h
  exact settled_iff_unchanged.mpr fun m hm => (resolve_unchanged_iff t m).mpr (h m hm)

/-- The rounds are a schedule, at rest once they converge. -/
theorem fixpoint_go_schedule (ms : List SourceModule) (n : Nat) (f : Fixpoint) :
    ∃ schedule, (∀ m ∈ schedule, m ∈ ms) ∧
      (fixpoint.go ms n f).table = resolveAll f.table schedule ∧
      ((fixpoint.go ms n f).converged = true →
        f.converged = true ∨ Settled ms (fixpoint.go ms n f).table) := by
  induction n generalizing f with
  | zero => exact ⟨[], nofun, rfl, Or.inl⟩
  | succ n ih =>
    unfold fixpoint.go
    dsimp only
    split
    · obtain ⟨schedule, hmem, htable, hend⟩ := ih
        ⟨(resolutionRound f.table ms).1, (resolutionRound f.table ms).2.features,
          f.iterations + 1, f.converged⟩
      refine ⟨ms ++ schedule, ?_, ?_, hend⟩
      · exact List.forall_mem_append.mpr ⟨fun _ hm => hm, hmem⟩
      · rw [htable, resolutionRound_table]
        exact List.foldl_append.symm
    · rename_i hc
      have hsame := resolutionRound_same (Bool.not_eq_true _ ▸ hc)
      refine ⟨[], nofun, hsame, fun _ => Or.inr ?_⟩
      rw [Bool.not_eq_true] at hc
      show Settled ms (resolutionRound f.table ms).1
      rw [hsame]
      exact settled_of_unchanged hc

theorem analyze_schedule (n : Nat) (ms : List SourceModule) :
    ∃ schedule, (∀ m ∈ schedule, m ∈ ms) ∧
      (analyze n ms).table = resolveAll (definitionRound ∅ ms).1 schedule ∧
      ((analyze n ms).converged = true → Settled ms (analyze n ms).table) := by
  obtain ⟨schedule, hmem, htable, hend⟩ := fixpoint_go_schedule ms n
    ⟨(definitionRound ∅ ms).1, ms.map fun _ => [], 0, false⟩
  exact ⟨schedule, hmem, htable, fun hc => (hend hc).resolve_left Bool.false_ne_true⟩

end Rounds

/-- The value stands in some slot of the table. -/
def OccursIn (t : Table) (v : Value) : Prop := ∃ slot, v ∈ (t.held slot).toList

/-- No function is held as a method at one place of the two tables and as none at another. -/
def FormsAgree (t u : Table) : Prop := Coherent fun v => OccursIn t v ∨ OccursIn u v

section Orders

variable {ms ms' s s' : List SourceModule}

theorem mem_declared_of_perm (hp : ms.Perm ms') {f : FunctionValue} :
    f ∈ ms.flatMap declaredFunctions ↔ f ∈ ms'.flatMap declaredFunctions :=
  (hp.flatMap_right declaredFunctions).mem_iff

theorem mem_signatures_of_perm (hp : ms.Perm ms') (f : FunctionValue) (params : List String) :
    params ∈ (definitionRound ∅ ms).1.signaturesOf f ↔
      params ∈ (definitionRound ∅ ms').1.signaturesOf f := by
  rw [(definitionRound_declared ms).signatures, (definitionRound_declared ms').signatures]
  simp only [mem_declared_of_perm hp]

theorem all_of_grows {t u : Table} {D : Value → Prop} (h : t.Grows u) (hu : u.All D) : t.All D := by
  intro slot v hv
  obtain ⟨values, hvalues, _⟩ := Table.exists_slot?_of_mem (ValueSet.identity_mem hv)
  obtain ⟨values', hvalues', hprefix⟩ := h.kept slot values hvalues
  rw [Table.held_of_slot? hvalues] at hv
  apply hu slot v
  rw [Table.held_of_slot? hvalues']
  exact hprefix.subset hv

theorem declared_of_occursIn {f : FunctionValue}
    (h : OccursIn (resolveAll (definitionRound ∅ ms).1 s) (.function f)) :
    f ∈ ms.flatMap declaredFunctions := by
  obtain ⟨slot, hf⟩ := h
  exact resolveAll_all (definitionRound_declared ms).values s slot _ hf

theorem formsAgree_of_methodsAgree (hp : ms.Perm ms') (hm : MethodsAgree ms)
    (s s' : List SourceModule) :
    FormsAgree (resolveAll (definitionRound ∅ ms).1 s)
      (resolveAll (definitionRound ∅ ms').1 s') := by
  have hdeclared : ∀ f, OccursIn (resolveAll (definitionRound ∅ ms).1 s) (.function f) ∨
      OccursIn (resolveAll (definitionRound ∅ ms').1 s') (.function f) →
      f ∈ ms.flatMap declaredFunctions := by
    rintro f (hf | hf)
    · exact declared_of_occursIn hf
    · exact (mem_declared_of_perm hp).mpr (declared_of_occursIn hf)
  intro f g hf hg
  exact hm f (hdeclared f hf) g (hdeclared g hg)

/-- Definitions that another order's table at rest includes lead to nothing outside of it. -/
theorem resolveAll_le_of_definitions (hp : ms.Perm ms')
    (hforms : FormsAgree (resolveAll (definitionRound ∅ ms).1 s)
      (resolveAll (definitionRound ∅ ms').1 s'))
    (hs : ∀ m ∈ s, m ∈ ms) (hend : Settled ms' (resolveAll (definitionRound ∅ ms').1 s'))
    (hkeys : ∀ key, (definitionRound ∅ ms).1.contains key = (definitionRound ∅ ms').1.contains key)
    (hle : (definitionRound ∅ ms).1 ≤ resolveAll (definitionRound ∅ ms').1 s') :
    resolveAll (definitionRound ∅ ms).1 s ≤ resolveAll (definitionRound ∅ ms').1 s' := by
  have hgrows := resolveAll_grows (definitionRound ∅ ms).1 s
  have hgrows' := resolveAll_grows (definitionRound ∅ ms').1 s'
  have hbelow : (definitionRound ∅ ms).1.Below
      (fun v => OccursIn (resolveAll (definitionRound ∅ ms).1 s) v ∨
        OccursIn (resolveAll (definitionRound ∅ ms').1 s') v)
      (resolveAll (definitionRound ∅ ms').1 s') := by
    refine ⟨hle, fun key => ?_, fun f params hf => ?_, fun f hf => ?_, ?_, ?_⟩
    · rw [hgrows'.shape.contains, hkeys]
    · rw [hgrows'.shape.signaturesOf]
      exact (mem_signatures_of_perm hp f params).mp hf
    · apply definitionRound_signed
      rcases hf with hf | hf
      · exact declared_of_occursIn hf
      · exact (mem_declared_of_perm hp).mpr (declared_of_occursIn hf)
    · exact all_of_grows hgrows fun slot v hv => Or.inl ⟨slot, hv⟩
    · exact fun slot v hv => Or.inr ⟨slot, hv⟩
  have hsat := hend.satisfies
  exact (resolveAll_below hforms hbelow fun m hmem => hsat m (hp.mem_iff.mp (hs m hmem))).le

theorem analyses_le_iff (hp : ms.Perm ms')
    (hforms : FormsAgree (resolveAll (definitionRound ∅ ms).1 s)
      (resolveAll (definitionRound ∅ ms').1 s'))
    (hs : ∀ m ∈ s, m ∈ ms) (hs' : ∀ m ∈ s', m ∈ ms')
    (hend : Settled ms (resolveAll (definitionRound ∅ ms).1 s))
    (hend' : Settled ms' (resolveAll (definitionRound ∅ ms').1 s')) :
    resolveAll (definitionRound ∅ ms').1 s' ≤ resolveAll (definitionRound ∅ ms).1 s ∧
        resolveAll (definitionRound ∅ ms).1 s ≤ resolveAll (definitionRound ∅ ms').1 s' ↔
      (definitionRound ∅ ms').1 ≤ resolveAll (definitionRound ∅ ms).1 s ∧
        (definitionRound ∅ ms).1 ≤ resolveAll (definitionRound ∅ ms').1 s' := by
  have hgrows := resolveAll_grows (definitionRound ∅ ms).1 s
  have hgrows' := resolveAll_grows (definitionRound ∅ ms').1 s'
  constructor
  · rintro ⟨hle', hle⟩
    exact ⟨Table.le_trans hgrows'.le hle', Table.le_trans hgrows.le hle⟩
  · rintro ⟨hdef', hdef⟩
    -- a key of either definitions is one of the other's, since resolutions add none
    have hkeys : ∀ key, (definitionRound ∅ ms).1.contains key =
        (definitionRound ∅ ms').1.contains key := by
      intro key
      rw [Bool.eq_iff_iff]
      constructor
      · intro hk
        exact hgrows'.shape.contains key ▸ Table.contains_of_le hdef hk
      · intro hk
        exact hgrows.shape.contains key ▸ Table.contains_of_le hdef' hk
    have hforms' : FormsAgree (resolveAll (definitionRound ∅ ms').1 s')
        (resolveAll (definitionRound ∅ ms).1 s) :=
      fun f g hf hg => hforms f g hf.symm hg.symm
    refine ⟨?_, resolveAll_le_of_definitions hp hforms hs hend' hkeys hdef⟩
    exact resolveAll_le_of_definitions hp.symm hforms' hs' hend (fun key => (hkeys key).symm) hdef'

end Orders

/-- The second table's slots and values added to the first one's. Under a key that the first does
not have the third holds just what the second does, in the same order. -/
structure JoinOf (t w u : Table) : Prop where
  left : t ≤ u
  right : w ≤ u
  opened : ∀ slot, (u.slot? slot).isSome = true →
    (t.slot? slot).isSome = true ∨ (w.slot? slot).isSome = true
  split : ∀ slot i, i ∈ u.held slot → i ∈ t.held slot ∨ i ∈ w.held slot
  outside : ∀ key, t.contains key = false → u.slot? (.entry key) = w.slot? (.entry key)

namespace JoinOf

variable {t u w x : Table}

theorem start (t : Table) : JoinOf t ∅ t where
  left := Table.le_refl t
  right := fun slot _ h => by cases slot <;> exact nomatch h
  opened := fun _ => Or.inl
  split := fun _ _ => Or.inl
  outside := fun _ hk => Option.isNone_iff_eq_none.mp (Option.isSome_eq_false_iff.mp hk)

theorem least (h : JoinOf t w u) (ht : t ≤ x) (hw : w ≤ x) : u ≤ x := by
  intro slot values hvalues
  have hex : (x.slot? slot).isSome = true := by
    rcases h.opened slot (hvalues ▸ rfl) with hs | hs
    · exact Table.isSome_of_le ht slot hs
    · exact Table.isSome_of_le hw slot hs
  obtain ⟨values', hvalues'⟩ := Option.isSome_iff_exists.mp hex
  refine ⟨values', hvalues', fun i hi => ?_⟩
  rw [← Table.held_of_slot? hvalues] at hi
  rw [← Table.held_of_slot? hvalues']
  exact (h.split slot i hi).elim (Table.held_subset ht slot i) (Table.held_subset hw slot i)

theorem receive (h : JoinOf t w u) (f : Inflow) : JoinOf t (w.receive f) (u.receive f) where
  left := Table.le_trans h.left (Table.le_receive u f)
  right := Table.receive_mono h.right f
  opened := by
    intro slot hslot
    rw [Table.slot?_receive] at hslot ⊢
    split at hslot
    · rename_i hf
      exact Or.inr (by rw [if_pos hf]; rfl)
    · rename_i hf
      rw [if_neg hf]
      exact h.opened slot hslot
  split := by
    intro slot i hi
    rw [Table.held_receive] at hi ⊢
    split at hi
    · rename_i hf
      rw [if_pos hf, ← hf]
      rcases ValueSet.mem_union.mp hi with hi | hi
      · exact (h.split f.slot i hi).imp_right fun hi => ValueSet.mem_union.mpr (Or.inl hi)
      · exact Or.inr (ValueSet.mem_union.mpr (Or.inr hi))
    · rename_i hf
      rw [if_neg hf]
      exact h.split slot i hi
  outside := by
    intro key hk
    rw [Table.slot?_receive, Table.slot?_receive]
    split
    · rename_i hf
      rw [hf, Table.held, Table.held, h.outside key hk]
    · exact h.outside key hk

theorem receiveAll (h : JoinOf t w u) (fs : List Inflow) :
    JoinOf t (w.receiveAll fs) (u.receiveAll fs) := by
  induction fs generalizing w u with
  | nil => exact h
  | cons f fs ih => exact ih (h.receive f)

theorem recordSignature (h : JoinOf t w u) (f : FunctionValue) :
    JoinOf t (w.recordSignature f) (u.recordSignature f) where
  left := fun slot s hs => Table.slot?_recordSignature u f slot ▸ h.left slot s hs
  right := by
    intro slot s hs
    rw [Table.slot?_recordSignature] at hs ⊢
    exact h.right slot s hs
  opened := by
    intro slot
    rw [Table.slot?_recordSignature, Table.slot?_recordSignature]
    exact h.opened slot
  split := by
    intro slot i
    unfold Table.held
    rw [Table.slot?_recordSignature, Table.slot?_recordSignature]
    exact h.split slot i
  outside := h.outside

end JoinOf

/-- The keys under which the definition of a module may find a receiver. -/
def receiverKeys (m : SourceModule) : List String :=
  (moduleVisits m).flatMap fun visit =>
    if visit.2 = .read receiverName then visit.1.lexicalKeys receiverName else []

/-- No other file enters a key under which a file looks for a receiver. -/
def ReceiversApart (ms : List SourceModule) : Prop :=
  ms.Pairwise fun m m' =>
    (∀ key ∈ receiverKeys m, (define ∅ m').1.contains key = false) ∧
      ∀ key ∈ receiverKeys m', (define ∅ m).1.contains key = false

instance (ms : List SourceModule) : Decidable (ReceiversApart ms) :=
  inferInstanceAs (Decidable (List.Pairwise _ ms))

section Receivers

variable {t : Table} {ms ms' : List SourceModule}

theorem lookup_of_join {w u : Table} (h : JoinOf t w u) {c : ScopeChain} {name : String}
    (hc : ∀ key ∈ c.lexicalKeys name, t.contains key = false) : lookup u c name = lookup w c name := by
  unfold lookup
  generalize c.lexicalKeys name = keys at hc
  induction keys with
  | nil => rfl
  | cons key keys ih =>
    rw [List.forall_mem_cons] at hc
    have hkey : u.get? key = w.get? key := h.outside key hc.1
    rw [List.findSome?_cons, List.findSome?_cons, hkey, ih hc.2]

/-- A definition beside the same one on the empty table: as long as the receivers are found
under the same keys, both send the same inflows. -/
theorem join_simulation (t : Table) :
    Simulation (fun c x => x = .read receiverName →
        ∀ key ∈ c.lexicalKeys receiverName, t.contains key = false)
      definition definition (fun s s' => JoinOf t s'.table s.table) (fun v w => v = w)
      (fun _ _ => True) where
  unknown := rfl
  join := fun h h' => by rw [h, h']
  guard := fun _ _ _ _ => trivial
  declareType := by
    intro c n s s' _ h _
    rw [Definition.declareType_table, Definition.declareType_table]
    exact h.receiveAll _
  enterFunction := fun _ h _ => h
  declareFunction := by
    rintro c n r _ ps s s' _ h rfl _
    show JoinOf t (Definition.declareFunction _ _ _ _ _).table
      (Definition.declareFunction _ _ _ _ _).table
    rw [Definition.declareFunction_table, Definition.declareFunction_table]
    exact (h.receiveAll _).recordSignature _
  useType := fun _ h _ => h
  bind := by
    rintro c n v _ s s' _ h rfl _
    show JoinOf t (Definition.bindVariable _ _ _ _).2.table (Definition.bindVariable _ _ _ _).2.table
    rw [Definition.bindVariable_table, Definition.bindVariable_table]
    exact h.receiveAll _
  bindAttribute := by
    rintro c n o _ v _ s s' _ h rfl _ _
    show JoinOf t (Definition.bindVariable _ _ _ _).2.table (Definition.bindVariable _ _ _ _).2.table
    rw [Definition.bindVariable_table, Definition.bindVariable_table]
    exact h.receiveAll _
  parameter := by
    intro c n s s' _ h _
    refine ⟨rfl, ?_⟩
    show JoinOf t (Definition.bindVariable _ _ _ _).2.table (Definition.bindVariable _ _ _ _).2.table
    rw [Definition.bindVariable_table, Definition.bindVariable_table]
    exact h.receiveAll _
  read := by
    intro c n s s' hx h _
    refine ⟨?_, h⟩
    show Definition.readVariable c n .lexical s = Definition.readVariable c n .lexical s'
    unfold Definition.readVariable
    dsimp only
    split
    · rename_i hn
      subst hn
      rw [lookup_of_join h (hx rfl)]
    · rfl
  readAttribute := fun _ h _ _ => ⟨rfl, h⟩
  call := fun _ h _ _ _ _ => ⟨rfl, h⟩

theorem define_join {m : SourceModule} (hm : ∀ key ∈ receiverKeys m, t.contains key = false) :
    JoinOf t (define ∅ m).1 (define t m).1 := by
  refine (join_simulation t).runModule_related (a := ⟨t, #[]⟩) (b := ⟨∅, #[]⟩) ?_ (.start t) trivial
  intro visit hvisit hread key hkey
  refine hm key (List.mem_flatMap.mpr ⟨visit, hvisit, ?_⟩)
  rwa [if_pos hread]

/-- The definitions of files whose receivers are apart are those of each file by itself. -/
structure Collects (t : Table) (ms : List SourceModule) (u : Table) : Prop where
  start : t ≤ u
  each : ∀ m ∈ ms, (define ∅ m).1 ≤ u
  least : ∀ x, t ≤ x → (∀ m ∈ ms, (define ∅ m).1 ≤ x) → u ≤ x

theorem definitionRound_collects (hapart : ReceiversApart ms)
    (ht : ∀ m ∈ ms, ∀ key ∈ receiverKeys m, t.contains key = false) :
    Collects t ms (definitionRound t ms).1 := by
  induction ms generalizing t with
  | nil => exact ⟨Table.le_refl t, nofun, fun x hx _ => hx⟩
  | cons m ms ih =>
    obtain ⟨hm, hms⟩ := List.pairwise_cons.mp hapart
    rw [List.forall_mem_cons] at ht
    have hjoin := define_join ht.1
    have hnext : ∀ m' ∈ ms, ∀ key ∈ receiverKeys m', (define t m).1.contains key = false := by
      intro m' hm' key hkey
      by_contra hc
      rcases hjoin.opened (.entry key) (Bool.not_eq_false _ ▸ hc) with hold | hnew
      · have hfalse := ht.2 m' hm' key hkey
        rw [show t.contains key = true from hold] at hfalse
        exact nomatch hfalse
      · have hfalse := (hm m' hm').2 key hkey
        rw [show (define ∅ m).1.contains key = true from hnew] at hfalse
        exact nomatch hfalse
    have hrest := ih hms hnext
    refine ⟨Table.le_trans hjoin.left hrest.start, ?_, fun x hx hall => ?_⟩
    · exact List.forall_mem_cons.mpr ⟨Table.le_trans hjoin.right hrest.start, hrest.each⟩
    · rw [List.forall_mem_cons] at hall
      exact hrest.least x (hjoin.least hx hall.1) hall.2

theorem definitionRound_le_of_perm (hp : ms.Perm ms') (hapart : ReceiversApart ms) :
    (definitionRound ∅ ms).1 ≤ (definitionRound ∅ ms').1 := by
  have hempty : ∀ ms : List SourceModule, ∀ m ∈ ms, ∀ key ∈ receiverKeys m,
      (∅ : Table).contains key = false := fun _ _ _ _ _ => rfl
  have hapart' : ReceiversApart ms' := (hp.pairwise_iff And.symm).mp hapart
  have hcollects := definitionRound_collects hapart (hempty ms)
  have hcollects' := definitionRound_collects hapart' (hempty ms')
  exact hcollects.least _ hcollects'.start fun m hm => hcollects'.each m (hp.mem_iff.mp hm)

end Receivers

/-- Two orders of the files that converge, with each function held in one form only, have found
the same values exactly if each has found what the definitions of the other enter. They always
have if methods agree and the files' receivers are apart. -/
theorem analyze_perm_agrees_iff {ms ms' : List SourceModule} {n n' : Nat} (hp : ms.Perm ms')
    (hc : (analyze n ms).converged = true) (hc' : (analyze n' ms').converged = true) :
    (FormsAgree (analyze n ms).table (analyze n' ms').table →
      ((analyze n ms).table.includes (analyze n' ms').table ∧
          (analyze n' ms').table.includes (analyze n ms).table ↔
        (analyze n ms).table.includes (definitionRound ∅ ms').1 ∧
          (analyze n' ms').table.includes (definitionRound ∅ ms).1)) ∧
    (MethodsAgree ms → ReceiversApart ms →
      (analyze n ms).table.includes (analyze n' ms').table ∧
        (analyze n' ms').table.includes (analyze n ms).table) := by
  obtain ⟨s, hs, htable, hend⟩ := analyze_schedule n ms
  obtain ⟨s', hs', htable', hend'⟩ := analyze_schedule n' ms'
  have hrest := hend hc
  have hrest' := hend' hc'
  rw [htable] at hrest ⊢
  rw [htable'] at hrest' ⊢
  simp only [Table.includes_iff]
  constructor
  · intro hforms
    exact analyses_le_iff hp hforms hs hs' hrest hrest'
  · intro hm hapart
    have hapart' : ReceiversApart ms' := (hp.pairwise_iff And.symm).mp hapart
    have hforms := formsAgree_of_methodsAgree hp hm s s'
    apply (analyses_le_iff hp hforms hs hs' hrest hrest').mpr
    constructor
    · exact Table.le_trans (definitionRound_le_of_perm hp.symm hapart') (resolveAll_grows _ s).le
    · exact Table.le_trans (definitionRound_le_of_perm hp hapart) (resolveAll_grows _ s').le

theorem keeping_and_reading_orders :
    ReceiversApart [keeping, reading] ∧
    (analyze 8 [keeping, reading]).table.includes (analyze 8 [reading, keeping]).table ∧
    (analyze 8 [reading, keeping]).table.includes (analyze 8 [keeping, reading]).table := by
  have hapart : ReceiversApart [keeping, reading] := by decide +kernel
  have hmethods : MethodsAgree [keeping, reading] := by decide +kernel
  exact ⟨hapart, (analyze_perm_agrees_iff (.swap reading keeping []) (by decide +kernel)
    (by decide +kernel)).2 hmethods hapart⟩

/-- A method under the path of a class. -/
def methodFile : SourceModule :=
  ⟨"pkg.py", "pkg",
    [.classDef "util" []
      [.functionDef "run" ⟨[⟨"self", none, none⟩, ⟨"job", none, none⟩], none, [], none⟩ none
        [.opaqueStmt]]]⟩

/-- A function of the same path and name, and a call of it. -/
def functionFile : SourceModule :=
  ⟨"pkg/util.py", "pkg.util",
    [.functionDef "run" ⟨[⟨"job", none, none⟩], none, [], none⟩ none [.opaqueStmt],
     .classDef "Job" [] [.opaqueStmt],
     .expr (.call (.name "run") [.call (.name "Job") [] []] [])]⟩

/-- A method whose receiver another file finds. -/
def receiverFile : SourceModule :=
  ⟨"a.py", "a",
    [.classDef "K" []
      [.functionDef "C" ⟨[⟨"self", none, none⟩], none, [], none⟩ none [.opaqueStmt]]]⟩

def attributeFile : SourceModule :=
  ⟨"a/K/C.py", "a.K.C", [.assign [.attribute (.name "self") "x"] .constant]⟩

/-- Neither condition can be left out. If the function comes before the method, its calls move
their argument into the method's receiver too; and only if the receiver comes first does the
assignment declare an attribute of its class. -/
theorem file_order_matters :
    (ReceiversApart [methodFile, functionFile] ∧
      (analyze 5 [methodFile, functionFile]).converged = true ∧
      (analyze 5 [functionFile, methodFile]).converged = true ∧
      ¬ (analyze 5 [methodFile, functionFile]).table.includes
        (analyze 5 [functionFile, methodFile]).table) ∧
    MethodsAgree [receiverFile, attributeFile] ∧
      (analyze 5 [receiverFile, attributeFile]).converged = true ∧
      (analyze 5 [attributeFile, receiverFile]).converged = true ∧
      ¬ (analyze 5 [attributeFile, receiverFile]).table.includes
        (analyze 5 [receiverFile, attributeFile]).table := by
  constructor
  · decide +kernel
  · decide +kernel

end NameFlow.Flow
