import NameFlow.Proofs.Flow.Growth

/-!
# Checking a table without changing it

The checking of a module reads from one fixed table. It writes nothing and notes whether the
table meets every inflow on the way. A resolution changes nothing exactly when the check
succeeds.
-/

namespace NameFlow.Flow

set_option autoImplicit false

open Python Resolution

/-- Every inflow so far is met by the table that all values are read from. -/
def checking (t : Table) : Interpretation Prop where
  declareFunction scopes name returns _ p := p ∧ ∀ f ∈ returnInflows scopes name returns, t.Meets f
  bindVariable scopes name site incoming p :=
    (none, p ∧ ∀ f ∈ bindInflows t scopes name site incoming, t.Meets f)
  call _ callee args named p :=
    (callValue t callee, p ∧ ∀ f ∈ callInflows t callee args named, t.Meets f)
  readVariable scopes name site p := (readValue t scopes name site, p)

/-- The table meets every inflow of the module. -/
def Satisfies (t : Table) (m : SourceModule) : Prop := runModule (checking t) m True

theorem checking_step {t : Table} {q : State Prop} {x : Step}
    (h : (step (checking t) q x).inner) : q.inner := by
  cases x with
  | bind | bindAttribute | parameter | call | leaveFunction => exact h.1
  | _ => exact h

theorem changed_step {s : State Resolution.State} {x : Step}
    (h : (step resolution s x).inner.changed = false) : s.inner.changed = false := by
  cases x with
  | read n => exact ((absorbs_readVariable s.inner s.scopes n .lexical).changed.mp h).1
  | readAttribute n =>
    exact ((absorbs_readVariable s.inner s.scopes n (.attribute s.top)).changed.mp h).1
  | bind => exact ((absorbs_bindVariable _ _ _ _ _).changed.mp h).1
  | bindAttribute => exact ((absorbs_bindVariable _ _ _ _ _).changed.mp h).1
  | call => exact ((absorbs_call _ _ _ _).changed.mp h).1
  | leaveFunction => exact ((absorbs_declareFunction _ _ _ _ s.frame.params).changed.mp h).1
  | _ => exact h

/-- A resolution that has changed nothing beside a check that has found nothing. -/
structure Unchanged (t : Table) (s : Resolution.State) (p : Prop) : Prop where
  table : s.table = t
  changed : s.changed = false
  holds : p

theorem Unchanged.absorbs {t : Table} {s s' : Resolution.State} {p p' : Prop} {fs : List Inflow}
    (h : Unchanged t s p) (hs : Absorbs s fs s') (ha : ∀ f ∈ fs, s.table.Admits f)
    (hp : p' ↔ p ∧ ∀ f ∈ fs, t.Meets f) (hg : s'.changed = false ∨ p') : Unchanged t s' p' := by
  obtain ⟨rfl, hc, hholds⟩ := h
  have hm : ∀ f ∈ fs, s.table.Meets f := by
    rcases hg with hg | hg
    · exact (hs.changed.mp hg).2
    · exact (hp.mp hg).2
  refine ⟨?_, hs.changed.mpr ⟨hc, hm⟩, hp.mpr ⟨hholds, hm⟩⟩
  rw [hs.table, Table.receiveAll_eq_self ha hm]

theorem checking_simulation (t : Table) :
    Simulation (fun _ _ => True) resolution (checking t) (Unchanged t)
      (fun v w => v = w ∧ Informative v) (fun s p => s.changed = false ∨ p) where
  unknown := ⟨rfl, informative_none⟩
  join := by
    rintro a _ a' _ ⟨rfl, ha⟩ ⟨rfl, ha'⟩
    exact ⟨rfl, informative_joinKnown ha ha'⟩
  guard := fun _ _ _ h => h.imp changed_step checking_step
  declareType := fun _ h _ => h
  enterFunction := fun _ h _ => h
  declareFunction := by
    rintro c n r _ ps s p _ h ⟨rfl, hr⟩ hg
    exact h.absorbs (absorbs_declareFunction _ _ _ _ _) (fun _ => admits_of_mem_returnInflows hr)
      Iff.rfl hg
  useType := fun _ h hg => h.absorbs (.emit _ _) nofun (by simp [checking]) hg
  bind := by
    rintro c n v _ s p _ h ⟨rfl, _⟩ hg
    refine h.absorbs (absorbs_bindVariable _ _ _ _ _) (fun _ => admits_of_mem_bindInflows) ?_ hg
    rw [h.table]
    exact Iff.rfl
  bindAttribute := by
    rintro c n o _ v _ s p _ h ⟨rfl, _⟩ ⟨rfl, _⟩ hg
    refine h.absorbs (absorbs_bindVariable _ _ _ _ _) (fun _ => admits_of_mem_bindInflows) ?_ hg
    rw [h.table]
    exact Iff.rfl
  parameter := by
    intro c n s p _ h hg
    exact ⟨rfl, h.absorbs (absorbs_bindVariable s c n .lexical none) nofun Iff.rfl hg⟩
  read := by
    intro c n s p _ h hg
    have hv : (readVariable c n .lexical s).1 = readValue t c n .lexical := by
      rw [readVariable_value, h.table]
    exact ⟨⟨hv, hv ▸ informative_readValue _ _ _ _⟩,
      h.absorbs (absorbs_readVariable _ _ _ _) nofun (by simp [checking]) hg⟩
  readAttribute := by
    rintro c n o _ s p _ h ⟨rfl, _⟩ hg
    have hv : (readVariable c n (.attribute o) s).1 = readValue t c n (.attribute o) := by
      rw [readVariable_value, h.table]
    exact ⟨⟨hv, hv ▸ informative_readValue _ _ _ _⟩,
      h.absorbs (absorbs_readVariable _ _ _ _) nofun (by simp [checking]) hg⟩
  call := by
    rintro c k ns f _ args args' named named' s p _ h ⟨rfl, _⟩ hargs hnamed hg
    obtain ⟨rfl, _⟩ := Invariant.forall₂_diagonal id hargs
    obtain ⟨rfl, _⟩ := Invariant.forall₂_diagonal (A := fun a => Informative a.2)
      (fun h => ⟨Prod.ext h.1 h.2.1, h.2.2⟩) hnamed
    have hv : (call f args named s).1 = callValue t f := by rw [call_value, h.table]
    refine ⟨⟨hv, hv ▸ informative_callValue _ _⟩,
      h.absorbs (absorbs_call _ _ _ _) (fun _ => admits_of_mem_callInflows) ?_ hg⟩
    rw [h.table]
    exact Iff.rfl

/-- A resolution reports no change exactly when the check of its table succeeds. -/
theorem resolve_unchanged_iff (t : Table) (m : SourceModule) :
    (resolve t m).2.2 = false ↔ Satisfies t m := by
  have hsim := fun hg => (checking_simulation t).runModule_related (m := m) (a := ⟨t, #[], false⟩)
    (b := True) (fun _ _ => trivial) ⟨rfl, rfl, trivial⟩ hg
  exact ⟨fun h => (hsim (Or.inl h)).holds, fun h => (hsim (Or.inr h)).changed⟩

theorem resolutionRound_unchanged_iff_satisfies (t : Table) (ms : List SourceModule) :
    (resolutionRound t ms).2.changed = false ↔ ∀ m ∈ ms, Satisfies t m := by
  induction ms with
  | nil => exact ⟨fun _ => nofun, fun _ => rfl⟩
  | cons m ms ih =>
    rw [List.forall_mem_cons, ← resolve_unchanged_iff, ← ih]
    show ((resolve t m).2.2 || (resolutionRound (resolve t m).1 ms).2.changed) = false ↔ _
    rw [Bool.or_eq_false_iff]
    refine and_congr_right fun hm => ?_
    rw [(resolve_changed_eq_false_iff t m).mp hm]

end NameFlow.Flow
