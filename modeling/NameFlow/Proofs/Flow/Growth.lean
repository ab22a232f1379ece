import NameFlow.Flow.Round
import NameFlow.Proofs.Flow.Inflow
import NameFlow.Proofs.Flow.Simulation

/-!
# Growth of the table in a round

A resolution sends only inflows that the table admits: they go to keys that exist, or bring a
value to a return slot. The table therefore keeps its keys, every set grows at its end, and the
report of a change is exact. That a return slot never appears unreported rests on what is known
of an expression never being an empty set.
-/

namespace NameFlow

set_option autoImplicit false

namespace Table

variable {t u w : Table}

/-- The keys are the same, sets grew at their ends, and return slots opened with a value. -/
structure Grows (t u : Table) : Prop where
  shape : t.SameShape u
  kept : ∀ slot s, t.slot? slot = some s → ∃ s', u.slot? slot = some s' ∧ s.toList <+: s'.toList
  opened : ∀ slot s', t.slot? slot = none → u.slot? slot = some s' → s'.toList ≠ []

/-- Some slot holds a value that it did not hold. -/
def Gained (t u : Table) : Prop := ∃ slot i, i ∈ u.held slot ∧ ¬ i ∈ t.held slot

namespace Grows

theorem refl (t : Table) : t.Grows t where
  shape := .refl t
  kept := fun _ s h => ⟨s, h, List.prefix_rfl⟩
  opened := fun slot s' hn hs => by rw [hn] at hs; exact nomatch hs

theorem trans (htu : t.Grows u) (huw : u.Grows w) : t.Grows w where
  shape := htu.shape.trans huw.shape
  kept := by
    intro slot s hs
    obtain ⟨s', hs', hp⟩ := htu.kept slot s hs
    obtain ⟨s'', hs'', hp'⟩ := huw.kept slot s' hs'
    exact ⟨s'', hs'', hp.trans hp'⟩
  opened := by
    intro slot s'' hn hs''
    cases hu : u.slot? slot with
    | none => exact huw.opened slot s'' hu hs''
    | some s' =>
      obtain ⟨r, hr, hp⟩ := huw.kept slot s' hu
      obtain rfl := Option.some.inj (hr.symm.trans hs'')
      intro he
      rw [he] at hp
      exact htu.opened slot s' hn hu (List.prefix_nil.mp hp)

theorem le (h : t.Grows u) : t ≤ u := by
  intro slot s hs
  obtain ⟨s', hs', tail, htail⟩ := h.kept slot s hs
  refine ⟨s', hs', fun i hi => ?_⟩
  obtain ⟨v, hv, rfl⟩ := ValueSet.mem_iff.mp hi
  exact ValueSet.identity_mem (htail ▸ List.mem_append_left tail hv)

theorem receive {f : Inflow} (ha : t.Admits f) : t.Grows (t.receive f) where
  shape := .receive fun key hk => by
    unfold Admits at ha
    rwa [hk] at ha
  kept := by
    intro slot s hs
    rw [slot?_receive]
    split
    · rename_i hslot
      rw [hslot, held_of_slot? hs]
      exact ⟨_, rfl, ValueSet.prefix_union s f.values⟩
    · exact ⟨s, hs, List.prefix_rfl⟩
  opened := by
    intro slot s' hn hs'
    rw [slot?_receive] at hs'
    split at hs'
    · rename_i hslot
      obtain ⟨target, values⟩ := f
      obtain rfl : target = slot := hslot
      cases target with
      | entry key =>
        -- an admitted inflow opens no key
        have hk : (t.slot? (.entry key)).isSome = true := ha
        rw [hn] at hk
        exact nomatch hk
      | returned key =>
        obtain ⟨v, hv⟩ := List.exists_mem_of_ne_nil _ ha
        intro he
        have hm : v.identity ∈ s' := by
          rw [← Option.some.inj hs']
          exact ValueSet.mem_union.mpr (Or.inr (ValueSet.identity_mem hv))
        obtain ⟨v', hv', _⟩ := ValueSet.mem_iff.mp hm
        rw [he] at hv'
        exact List.not_mem_nil hv'
    · rw [hn] at hs'
      exact nomatch hs'

end Grows

theorem Admits.congr {f : Inflow} (h : t.SameShape u) (ha : t.Admits f) : u.Admits f := by
  obtain ⟨slot, values⟩ := f
  cases slot with
  | entry key => exact (h.contains key).trans ha
  | returned key => exact ha

theorem grows_receiveAll {fs : List Inflow} (ha : ∀ f ∈ fs, t.Admits f) :
    t.Grows (t.receiveAll fs) := by
  induction fs generalizing t with
  | nil => exact .refl t
  | cons f fs ih =>
    have hf := Grows.receive (ha f List.mem_cons_self)
    exact hf.trans (ih fun g hg => (ha g (List.mem_cons_of_mem f hg)).congr hf.shape)

/-- An admitted inflow that is met leaves the table exactly as it is. -/
theorem receive_eq_self {f : Inflow} (ha : t.Admits f) (hm : t.Meets f) : t.receive f = t := by
  have hex : ∃ s, t.slot? f.slot = some s := by
    obtain ⟨slot, values⟩ := f
    cases slot with
    | entry key => exact Option.isSome_iff_exists.mp ha
    | returned key =>
      obtain ⟨v, hv⟩ := List.exists_mem_of_ne_nil _ ha
      obtain ⟨s, hs, _⟩ := exists_slot?_of_mem (hm v.identity (ValueSet.identity_mem hv))
      exact ⟨s, hs⟩
  obtain ⟨s, hs⟩ := hex
  have hsame : s.union f.values = s := ValueSet.union_of_subset (held_of_slot? hs ▸ hm)
  obtain ⟨slot, values⟩ := f
  obtain ⟨entries, returns, signatures⟩ := t
  cases slot with
  | entry key => exact congrArg (Table.mk · returns signatures) (OrderedMap.update_eq_self hs hsame)
  | returned key =>
    exact congrArg (Table.mk entries · signatures) (OrderedMap.update_eq_self hs hsame)

theorem receiveAll_eq_self {fs : List Inflow} (ha : ∀ f ∈ fs, t.Admits f)
    (hm : ∀ f ∈ fs, t.Meets f) : t.receiveAll fs = t := by
  induction fs with
  | nil => rfl
  | cons f fs ih =>
    rw [List.forall_mem_cons] at ha hm
    exact (congrArg (receiveAll · fs) (receive_eq_self ha.1 hm.1)).trans (ih ha.2 hm.2)

theorem meets_of_mem_receiveAll {fs : List Inflow} (ha : ∀ f ∈ fs, t.Admits f) {f : Inflow}
    (hf : f ∈ fs) : (t.receiveAll fs).Meets f := by
  induction fs generalizing t with
  | nil => exact absurd hf List.not_mem_nil
  | cons g fs ih =>
    rw [List.forall_mem_cons] at ha
    have hg := Grows.receive ha.1
    have hrest : ∀ f ∈ fs, (t.receive g).Admits f := fun f hf => (ha.2 f hf).congr hg.shape
    rcases List.mem_cons.mp hf with rfl | hf
    · have hmet : (t.receive f).Meets f := by
        unfold Meets
        rw [held_receive, if_pos rfl]
        exact fun i hi => ValueSet.mem_union.mpr (Or.inr hi)
      exact ValueSet.Subset.trans hmet (held_subset (grows_receiveAll hrest).le f.slot)
    · exact ih hrest hf

theorem Gained.mono (h : t.Gained u) (hle : u ≤ w) : t.Gained w := by
  obtain ⟨slot, i, hi, hn⟩ := h
  exact ⟨slot, i, held_subset hle slot i hi, hn⟩

end Table

namespace Flow

open Python Resolution

/-- How far a resolution that started on a table has come. -/
structure Progress (t : Table) (s : Resolution.State) : Prop where
  grows : t.Grows s.table
  same : s.changed = false → s.table = t
  gained : s.changed = true → t.Gained s.table

namespace Progress

variable {t : Table} {s s' : Resolution.State} {fs : List Inflow}

theorem absorbs (h : Progress t s) (hs : Absorbs s fs s') (ha : ∀ f ∈ fs, s.table.Admits f) :
    Progress t s' where
  grows := hs.table ▸ h.grows.trans (Table.grows_receiveAll ha)
  same := by
    intro hc
    obtain ⟨hc, hm⟩ := hs.changed.mp hc
    rw [hs.table, Table.receiveAll_eq_self ha hm, h.same hc]
  gained := by
    intro hc
    have hgrows := Table.grows_receiveAll ha
    rw [hs.table]
    by_cases hold : s.changed = true
    · exact (h.gained hold).mono hgrows.le
    · rw [Bool.not_eq_true] at hold
      -- the state was unchanged so far, so that one of the new inflows was not met
      have hunmet : ¬ ∀ f ∈ fs, s.table.Meets f := by
        intro hall
        have hfalse := hs.changed.mpr ⟨hold, hall⟩
        rw [hc] at hfalse
        exact nomatch hfalse
      obtain ⟨f, hf⟩ := Classical.not_forall.mp hunmet
      obtain ⟨hf, hn⟩ := Classical.not_imp.mp hf
      obtain ⟨i, hi, hnew⟩ := ValueSet.exists_mem_of_not_subset hn
      rw [h.same hold] at hnew
      exact ⟨f.slot, i, Table.meets_of_mem_receiveAll ha hf i hi, hnew⟩

theorem invariant (t : Table) : Invariant (fun _ _ => True) resolution (Progress t) Informative where
  unknown := informative_none
  join := informative_joinKnown
  declareType := fun _ h => h
  enterFunction := fun _ h => h
  declareFunction := fun _ h hr =>
    h.absorbs (absorbs_declareFunction _ _ _ _ _) fun _ => admits_of_mem_returnInflows hr
  useType := fun _ h => h.absorbs (.emit _ _) nofun
  bind := fun _ h _ =>
    h.absorbs (absorbs_bindVariable _ _ _ _ _) fun _ => admits_of_mem_bindInflows
  bindAttribute := fun _ h _ _ =>
    h.absorbs (absorbs_bindVariable _ _ _ _ _) fun _ => admits_of_mem_bindInflows
  parameter := fun _ h => h
  read := fun _ h => ⟨by
    show Informative (readVariable _ _ _ _).1
    rw [readVariable_value]
    exact informative_readValue _ _ _ _, h.absorbs (absorbs_readVariable _ _ _ _) nofun⟩
  readAttribute := fun _ h _ => ⟨by
    show Informative (readVariable _ _ _ _).1
    rw [readVariable_value]
    exact informative_readValue _ _ _ _, h.absorbs (absorbs_readVariable _ _ _ _) nofun⟩
  call := fun _ h _ _ _ => ⟨by
    show Informative (call _ _ _ _).1
    rw [call_value]
    exact informative_callValue _ _,
    h.absorbs (absorbs_call _ _ _ _) fun _ => admits_of_mem_callInflows⟩

theorem resolve (t : Table) (m : SourceModule) :
    Progress t (runModule resolution m ⟨t, #[], false⟩) :=
  (invariant t).runModule (fun _ _ => trivial) ⟨.refl t, fun _ => rfl, nofun⟩

end Progress

theorem resolve_grows (t : Table) (m : SourceModule) : t.Grows (resolve t m).1 :=
  (Progress.resolve t m).grows

theorem resolve_changed_eq_false_iff (t : Table) (m : SourceModule) :
    (resolve t m).2.2 = false ↔ (resolve t m).1 = t := by
  constructor
  · exact (Progress.resolve t m).same
  · intro h
    by_contra hc
    obtain ⟨slot, i, hi, hn⟩ := (Progress.resolve t m).gained (Bool.not_eq_false _ ▸ hc)
    exact hn (h ▸ hi)

/-- One module's resolution within a round, with the tables before and after it. -/
structure Pass where
  file : SourceModule
  before : Table
  after : Table

/-- The resolutions of a round, in order. -/
def passes (t : Table) : List SourceModule → List Pass
  | [] => []
  | m :: ms => ⟨m, t, (resolve t m).1⟩ :: passes (resolve t m).1 ms

theorem resolutionRound_grows (t : Table) (ms : List SourceModule) :
    t.Grows (resolutionRound t ms).1 := by
  induction ms generalizing t with
  | nil => exact .refl t
  | cons m ms ih => exact (resolve_grows t m).trans (ih (resolve t m).1)

theorem resolutionRound_same {t : Table} {ms : List SourceModule}
    (hc : (resolutionRound t ms).2.changed = false) : (resolutionRound t ms).1 = t := by
  induction ms generalizing t with
  | nil => rfl
  | cons m ms ih =>
    obtain ⟨hm, hms⟩ := Bool.or_eq_false_iff.mp hc
    have ht := (resolve_changed_eq_false_iff t m).mp hm
    exact (ih hms).trans ht

theorem resolutionRound_gained {t : Table} {ms : List SourceModule}
    (hc : (resolutionRound t ms).2.changed = true) : t.Gained (resolutionRound t ms).1 := by
  induction ms generalizing t with
  | nil => exact nomatch hc
  | cons m ms ih =>
    by_cases hm : (resolve t m).2.2 = true
    · exact ((Progress.resolve t m).gained hm).mono (resolutionRound_grows (resolve t m).1 ms).le
    · rw [Bool.not_eq_true] at hm
      have ht := (resolve_changed_eq_false_iff t m).mp hm
      have hms : (resolutionRound (resolve t m).1 ms).2.changed = true := by
        have hor : ((resolve t m).2.2 || (resolutionRound (resolve t m).1 ms).2.changed) = true := hc
        rwa [hm, Bool.false_or] at hor
      have hrest := ih hms
      show t.Gained (resolutionRound (resolve t m).1 ms).1
      rw [ht] at hrest ⊢
      exact hrest

open scoped Classical in
theorem changedModules_eq (t : Table) (ms : List SourceModule) :
    (resolutionRound t ms).2.changedModules =
      ((passes t ms).filter fun p => p.after ≠ p.before).map (·.file.path) := by
  induction ms generalizing t with
  | nil => rfl
  | cons m ms ih =>
    have hflag := resolve_changed_eq_false_iff t m
    have htail := ih (resolve t m).1
    show (if (resolve t m).2.2 then m.path :: (resolutionRound (resolve t m).1 ms).2.changedModules
      else (resolutionRound (resolve t m).1 ms).2.changedModules) = _
    rw [passes, List.filter_cons]
    cases hc : (resolve t m).2.2 with
    | false =>
      have he := hflag.mp hc
      rw [if_neg Bool.false_ne_true, if_neg (by simp [he])]
      exact htail
    | true =>
      have hne : (resolve t m).1 ≠ t := fun h => by
        rw [hflag.mpr h] at hc
        exact nomatch hc
      rw [if_pos rfl, if_pos (decide_eq_true hne), List.map_cons, htail]

open scoped Classical in
/-- A round only grows value sets, and it reports exactly what it changed. -/
theorem resolutionRound_grows_and_reports (t : Table) (ms : List SourceModule) :
    let t' := (resolutionRound t ms).1
    let round := (resolutionRound t ms).2
    t'.entries.keys = t.entries.keys ∧ t'.signatures = t.signatures ∧
    (∀ key s, t.entries.get? key = some s →
      ∃ s', t'.entries.get? key = some s' ∧ s.toList <+: s'.toList ∧ s'.identities.Nodup) ∧
    (∀ key s, t.returns.get? key = some s →
      ∃ s', t'.returns.get? key = some s' ∧ s.toList <+: s'.toList ∧ s'.identities.Nodup) ∧
    (∀ key s', t.returns.get? key = none → t'.returns.get? key = some s' → s'.toList ≠ []) ∧
    (round.changed = false ↔ t' = t) ∧
    (round.changed = true ↔
      (∃ key i, i ∈ t'.held (.entry key) ∧ ¬ i ∈ t.held (.entry key)) ∨
      (∃ key i, i ∈ t'.held (.returned key) ∧ ¬ i ∈ t.held (.returned key))) ∧
    round.changedModules =
      ((passes t ms).filter fun p => p.after ≠ p.before).map (·.file.path) := by
  intro t' round
  have hgrows := resolutionRound_grows t ms
  have hlost : t.Gained t' → t' ≠ t := by
    rintro ⟨slot, i, hi, hn⟩ he
    exact hn (he ▸ hi)
  have hkept : ∀ slot s, t.slot? slot = some s →
      ∃ s', t'.slot? slot = some s' ∧ s.toList <+: s'.toList ∧ s'.identities.Nodup := by
    intro slot s hs
    obtain ⟨s', hs', hp⟩ := hgrows.kept slot s hs
    exact ⟨s', hs', hp, s'.nodup⟩
  refine ⟨hgrows.shape.keys, hgrows.shape.signatures, fun key => hkept (.entry key),
    fun key => hkept (.returned key), fun key => hgrows.opened (.returned key), ?_, ?_,
    changedModules_eq t ms⟩
  · constructor
    · exact resolutionRound_same
    · intro he
      by_contra hc
      exact hlost (resolutionRound_gained (Bool.not_eq_false _ ▸ hc)) he
  · constructor
    · intro hc
      obtain ⟨slot, i, hi, hn⟩ := resolutionRound_gained hc
      cases slot with
      | entry key => exact Or.inl ⟨key, i, hi, hn⟩
      | returned key => exact Or.inr ⟨key, i, hi, hn⟩
    · intro h
      have hg : t.Gained t' := by
        rcases h with ⟨key, i, hi, hn⟩ | ⟨key, i, hi, hn⟩
        · exact ⟨.entry key, i, hi, hn⟩
        · exact ⟨.returned key, i, hi, hn⟩
      by_contra hc
      exact hlost hg (resolutionRound_same (Bool.not_eq_true _ ▸ hc))

end Flow

end NameFlow
