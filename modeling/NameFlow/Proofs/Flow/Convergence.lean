import Mathlib.Data.List.Dedup
import Mathlib.Data.List.ProdSigma
import NameFlow.Proofs.Flow.FileOrder
import NameFlow.Proofs.Flow.Registration
import NameFlow.Proofs.Flow.Rounds

/-!
# How many rounds it takes

The definitions fix the keys, the return slots and the values once and for all: a resolution only
fills slots that exist with values that occur. Every round that reports a change fills at least
one more pair of a slot and a value, so that there are at most as many of them as there are pairs.
-/

namespace NameFlow

set_option autoImplicit false

namespace Table

variable {t u : Table}

section Pairs

/-- Every key and every return slot. -/
def slots (t : Table) : List Slot := t.entries.keys.map .entry ++ t.returns.keys.map .returned

theorem mem_slots_iff {slot : Slot} : slot ∈ t.slots ↔ (t.slot? slot).isSome = true := by
  unfold slots
  rw [List.mem_append]
  cases slot with
  | entry key =>
    show _ ↔ t.entries.contains key = true
    simp [OrderedMap.contains_iff]
  | returned key =>
    show _ ↔ t.returns.contains key = true
    simp [OrderedMap.contains_iff]

theorem length_slots (t : Table) : t.slots.length = t.entries.size + t.returns.size := by
  simp [slots, OrderedMap.keys, OrderedMap.size]

/-- What occurs in one of the sets, each identity once. -/
def occurring (t : Table) : List Identity :=
  (t.slots.flatMap fun slot => (t.held slot).identities).dedup

theorem mem_slots_of_mem_held {slot : Slot} {i : Identity} (h : i ∈ t.held slot) :
    slot ∈ t.slots := by
  obtain ⟨s, hs, _⟩ := exists_slot?_of_mem h
  rw [mem_slots_iff, hs]
  rfl

theorem mem_occurring_iff {i : Identity} : i ∈ t.occurring ↔ ∃ slot, i ∈ t.held slot := by
  unfold occurring
  rw [List.mem_dedup, List.mem_flatMap]
  constructor
  · rintro ⟨slot, _, hi⟩
    exact ⟨slot, hi⟩
  · rintro ⟨slot, hi⟩
    exact ⟨slot, mem_slots_of_mem_held hi, hi⟩

instance (i : Identity) (s : ValueSet) : Decidable (i ∈ s) :=
  inferInstanceAs (Decidable (i ∈ s.identities))

/-- How many of the pairs of a slot and a value the table has. -/
def filled (slots : List Slot) (values : List Identity) (t : Table) : Nat :=
  (slots ×ˢ values).countP fun p => decide (p.2 ∈ t.held p.1)

theorem filled_le (slots : List Slot) (values : List Identity) (t : Table) :
    t.filled slots values ≤ slots.length * values.length := by
  rw [← List.length_product]
  exact List.countP_le_length

theorem countP_held_le (h : t ≤ u) (pairs : List (Slot × Identity)) :
    pairs.countP (fun p => decide (p.2 ∈ t.held p.1)) ≤
      pairs.countP (fun p => decide (p.2 ∈ u.held p.1)) := by
  apply List.countP_mono_left
  intro p _ hp
  exact decide_eq_true (held_subset h p.1 p.2 (of_decide_eq_true hp))

theorem filled_mono (slots : List Slot) (values : List Identity) (h : t ≤ u) :
    t.filled slots values ≤ u.filled slots values := countP_held_le h (slots ×ˢ values)

/-- A table with a new value fills more of the pairs if the new one is among them. -/
theorem filled_lt {slots : List Slot} {values : List Identity} (h : t ≤ u) {slot : Slot}
    {i : Identity} (hslot : slot ∈ slots) (hi : i ∈ values) (hnew : i ∈ u.held slot)
    (hold : ¬ i ∈ t.held slot) : t.filled slots values < u.filled slots values := by
  obtain ⟨before, after, hsplit⟩ := List.append_of_mem (List.mem_product.mpr ⟨hslot, hi⟩)
  have hbefore := countP_held_le h before
  have hafter := countP_held_le h after
  unfold filled
  rw [hsplit, List.countP_append, List.countP_append, List.countP_cons_of_neg (by simpa using hold),
    List.countP_cons_of_pos (by simpa using hnew)]
  omega

end Pairs

/-- No return slot is opened by inflows to keys and to return slots that exist. -/
theorem returns_keys_receiveAll {fs : List Inflow}
    (h : ∀ f ∈ fs, ∀ key, f.slot = .returned key → key ∈ t.returns.keys) :
    (t.receiveAll fs).returns.keys = t.returns.keys := by
  induction fs generalizing t with
  | nil => rfl
  | cons f fs ih =>
    rw [List.forall_mem_cons] at h
    have hone : (t.receive f).returns.keys = t.returns.keys := by
      obtain ⟨slot, values⟩ := f
      cases slot with
      | entry key => rfl
      | returned key =>
        exact OrderedMap.keys_update_of_contains (OrderedMap.contains_iff.mpr (h.1 key rfl)) _
    have hrest := h.2
    rw [← hone] at hrest
    exact (ih hrest).trans hone

end Table

namespace Flow

open Python Resolution

section Closed

theorem Resolution.Absorbs.returns_keys {s s' : Resolution.State} {fs : List Inflow}
    (h : Absorbs s fs s')
    (hfs : ∀ f ∈ fs, ∀ key, f.slot = .returned key → key ∈ s.table.returns.keys) :
    s'.table.returns.keys = s.table.returns.keys := by
  rw [h.table]
  exact Table.returns_keys_receiveAll hfs

theorem slot_ne_returned_of_mem_bindInflows {t : Table} {f : Inflow} {c : ScopeChain}
    {name : String} {site : Site} {v : Option ValueSet} (h : f ∈ bindInflows t c name site v)
    (key : String) : f.slot ≠ .returned key := by
  obtain ⟨_, _, hentry, _⟩ := mem_bindInflows h
  rw [hentry]
  exact Slot.noConfusion

theorem slot_ne_returned_of_mem_callInflows {t : Table} {f : Inflow} {callee : Option ValueSet}
    {args : List (Option ValueSet)} {named : List (String × Option ValueSet)}
    (h : f ∈ callInflows t callee args named) (key : String) : f.slot ≠ .returned key := by
  obtain ⟨_, _, _, _, _, _, hentry, _⟩ := mem_callInflows h
  rw [hentry]
  exact Slot.noConfusion

/-- A resolution opens no return slot on a table that holds what its steps enter. -/
theorem returns_invariant (t : Table) :
    Invariant (fun c x => Enters c x t) resolution (fun s => s.table.returns.keys = t.returns.keys)
      (fun _ => True) where
  unknown := trivial
  join := fun _ _ => trivial
  declareType := fun _ h => h
  enterFunction := fun _ h => h
  declareFunction := by
    intro c n r ps s hx h _
    refine ((absorbs_declareFunction s c.leave n r ps).returns_keys fun f hf key hkey => ?_).trans h
    obtain rfl := Slot.returned.inj (hkey.symm.trans (mem_returnInflows hf).1)
    rw [h]
    exact OrderedMap.contains_iff.mp hx.1
  useType := fun _ h => h
  bind := fun _ h _ => ((absorbs_bindVariable _ _ _ _ _).returns_keys fun _ hf key hkey =>
    absurd hkey (slot_ne_returned_of_mem_bindInflows hf key)).trans h
  bindAttribute := fun _ h _ _ => ((absorbs_bindVariable _ _ _ _ _).returns_keys fun _ hf key hkey =>
    absurd hkey (slot_ne_returned_of_mem_bindInflows hf key)).trans h
  parameter := fun _ h => h
  read := fun _ h => ⟨trivial, ((absorbs_readVariable _ _ _ _).returns_keys nofun).trans h⟩
  readAttribute := fun _ h _ =>
    ⟨trivial, ((absorbs_readVariable _ _ _ _).returns_keys nofun).trans h⟩
  call := fun _ h _ _ _ => ⟨trivial, ((absorbs_call _ _ _ _).returns_keys fun _ hf key hkey =>
    absurd hkey (slot_ne_returned_of_mem_callInflows hf key)).trans h⟩

variable {ms schedule : List SourceModule}

theorem resolveAll_returns_keys {t u : Table} (hu : u.returns.keys = t.returns.keys)
    (hs : ∀ m ∈ schedule, ∀ v ∈ moduleVisits m, Enters v.1 v.2 t) :
    (resolveAll u schedule).returns.keys = t.returns.keys := by
  induction schedule generalizing u with
  | nil => exact hu
  | cons m schedule ih =>
    rw [List.forall_mem_cons] at hs
    exact ih ((returns_invariant t).runModule (a := ⟨u, #[], false⟩) hs.1 hu) hs.2

theorem resolveAll_slots (hs : ∀ m ∈ schedule, m ∈ ms) :
    (resolveAll (definitionRound ∅ ms).1 schedule).slots = (definitionRound ∅ ms).1.slots := by
  have hkeys := (resolveAll_grows (definitionRound ∅ ms).1 schedule).shape.keys
  have hreturns : (resolveAll (definitionRound ∅ ms).1 schedule).returns.keys =
      (definitionRound ∅ ms).1.returns.keys :=
    resolveAll_returns_keys rfl fun m hm => definitionRound_enters ∅ ms m (hs m hm)
  unfold Table.slots
  rw [hreturns]
  exact congrArg (fun keys => keys.map Slot.entry ++ _) hkeys

/-- Resolutions only move values that are there. -/
theorem resolveAll_values (t : Table) (schedule : List SourceModule) :
    (resolveAll t schedule).All (OccursIn t) :=
  resolveAll_all (fun slot _ hv => ⟨slot, hv⟩) schedule

theorem occurring_resolveAll {t : Table} {schedule : List SourceModule} {i : Identity}
    (hi : i ∈ (resolveAll t schedule).occurring) : i ∈ t.occurring := by
  obtain ⟨slot, hi⟩ := Table.mem_occurring_iff.mp hi
  obtain ⟨v, hv, rfl⟩ := ValueSet.mem_iff.mp hi
  obtain ⟨slot', hv'⟩ := resolveAll_values t schedule slot v hv
  exact Table.mem_occurring_iff.mpr ⟨slot', ValueSet.identity_mem hv'⟩

end Closed

section Counting

variable (ms : List SourceModule)

theorem afterRounds_schedule (t : Table) (k : Nat) :
    ∃ schedule, (∀ m ∈ schedule, m ∈ ms) ∧ afterRounds ms t k = resolveAll t schedule := by
  induction k with
  | zero => exact ⟨[], nofun, rfl⟩
  | succ k ih =>
    obtain ⟨schedule, hs, hk⟩ := ih
    refine ⟨schedule ++ ms, ?_, ?_⟩
    · intro m hm
      rcases List.mem_append.mp hm with hm | hm
      · exact hs m hm
      · exact hm
    · show (resolutionRound (afterRounds ms t k) ms).1 = _
      rw [resolutionRound_table, hk]
      exact List.foldl_append.symm

/-- A round that reports a change fills a new pair of a slot and a value of the definitions. -/
theorem filled_nthRound {t : Table} (ht : t = (definitionRound ∅ ms).1) {k : Nat}
    (hc : (nthRound ms t k).changed = true) :
    (afterRounds ms t k).filled t.slots t.occurring <
      (afterRounds ms t (k + 1)).filled t.slots t.occurring := by
  obtain ⟨slot, i, hnew, hold⟩ := resolutionRound_gained hc
  obtain ⟨schedule, hs, hafter⟩ := afterRounds_schedule ms t (k + 1)
  have hnew : i ∈ (afterRounds ms t (k + 1)).held slot := hnew
  have hslot : slot ∈ t.slots := by
    have hmem := Table.mem_slots_of_mem_held hnew
    rw [hafter, ht, resolveAll_slots hs] at hmem
    rwa [ht]
  have hi : i ∈ t.occurring := by
    have hmem := Table.mem_occurring_iff.mpr ⟨slot, hnew⟩
    rw [hafter] at hmem
    exact occurring_resolveAll hmem
  exact Table.filled_lt (afterRounds_grows ms t (Nat.le_succ k)).le hslot hi hnew hold

theorem countP_changed_le {t : Table} (ht : t = (definitionRound ∅ ms).1) (n : Nat) :
    (List.range n).countP (fun k => (nthRound ms t k).changed) ≤
      (afterRounds ms t n).filled t.slots t.occurring := by
  induction n with
  | zero => exact Nat.zero_le _
  | succ n ih =>
    rw [List.range_succ, List.countP_append, List.countP_singleton]
    cases hc : (nthRound ms t n).changed with
    | true =>
      have hlt := filled_nthRound ms ht hc
      simp only [if_true]
      omega
    | false =>
      have hmono := Table.filled_mono t.slots t.occurring
        (afterRounds_grows ms t (Nat.le_add_right n 1)).le
      simp only [Bool.false_eq_true, if_false]
      omega

end Counting

/-- Resolutions stay within the keys, the return slots and the values of the definitions, and so
at most as many rounds change something as there are pairs of a slot and a value. -/
theorem fixpoint_converges (ms : List SourceModule) :
    let t := (definitionRound ∅ ms).1
    let bound := (t.entries.size + t.returns.size) * t.occurring.length
    (∀ schedule, (∀ m ∈ schedule, m ∈ ms) →
      let u := resolveAll t schedule
      u.entries.keys = t.entries.keys ∧ u.returns.keys = t.returns.keys ∧
        ∀ v, OccursIn u v → OccursIn t v) ∧
    (∀ n, (List.range n).countP (fun k => (nthRound ms t k).changed) ≤ bound) ∧
    ∀ n, bound < n →
      (fixpoint n t ms).converged = true ∧ (fixpoint n t ms).iterations ≤ bound + 1 := by
  intro t bound
  have hcount : ∀ n, (List.range n).countP (fun k => (nthRound ms t k).changed) ≤ bound := by
    intro n
    have hfilled := Table.filled_le t.slots t.occurring (afterRounds ms t n)
    rw [Table.length_slots] at hfilled
    exact Nat.le_trans (countP_changed_le ms rfl n) hfilled
  have hconverged : ∀ n, bound < n → (fixpoint n t ms).converged = true := by
    intro n hn
    by_contra hc
    obtain ⟨_, hchanged⟩ := (fixpoint_recounts n t ms).exhausted (Bool.not_eq_true _ ▸ hc)
    -- all rounds of the budget would have changed something
    have hall : (List.range n).countP (fun k => (nthRound ms t k).changed) = n := by
      rw [List.countP_eq_length.mpr fun k hk => hchanged k (List.mem_range.mp hk), List.length_range]
    have hbound := hcount n
    omega
  refine ⟨fun schedule hs => ?_, hcount, fun n hn => ⟨hconverged n hn, ?_⟩⟩
  · exact ⟨(resolveAll_grows t schedule).shape.keys,
      resolveAll_returns_keys rfl fun m hm => definitionRound_enters ∅ ms m (hs m hm),
      fun v ⟨slot, hv⟩ => resolveAll_values t schedule slot v hv⟩
  · have hleast := hconverged (bound + 1) (Nat.lt_succ_self bound)
    rw [fixpoint_of_converged hleast hn]
    exact (fixpoint_recounts (bound + 1) t ms).within

end Flow

end NameFlow
