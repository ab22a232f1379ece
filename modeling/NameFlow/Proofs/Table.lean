import NameFlow.Proofs.OrderedMap
import NameFlow.Proofs.ValueSet
import NameFlow.Table

/-!
# The table as a family of slots

A slot is a key or the returned values of a function key. Tables are ordered by inclusion of
their slots. Every write of a resolution is the arrival of values at a slot, an inflow; a table
that holds the values already is not changed by it. Beside the slots a table has the parameter
lists of each function key, which grow on their own.
-/

namespace NameFlow

set_option autoImplicit false

/-- A part of the table that holds a set of values. -/
inductive Slot
  | entry (key : String)
  | returned (key : String)
deriving DecidableEq

/-- Values that arrive at a slot. -/
structure Inflow where
  slot : Slot
  values : ValueSet

namespace Table

variable {t u w : Table}

def slot? (t : Table) : Slot → Option ValueSet
  | .entry key => t.entries.get? key
  | .returned key => t.returns.get? key

/-- What a slot holds; a missing slot holds nothing. -/
def held (t : Table) (slot : Slot) : ValueSet := (t.slot? slot).getD ∅

theorem held_of_slot? {slot : Slot} {s : ValueSet} (h : t.slot? slot = some s) :
    t.held slot = s := by rw [held, h]; rfl

theorem exists_slot?_of_mem {slot : Slot} {i : Identity} (h : i ∈ t.held slot) :
    ∃ s, t.slot? slot = some s ∧ i ∈ s := by
  unfold held at h
  cases hs : t.slot? slot with
  | none => rw [hs] at h; exact absurd h (ValueSet.not_mem_empty i)
  | some s => rw [hs] at h; exact ⟨s, rfl, h⟩

section Order

instance : LE Table :=
  ⟨fun t u => ∀ slot s, t.slot? slot = some s → ∃ s', u.slot? slot = some s' ∧ s ⊆ s'⟩

theorem le_refl (t : Table) : t ≤ t := fun _ s h => ⟨s, h, ValueSet.Subset.refl s⟩

theorem le_trans (htu : t ≤ u) (huw : u ≤ w) : t ≤ w := by
  intro slot s hs
  obtain ⟨s', hs', hss⟩ := htu slot s hs
  obtain ⟨s'', hs'', hss'⟩ := huw slot s' hs'
  exact ⟨s'', hs'', ValueSet.Subset.trans hss hss'⟩

theorem held_subset (h : t ≤ u) (slot : Slot) : t.held slot ⊆ u.held slot := by
  intro i hi
  obtain ⟨s, hs, hm⟩ := exists_slot?_of_mem hi
  obtain ⟨s', hs', hss⟩ := h slot s hs
  rw [held_of_slot? hs']
  exact hss i hm

theorem isSome_of_le (h : t ≤ u) (slot : Slot) (hs : (t.slot? slot).isSome = true) :
    (u.slot? slot).isSome = true := by
  obtain ⟨s, hs⟩ := Option.isSome_iff_exists.mp hs
  obtain ⟨s', hs', _⟩ := h slot s hs
  exact Option.isSome_iff_exists.mpr ⟨s', hs'⟩

theorem le_of_held (hslots : ∀ slot, (t.slot? slot).isSome = true → (u.slot? slot).isSome = true)
    (hheld : ∀ slot, t.held slot ⊆ u.held slot) : t ≤ u := by
  intro slot s hs
  obtain ⟨s', hs'⟩ := Option.isSome_iff_exists.mp (hslots slot (by rw [hs]; rfl))
  have hsub := hheld slot
  rw [held_of_slot? hs, held_of_slot? hs'] at hsub
  exact ⟨s', hs', hsub⟩

theorem contains_of_le (h : t ≤ u) {key : String} (hk : t.contains key = true) :
    u.contains key = true := isSome_of_le h (.entry key) hk

theorem covers_iff {large small : OrderedMap String ValueSet} :
    covers large small = true ↔
      ∀ key s, small.get? key = some s → ∃ s', large.get? key = some s' ∧ s ⊆ s' := by
  unfold covers
  rw [List.all_eq_true]
  constructor
  · intro h key s hs
    have hk := h (key, s) (OrderedMap.mem_toList_iff.mpr hs)
    dsimp only at hk
    cases hl : large.get? key with
    | none => rw [hl] at hk; exact nomatch hk
    | some s' => rw [hl] at hk; exact ⟨s', rfl, ValueSet.isSubset_iff.mp hk⟩
  · rintro h ⟨key, s⟩ hs
    obtain ⟨s', hs', hss⟩ := h key s (OrderedMap.mem_toList_iff.mp hs)
    dsimp only
    rw [hs']
    exact ValueSet.isSubset_iff.mpr hss

theorem includes_iff : u.includes t = true ↔ t ≤ u := by
  unfold includes
  rw [Bool.and_eq_true, covers_iff, covers_iff]
  constructor
  · rintro ⟨he, hr⟩ slot s hs
    cases slot with
    | entry key => exact he key s hs
    | returned key => exact hr key s hs
  · intro h
    exact ⟨fun key => h (.entry key), fun key => h (.returned key)⟩

end Order

section Arrival

/-- The slot holds the values of the inflow. -/
def Meets (t : Table) (f : Inflow) : Prop := f.values ⊆ t.held f.slot

def receive (t : Table) (f : Inflow) : Table :=
  match f.slot with
  | .entry key => (t.merge key f.values).1
  | .returned key => (t.mergeReturns key f.values).1

def receiveAll (t : Table) (fs : List Inflow) : Table := fs.foldl receive t

theorem receiveAll_cons (t : Table) (f : Inflow) (fs : List Inflow) :
    t.receiveAll (f :: fs) = (t.receive f).receiveAll fs := rfl

theorem receiveAll_append (t : Table) (fs gs : List Inflow) :
    t.receiveAll (fs ++ gs) = (t.receiveAll fs).receiveAll gs := List.foldl_append

theorem slot?_receive (t : Table) (f : Inflow) (slot : Slot) :
    (t.receive f).slot? slot =
      if f.slot = slot then some ((t.held f.slot).union f.values) else t.slot? slot := by
  obtain ⟨target, values⟩ := f
  cases target <;> cases slot <;>
    simp [receive, merge, mergeReturns, slot?, held, grow, OrderedMap.get?_update]

theorem held_receive (t : Table) (f : Inflow) (slot : Slot) :
    (t.receive f).held slot =
      if f.slot = slot then (t.held f.slot).union f.values else t.held slot := by
  unfold held
  rw [slot?_receive]
  split <;> rfl

/-- A slot is there if it was there before or something went to it. -/
theorem isSome_slot?_receiveAll {fs : List Inflow} {slot : Slot} :
    ((t.receiveAll fs).slot? slot).isSome = true ↔
      (t.slot? slot).isSome = true ∨ ∃ f ∈ fs, f.slot = slot := by
  induction fs generalizing t with
  | nil => simp [receiveAll]
  | cons f fs ih =>
    rw [receiveAll_cons, ih, slot?_receive]
    by_cases hslot : f.slot = slot
    · simp [hslot]
    · simp [hslot]

theorem mem_held_receiveAll {fs : List Inflow} {slot : Slot} {i : Identity} :
    i ∈ (t.receiveAll fs).held slot ↔
      i ∈ t.held slot ∨ ∃ f ∈ fs, f.slot = slot ∧ i ∈ f.values := by
  induction fs generalizing t with
  | nil => simp [receiveAll]
  | cons f fs ih =>
    rw [receiveAll_cons, ih, held_receive]
    by_cases hslot : f.slot = slot
    · simp [hslot, or_assoc]
    · simp [hslot]

/-- Also the values themselves come from before or from an inflow, not only their identities. -/
theorem mem_toList_held_receiveAll {fs : List Inflow} {slot : Slot} {v : Value}
    (h : v ∈ ((t.receiveAll fs).held slot).toList) :
    v ∈ (t.held slot).toList ∨ ∃ f ∈ fs, f.slot = slot ∧ v ∈ f.values.toList := by
  induction fs generalizing t with
  | nil => exact Or.inl h
  | cons f fs ih =>
    rcases ih h with hv | ⟨g, hg, hv⟩
    · rw [held_receive] at hv
      by_cases hslot : f.slot = slot
      · rw [if_pos hslot] at hv
        rcases ValueSet.mem_toList_union hv with hv | hv
        · exact Or.inl (hslot ▸ hv)
        · exact Or.inr ⟨f, List.mem_cons_self, hslot, hv⟩
      · rw [if_neg hslot] at hv
        exact Or.inl hv
    · exact Or.inr ⟨g, List.mem_cons_of_mem f hg, hv⟩

theorem slot?_receiveAll_congr (h : ∀ slot, t.slot? slot = u.slot? slot) (fs : List Inflow) :
    ∀ slot, (t.receiveAll fs).slot? slot = (u.receiveAll fs).slot? slot := by
  induction fs generalizing t u with
  | nil => exact h
  | cons f fs ih =>
    apply ih
    intro slot
    rw [slot?_receive, slot?_receive, held, held, h f.slot, h slot]

theorem le_receive (t : Table) (f : Inflow) : t ≤ t.receive f := by
  intro slot values hvalues
  rw [slot?_receive]
  split
  · rename_i hslot
    refine ⟨_, rfl, ?_⟩
    rw [hslot, held_of_slot? hvalues]
    exact ValueSet.subset_union_left values f.values
  · exact ⟨values, hvalues, ValueSet.Subset.refl values⟩

theorem le_receiveAll (t : Table) (fs : List Inflow) : t ≤ t.receiveAll fs := by
  induction fs generalizing t with
  | nil => exact le_refl t
  | cons f fs ih => exact le_trans (le_receive t f) (ih (t.receive f))

theorem receive_mono (h : t ≤ u) (f : Inflow) : t.receive f ≤ u.receive f := by
  intro slot values hvalues
  rw [slot?_receive] at hvalues ⊢
  split at hvalues
  · rename_i hslot
    rw [if_pos hslot]
    refine ⟨_, rfl, ?_⟩
    rw [← Option.some.inj hvalues, ValueSet.union_subset_iff]
    refine ⟨ValueSet.Subset.trans (held_subset h f.slot) (ValueSet.subset_union_left _ _), ?_⟩
    exact fun i hi => ValueSet.mem_union.mpr (Or.inr hi)
  · rename_i hslot
    rw [if_neg hslot]
    exact h slot values hvalues

theorem held_receive_of_meets {f : Inflow} (h : t.Meets f) (slot : Slot) :
    (t.receive f).held slot = t.held slot := by
  rw [held_receive]
  split
  · rename_i hs
    rw [ValueSet.union_of_subset h, hs]
  · rfl

theorem held_receiveAll_of_meets {fs : List Inflow} (h : ∀ f ∈ fs, t.Meets f) (slot : Slot) :
    (t.receiveAll fs).held slot = t.held slot := by
  induction fs generalizing t with
  | nil => rfl
  | cons f fs ih =>
    have hf := h f List.mem_cons_self
    have hfs : ∀ g ∈ fs, (t.receive f).Meets g := by
      intro g hg
      unfold Meets
      rw [held_receive_of_meets hf]
      exact h g (List.mem_cons_of_mem f hg)
    exact (ih hfs).trans (held_receive_of_meets hf slot)

theorem meets_receiveAll {fs : List Inflow} (h : ∀ f ∈ fs, t.Meets f) {g : Inflow} :
    (t.receiveAll fs).Meets g ↔ t.Meets g := by
  unfold Meets
  rw [held_receiveAll_of_meets h]

/-- An inflow goes to a key that exists, or brings a value to a return slot. -/
def Admits (t : Table) (f : Inflow) : Prop :=
  match f.slot with
  | .entry key => t.contains key = true
  | .returned _ => f.values.toList ≠ []

theorem receive_le {f : Inflow} (hle : t ≤ u) (ha : t.Admits f) (hm : u.Meets f) :
    t.receive f ≤ u := by
  intro slot s hs
  rw [slot?_receive] at hs
  split at hs
  · rename_i hslot
    subst hslot
    have hsub : s ⊆ u.held f.slot := by
      rw [← Option.some.inj hs]
      exact ValueSet.union_subset_iff.mpr ⟨held_subset hle f.slot, hm⟩
    -- the slot exists in the larger table: a key does in the smaller, a return slot holds a value
    have hex : ∃ s', u.slot? f.slot = some s' := by
      obtain ⟨target, values⟩ := f
      cases target with
      | entry key =>
        exact Option.isSome_iff_exists.mp (isSome_of_le hle (.entry key) ha)
      | returned key =>
        obtain ⟨v, hv⟩ := List.exists_mem_of_ne_nil _ ha
        obtain ⟨s', hs', _⟩ := exists_slot?_of_mem (hm v.identity (ValueSet.identity_mem hv))
        exact ⟨s', hs'⟩
    obtain ⟨s', hs'⟩ := hex
    exact ⟨s', hs', held_of_slot? hs' ▸ hsub⟩
  · exact hle slot s hs

end Arrival

section Declarations

theorem record_eq (t : Table) (key : String) (value : Option Value) :
    t.record key value = t.receive ⟨.entry key, .ofList value.toList⟩ := by
  cases value with
  | none => rfl
  | some v => rfl

/-- The parameter lists under a key. -/
def parameterLists (t : Table) (key : String) : List (List String) :=
  (t.signatures.get? key).getD []

theorem signatures_receiveAll (t : Table) (fs : List Inflow) :
    (t.receiveAll fs).signatures = t.signatures := by
  induction fs generalizing t with
  | nil => rfl
  | cons f fs ih =>
    refine (ih (t.receive f)).trans ?_
    obtain ⟨slot, values⟩ := f
    cases slot <;> rfl

theorem parameterLists_receiveAll (t : Table) (fs : List Inflow) :
    (t.receiveAll fs).parameterLists = t.parameterLists := by
  unfold parameterLists
  rw [signatures_receiveAll]

theorem slot?_recordSignature (t : Table) (f : FunctionValue) (slot : Slot) :
    (t.recordSignature f).slot? slot = t.slot? slot := by
  cases slot <;> rfl

theorem le_recordSignature (t : Table) (f : FunctionValue) : t ≤ t.recordSignature f := by
  intro slot s hs
  rw [slot?_recordSignature]
  exact le_refl t slot s hs

theorem mem_parameterLists_recordSignature {f : FunctionValue} {key : String}
    {params : List String} :
    params ∈ (t.recordSignature f).parameterLists key ↔
      params ∈ t.parameterLists key ∨ (f.key = key ∧ f.params = params) := by
  unfold recordSignature parameterLists
  rw [OrderedMap.get?_update]
  by_cases hk : f.key = key
  · rw [if_pos hk, ← hk, Option.getD_some]
    dsimp only
    split
    · rename_i hmem
      constructor
      · exact Or.inl
      · rintro (h | ⟨_, rfl⟩)
        · exact h
        · exact hmem
    · simp [eq_comm]
  · rw [if_neg hk]
    simp [hk]

theorem mem_signaturesOf_recordSignature {f g : FunctionValue} {params : List String} :
    params ∈ (t.recordSignature f).signaturesOf g ↔
      params ∈ t.signaturesOf g ∨ (f.key = g.key ∧ f.params = params) :=
  mem_parameterLists_recordSignature

theorem slot?_recordSignatures (t : Table) (fs : List FunctionValue) (slot : Slot) :
    (fs.foldl recordSignature t).slot? slot = t.slot? slot := by
  induction fs generalizing t with
  | nil => rfl
  | cons f fs ih => exact (ih (t.recordSignature f)).trans (slot?_recordSignature t f slot)

theorem mem_parameterLists_recordSignatures {fs : List FunctionValue} {key : String}
    {params : List String} :
    params ∈ (fs.foldl recordSignature t).parameterLists key ↔
      params ∈ t.parameterLists key ∨ ∃ f ∈ fs, f.key = key ∧ f.params = params := by
  induction fs generalizing t with
  | nil => simp
  | cons f fs ih =>
    rw [List.foldl_cons, ih, mem_parameterLists_recordSignature, or_assoc]
    simp only [List.mem_cons, exists_eq_or_imp]

end Declarations

end Table

end NameFlow
