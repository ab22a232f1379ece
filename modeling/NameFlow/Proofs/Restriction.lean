import NameFlow.Proofs.Table

/-!
# Tables restricted to some of their keys

A restricted table keeps the keys, return slots and parameter lists under the chosen keys, in
their order. It reads like the whole table at these keys. A write at one of them and the
restriction can be exchanged, and a write at any other key is lost.
-/

namespace NameFlow

set_option autoImplicit false

universe u v

namespace OrderedMap

variable {κ : Type u} {α : Type v}

/-- The associations of the chosen keys, in order. -/
def restrict (p : κ → Bool) (m : OrderedMap κ α) : OrderedMap κ α where
  toList := m.toList.filter fun a => p a.1
  nodup := m.nodup.sublist (List.filter_sublist.map Prod.fst)

variable [DecidableEq κ] {p : κ → Bool} {k : κ}

theorem find_filter (hk : p k = true) (l : List (κ × α)) :
    find k (l.filter fun a => p a.1) = find k l := by
  induction l with
  | nil => rfl
  | cons a rest ih =>
    obtain ⟨k', x⟩ := a
    by_cases h : k' = k
    · subst h
      simp [find, hk]
    · by_cases hp : p k' = true <;> simp [find, h, hp, ih]

theorem filter_put (p : κ → Bool) (k : κ) (f : Option α → α) (l : List (κ × α)) :
    (put k f l).filter (fun a => p a.1) =
      if p k then put k f (l.filter fun a => p a.1) else l.filter fun a => p a.1 := by
  induction l with
  | nil => by_cases hk : p k = true <;> simp [put, hk]
  | cons a rest ih =>
    obtain ⟨k', x⟩ := a
    by_cases h : k' = k
    · subst h
      by_cases hk : p k' = true <;> simp [put, hk]
    · by_cases hk : p k = true <;> by_cases hp : p k' = true <;> simp_all [put]

theorem get?_restrict (hk : p k = true) (m : OrderedMap κ α) : (m.restrict p).get? k = m.get? k :=
  find_filter hk m.toList

theorem contains_restrict (hk : p k = true) (m : OrderedMap κ α) :
    (m.restrict p).contains k = m.contains k := by
  unfold contains
  rw [get?_restrict hk]

theorem restrict_update (hk : p k = true) (f : Option α → α) (m : OrderedMap κ α) :
    (m.update k f).restrict p = (m.restrict p).update k f :=
  eq_of_toList ((filter_put p k f m.toList).trans (if_pos hk))

theorem restrict_update_of_not (hk : p k = false) (f : Option α → α) (m : OrderedMap κ α) :
    (m.update k f).restrict p = m.restrict p :=
  eq_of_toList ((filter_put p k f m.toList).trans (if_neg (by rw [hk]; exact Bool.false_ne_true)))

end OrderedMap

def Slot.key : Slot → String
  | .entry key => key
  | .returned key => key

namespace Table

/-- What the table says about the chosen keys. -/
def restrict (p : String → Bool) (t : Table) : Table :=
  ⟨t.entries.restrict p, t.returns.restrict p, t.signatures.restrict p⟩

variable {p : String → Bool} (t : Table)

section Reads

variable {key : String}

theorem get?_restrict (hk : p key = true) : (t.restrict p).get? key = t.get? key :=
  OrderedMap.get?_restrict hk t.entries

theorem contains_restrict (hk : p key = true) : (t.restrict p).contains key = t.contains key :=
  OrderedMap.contains_restrict hk t.entries

theorem returnsOf_restrict {f : FunctionValue} (hf : p f.key = true) :
    (t.restrict p).returnsOf f = t.returnsOf f := OrderedMap.get?_restrict hf t.returns

theorem signaturesOf_restrict {f : FunctionValue} (hf : p f.key = true) :
    (t.restrict p).signaturesOf f = t.signaturesOf f :=
  congrArg (Option.getD · []) (OrderedMap.get?_restrict hf t.signatures)

end Reads

section Writes

theorem restrict_receive {f : Inflow} (hf : p f.slot.key = true) :
    (t.receive f).restrict p = (t.restrict p).receive f := by
  obtain ⟨slot, values⟩ := f
  cases slot with
  | entry key =>
    exact congrArg (Table.mk · _ _) (OrderedMap.restrict_update hf (grow values) t.entries)
  | returned key =>
    exact congrArg (Table.mk _ · _) (OrderedMap.restrict_update hf (grow values) t.returns)

theorem restrict_receive_of_not {f : Inflow} (hf : p f.slot.key = false) :
    (t.receive f).restrict p = t.restrict p := by
  obtain ⟨slot, values⟩ := f
  cases slot with
  | entry key =>
    exact congrArg (Table.mk · _ _) (OrderedMap.restrict_update_of_not hf (grow values) t.entries)
  | returned key =>
    exact congrArg (Table.mk _ · _) (OrderedMap.restrict_update_of_not hf (grow values) t.returns)

theorem restrict_receiveAll {fs : List Inflow} (hfs : ∀ f ∈ fs, p f.slot.key = true) :
    (t.receiveAll fs).restrict p = (t.restrict p).receiveAll fs := by
  induction fs generalizing t with
  | nil => rfl
  | cons f fs ih =>
    rw [List.forall_mem_cons] at hfs
    show ((t.receive f).receiveAll fs).restrict p = ((t.restrict p).receive f).receiveAll fs
    rw [ih _ hfs.2, restrict_receive t hfs.1]

theorem restrict_receiveAll_of_not {fs : List Inflow} (hfs : ∀ f ∈ fs, p f.slot.key = false) :
    (t.receiveAll fs).restrict p = t.restrict p := by
  induction fs generalizing t with
  | nil => rfl
  | cons f fs ih =>
    rw [List.forall_mem_cons] at hfs
    show ((t.receive f).receiveAll fs).restrict p = t.restrict p
    rw [ih _ hfs.2, restrict_receive_of_not t hfs.1]

theorem restrict_recordSignature {f : FunctionValue} (hf : p f.key = true) :
    (t.recordSignature f).restrict p = (t.restrict p).recordSignature f :=
  congrArg (Table.mk _ _) (OrderedMap.restrict_update hf _ t.signatures)

theorem restrict_recordSignature_of_not {f : FunctionValue} (hf : p f.key = false) :
    (t.recordSignature f).restrict p = t.restrict p :=
  congrArg (Table.mk _ _) (OrderedMap.restrict_update_of_not hf _ t.signatures)

end Writes

end Table

end NameFlow
