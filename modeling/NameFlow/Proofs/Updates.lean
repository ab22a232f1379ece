import NameFlow.Proofs.Table

/-!
# Updates of the table

A table is only added to. What a sequence of updates leaves behind is what was there and what the
updates gave: a slot for each key that was named, in it all the values that came, up to their
identity, and the parameter lists. None of this depends on the order of the updates, which only
decides in which order slots and values stand and which of several values of one identity is kept.
-/

namespace NameFlow

set_option autoImplicit false

/-- Something that a table can say. -/
inductive Table.Fact
  | present (slot : Slot)
  | holds (slot : Slot) (i : Identity)
  | declares (key : String) (params : List String)

/-- A request to add to a table. -/
inductive Update
  | record (key : String) (value : Option Value)
  | merge (key : String) (values : ValueSet)
  | recordReturns (f : FunctionValue) (values : Option ValueSet)
  | mergeReturns (key : String) (values : ValueSet)
  | recordSignature (f : FunctionValue)

namespace Update

/-- The slot that an update opens, and the values that it brings there. -/
def inflow? : Update → Option Inflow
  | record key value => some ⟨.entry key, .ofList value.toList⟩
  | merge key values => some ⟨.entry key, values⟩
  | recordReturns f values => some ⟨.returned f.key, values.getD ∅⟩
  | mergeReturns key values => some ⟨.returned key, values⟩
  | recordSignature _ => none

/-- The function whose parameter list an update adds. -/
def declared? : Update → Option FunctionValue
  | recordSignature f => some f
  | _ => none

/-- The facts that hold after an update whatever the table was. -/
def Gives (u : Update) : Table.Fact → Prop
  | .present slot => ∃ f ∈ u.inflow?, f.slot = slot
  | .holds slot i => ∃ f ∈ u.inflow?, f.slot = slot ∧ i ∈ f.values
  | .declares key params => ∃ f ∈ u.declared?, f.key = key ∧ f.params = params

end Update

namespace Table

def Says (t : Table) : Fact → Prop
  | .present slot => (t.slot? slot).isSome = true
  | .holds slot i => i ∈ t.held slot
  | .declares key params => params ∈ t.parameterLists key

def update (t : Table) : Update → Table
  | .record key value => t.record key value
  | .merge key values => (t.merge key values).1
  | .recordReturns f values => t.recordReturns f values
  | .mergeReturns key values => (t.mergeReturns key values).1
  | .recordSignature f => t.recordSignature f

def updateAll (t : Table) (us : List Update) : Table := us.foldl update t

/-- An update is an inflow, or it is the declaration of a function. -/
theorem update_eq (t : Table) (u : Update) :
    t.update u = u.declared?.toList.foldl recordSignature (t.receiveAll u.inflow?.toList) := by
  cases u with
  | record key value => exact record_eq t key value
  | merge key values => rfl
  | recordReturns f values => rfl
  | mergeReturns key values => rfl
  | recordSignature f => rfl

theorem slot?_update (t : Table) (u : Update) (slot : Slot) :
    (t.update u).slot? slot = (t.receiveAll u.inflow?.toList).slot? slot := by
  rw [update_eq, slot?_recordSignatures]

theorem held_update (t : Table) (u : Update) (slot : Slot) :
    (t.update u).held slot = (t.receiveAll u.inflow?.toList).held slot := by
  unfold held
  rw [slot?_update]

variable {t w : Table} {a : Fact}

/-- An update takes no fact away, and adds those that it gives. -/
theorem says_update {u : Update} : (t.update u).Says a ↔ t.Says a ∨ u.Gives a := by
  cases a with
  | present slot =>
    simp only [Says, Update.Gives, slot?_update, isSome_slot?_receiveAll, Option.mem_toList,
      Option.mem_def]
  | holds slot i =>
    simp only [Says, Update.Gives, held_update, mem_held_receiveAll, Option.mem_toList,
      Option.mem_def]
  | declares key params =>
    simp only [Says, Update.Gives, update_eq, mem_parameterLists_recordSignatures,
      parameterLists_receiveAll, Option.mem_toList, Option.mem_def]

/-- A run of updates adds up what each of them gives. -/
theorem says_updateAll {us : List Update} :
    (t.updateAll us).Says a ↔ t.Says a ∨ ∃ u ∈ us, u.Gives a := by
  induction us generalizing t with
  | nil => simp [updateAll]
  | cons u us ih =>
    have hrun : t.updateAll (u :: us) = (t.update u).updateAll us := rfl
    rw [hrun, ih, says_update, or_assoc]
    simp only [List.mem_cons, exists_eq_or_imp]

theorem says_updateAll_perm {us us' : List Update} (h : us.Perm us') :
    (t.updateAll us).Says a ↔ (t.updateAll us').Says a := by
  simp only [says_updateAll, h.mem_iff]

/-- Inclusion sees which slots there are and what they hold, and not the parameter lists. -/
theorem le_of_says (h : ∀ a, t.Says a → w.Says a) : t ≤ w :=
  le_of_held (fun slot => h (.present slot)) (fun slot i => h (.holds slot i))

/-- Values are missing from a slot if one of them is; a slot that does not exist lacks every one. -/
theorem lacks_iff {values : ValueSet} {slot : Option ValueSet} :
    lacks values slot = true ↔ ∃ v ∈ values.toList, (slot.getD ∅).contains v = false := by
  rw [lacks, Bool.not_eq_true', ValueSet.isSubset, List.all_eq_false]
  simp only [Bool.not_eq_true]

/-- Updates commute up to inclusion. What a run of them leaves is what was there and what they
give, and each merge tells whether it found something missing. -/
theorem updates_commute (t : Table) :
    (∀ us us' : List Update, us.Perm us' →
      (t.updateAll us).includes (t.updateAll us') = true ∧
      (t.updateAll us').includes (t.updateAll us) = true ∧
      (∀ key params, params ∈ (t.updateAll us).parameterLists key ↔
        params ∈ (t.updateAll us').parameterLists key) ∧
      (t.updateAll us).includes t = true ∧ (t.updateAll us').includes t = true) ∧
    (∀ us a, (t.updateAll us).Says a ↔ t.Says a ∨ ∃ u ∈ us, u.Gives a) ∧
    (∀ key values, (t.merge key values).2 = true ↔
      ∃ v ∈ values.toList, ((t.get? key).getD ∅).contains v = false) ∧
    (∀ key values, (t.mergeReturns key values).2 = true ↔
      ∃ v ∈ values.toList, ((t.returnsAt key).getD ∅).contains v = false) ∧
    t.includes t = true ∧
    ∀ v w : Table, v.includes t = true → w.includes v = true → w.includes t = true := by
  have hgrown : ∀ us, t ≤ t.updateAll us := fun us =>
    le_of_says fun a ha => says_updateAll.mpr (Or.inl ha)
  simp only [includes_iff]
  refine ⟨?_, fun us a => says_updateAll, fun _ _ => lacks_iff, fun _ _ => lacks_iff, le_refl t, ?_⟩
  · intro us us' hperm
    refine ⟨?_, ?_, ?_, hgrown us, hgrown us'⟩
    · exact le_of_says fun a => (says_updateAll_perm hperm).mpr
    · exact le_of_says fun a => (says_updateAll_perm hperm).mp
    · intro key params
      exact says_updateAll_perm (a := .declares key params) hperm
  · intro v w
    exact le_trans

/-- Two declarations of one function reach a key, a return slot and the parameter lists. -/
def packing : List Update :=
  let plain : FunctionValue := ⟨"shop", "shop", .root, "pack", ["shop.pack.item"]⟩
  let marked : FunctionValue := ⟨"shop", "shop", .root, "pack", ["shop.pack.item", "shop.pack.mark"]⟩
  [.record "shop.task" (some (.function plain)), .recordSignature plain, .recordReturns plain none,
    .merge "shop.task" (.ofList [.function marked]), .recordSignature marked,
    .mergeReturns "shop.pack" (.ofList [.type "Crate"])]

/-- The order shows in the declaration that is kept, and is not seen by inclusion. -/
theorem packing_reversed :
    packing.reverse.Perm packing ∧
    (updateAll ∅ packing.reverse).includes (updateAll ∅ packing) = true ∧
    (updateAll ∅ packing).includes (updateAll ∅ packing.reverse) = true ∧
    (updateAll ∅ packing.reverse).get? "shop.task" ≠ (updateAll ∅ packing).get? "shop.task" := by
  have hperm := List.reverse_perm packing
  have hrun := (updates_commute ∅).1 packing.reverse packing hperm
  exact ⟨hperm, hrun.1, hrun.2.1, by decide⟩

end Table

end NameFlow
