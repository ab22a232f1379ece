import NameFlow.Value

/-!
# Value sets up to identity

A value set is seen through the identities of its members. Inclusion forgets the order of
insertion and which of several values of one identity was kept; the list itself only ever
grows at its end.
-/

namespace NameFlow

set_option autoImplicit false

namespace ValueSet

instance : Membership Identity ValueSet := ⟨fun s i => i ∈ s.identities⟩

instance (i : Identity) (s : ValueSet) : Decidable (i ∈ s) :=
  inferInstanceAs (Decidable (i ∈ s.identities))

instance : HasSubset ValueSet := ⟨fun s t => ∀ i : Identity, i ∈ s → i ∈ t⟩

variable {s t u : ValueSet} {v w : Value} {i : Identity}

theorem mem_iff : i ∈ s ↔ ∃ v ∈ s.toList, v.identity = i := List.mem_map

theorem identity_mem (h : v ∈ s.toList) : v.identity ∈ s := mem_iff.mpr ⟨v, h, rfl⟩

@[simp] theorem not_mem_empty (i : Identity) : ¬ i ∈ (∅ : ValueSet) := List.not_mem_nil

theorem Subset.refl (s : ValueSet) : s ⊆ s := fun _ h => h

theorem Subset.trans (hst : s ⊆ t) (htu : t ⊆ u) : s ⊆ u := fun i h => htu i (hst i h)

@[simp] theorem empty_subset (s : ValueSet) : ∅ ⊆ s := fun i h => absurd h (not_mem_empty i)

theorem exists_mem_of_not_subset (h : ¬ s ⊆ t) : ∃ i, i ∈ s ∧ ¬ i ∈ t := by
  obtain ⟨i, hi⟩ := Classical.not_forall.mp h
  exact ⟨i, Classical.not_imp.mp hi⟩

theorem isSubset_iff : s.isSubset t = true ↔ s ⊆ t := by
  unfold isSubset contains
  rw [List.all_eq_true]
  constructor
  · intro h i hi
    obtain ⟨v, hv, rfl⟩ := mem_iff.mp hi
    exact of_decide_eq_true (h v hv)
  · intro h v hv
    exact decide_eq_true (h v.identity (identity_mem hv))

theorem insert_of_mem (h : v.identity ∈ s) : s.insert v = s := dif_pos h

theorem toList_insert_of_not_mem (h : ¬ v.identity ∈ s) :
    (s.insert v).toList = s.toList ++ [v] := by
  have hs : s.insert v = ⟨s.toList ++ [v], _⟩ := dif_neg h
  rw [hs]

@[simp] theorem mem_insert : i ∈ s.insert v ↔ i ∈ s ∨ i = v.identity := by
  by_cases h : v.identity ∈ s
  · rw [insert_of_mem h]
    constructor
    · exact Or.inl
    · rintro (hi | rfl)
      · exact hi
      · exact h
  · simp only [mem_iff, toList_insert_of_not_mem h, List.mem_append, List.mem_singleton]
    constructor
    · rintro ⟨w, hw | rfl, rfl⟩
      · exact Or.inl ⟨w, hw, rfl⟩
      · exact Or.inr rfl
    · rintro (⟨w, hw, rfl⟩ | rfl)
      · exact ⟨w, Or.inl hw, rfl⟩
      · exact ⟨v, Or.inr rfl, rfl⟩

theorem prefix_insert (s : ValueSet) (v : Value) : s.toList <+: (s.insert v).toList := by
  by_cases h : v.identity ∈ s
  · exact ⟨[], by rw [insert_of_mem h, List.append_nil]⟩
  · exact ⟨[v], (toList_insert_of_not_mem h).symm⟩

theorem mem_toList_insert (h : w ∈ (s.insert v).toList) : w ∈ s.toList ∨ w = v := by
  by_cases hv : v.identity ∈ s
  · exact Or.inl (insert_of_mem hv ▸ h)
  · rw [toList_insert_of_not_mem hv] at h
    rcases List.mem_append.mp h with h | h
    · exact Or.inl h
    · exact Or.inr (List.mem_singleton.mp h)

section Inserts

theorem mem_inserts (vs : List Value) (s : ValueSet) :
    i ∈ vs.foldl insert s ↔ i ∈ s ∨ ∃ v ∈ vs, v.identity = i := by
  induction vs generalizing s with
  | nil => simp
  | cons v vs ih =>
    rw [List.foldl_cons, ih, mem_insert, or_assoc]
    simp only [List.mem_cons, exists_eq_or_imp, eq_comm (a := i)]

theorem prefix_inserts (vs : List Value) (s : ValueSet) :
    s.toList <+: (vs.foldl insert s).toList := by
  induction vs generalizing s with
  | nil => exact List.prefix_rfl
  | cons v vs ih => exact (prefix_insert s v).trans (ih (s.insert v))

theorem inserts_of_mem {vs : List Value} (h : ∀ v ∈ vs, v.identity ∈ s) :
    vs.foldl insert s = s := by
  induction vs with
  | nil => rfl
  | cons v vs ih =>
    rw [List.foldl_cons, insert_of_mem (h v List.mem_cons_self)]
    exact ih fun w hw => h w (List.mem_cons_of_mem v hw)

theorem mem_toList_inserts {vs : List Value} (h : w ∈ (vs.foldl insert s).toList) :
    w ∈ s.toList ∨ w ∈ vs := by
  induction vs generalizing s with
  | nil => exact Or.inl h
  | cons v vs ih =>
    rcases ih h with hw | hw
    · rcases mem_toList_insert hw with hw | rfl
      · exact Or.inl hw
      · exact Or.inr List.mem_cons_self
    · exact Or.inr (List.mem_cons_of_mem v hw)

theorem mem_toList_ofList {vs : List Value} (h : w ∈ (ofList vs).toList) : w ∈ vs := by
  rcases mem_toList_inserts h with hw | hw
  · exact absurd hw List.not_mem_nil
  · exact hw

theorem toList_inserts_of_nodup {vs : List Value}
    (h : (s.identities ++ vs.map Value.identity).Nodup) :
    (vs.foldl insert s).toList = s.toList ++ vs := by
  induction vs generalizing s with
  | nil => exact (List.append_nil _).symm
  | cons v vs ih =>
    have hv : ¬ v.identity ∈ s := by
      intro hs
      exact (List.nodup_append.mp h).2.2 _ hs _ List.mem_cons_self rfl
    have hs : (s.insert v).identities = s.identities ++ [v.identity] := by
      rw [identities_insert]
      exact if_neg hv
    rw [List.foldl_cons, ih (by rw [hs, List.append_assoc]; exact h), toList_insert_of_not_mem hv,
      List.append_assoc]
    rfl

end Inserts

theorem eq_of_toList (h : s.toList = t.toList) : s = t := by
  obtain ⟨vs, _⟩ := s
  obtain ⟨ws, _⟩ := t
  obtain rfl : vs = ws := h
  rfl

theorem empty_union (s : ValueSet) : (∅ : ValueSet).union s = s :=
  eq_of_toList (toList_inserts_of_nodup s.nodup)

@[simp] theorem mem_union : i ∈ s.union t ↔ i ∈ s ∨ i ∈ t := by
  rw [union, mem_inserts, ← mem_iff]

theorem prefix_union (s t : ValueSet) : s.toList <+: (s.union t).toList :=
  prefix_inserts t.toList s

theorem union_ne_nil (h : s.toList ≠ []) : (s.union t).toList ≠ [] := by
  intro he
  have hp := s.prefix_union t
  rw [he] at hp
  exact h (List.prefix_nil.mp hp)

theorem union_of_subset (h : t ⊆ s) : s.union t = s :=
  inserts_of_mem fun v hv => h v.identity (identity_mem hv)

theorem mem_toList_union (h : w ∈ (s.union t).toList) : w ∈ s.toList ∨ w ∈ t.toList :=
  mem_toList_inserts h

theorem subset_union_left (s t : ValueSet) : s ⊆ s.union t := fun _ h => mem_union.mpr (Or.inl h)

theorem union_subset_iff : s.union t ⊆ u ↔ s ⊆ u ∧ t ⊆ u := by
  constructor
  · intro h
    exact ⟨fun i hi => h i (mem_union.mpr (Or.inl hi)), fun i hi => h i (mem_union.mpr (Or.inr hi))⟩
  · rintro ⟨hs, ht⟩ i hi
    exact (mem_union.mp hi).elim (hs i) (ht i)

theorem mem_types_iff {name : String} : name ∈ s.types ↔ Value.type name ∈ s.toList := by
  unfold types
  rw [List.mem_filterMap]
  constructor
  · rintro ⟨v, hv, hn⟩
    cases v with
    | type n => exact Option.some.inj hn ▸ hv
    | function f => exact absurd hn (by simp [Value.typeName?])
  · intro h
    exact ⟨_, h, rfl⟩

theorem mem_functions_iff {f : FunctionValue} : f ∈ s.functions ↔ Value.function f ∈ s.toList := by
  unfold functions
  rw [List.mem_filterMap]
  constructor
  · rintro ⟨v, hv, hf⟩
    cases v with
    | type n => exact absurd hf (by simp [Value.function?])
    | function g => exact Option.some.inj hf ▸ hv
  · intro h
    exact ⟨_, h, rfl⟩

/-- A type is its identity. -/
theorem type_mem_iff {name : String} : Identity.type name ∈ s ↔ name ∈ s.types := by
  rw [mem_iff, mem_types_iff]
  constructor
  · rintro ⟨v, hv, hi⟩
    cases v with
    | type n => exact Identity.type.inj hi ▸ hv
    | function f => exact absurd hi (by simp [Value.identity])
  · intro h
    exact ⟨_, h, rfl⟩

theorem types_subset (h : s ⊆ t) {name : String} (hn : name ∈ s.types) : name ∈ t.types :=
  type_mem_iff.mp (h _ (type_mem_iff.mpr hn))

theorem function_mem_iff {path name : String} :
    Identity.function path name ∈ s ↔ ∃ f ∈ s.functions, f.scopePath = path ∧ f.name = name := by
  rw [mem_iff]
  constructor
  · rintro ⟨v, hv, hi⟩
    cases v with
    | type n => exact absurd hi (by simp [Value.identity])
    | function f =>
      obtain ⟨hp, hn⟩ := Identity.function.inj hi
      exact ⟨f, mem_functions_iff.mpr hv, hp, hn⟩
  · rintro ⟨f, hf, rfl, rfl⟩
    exact ⟨_, mem_functions_iff.mp hf, rfl⟩

/-- A function of the smaller set stands in the larger one under the same path and name. -/
theorem functions_subset (h : s ⊆ t) {f : FunctionValue} (hf : f ∈ s.functions) :
    ∃ g ∈ t.functions, g.scopePath = f.scopePath ∧ g.name = f.name :=
  function_mem_iff.mp (h _ (function_mem_iff.mpr ⟨f, hf, rfl, rfl⟩))

@[simp] theorem getD_nonEmpty? (s : ValueSet) : s.nonEmpty?.getD ∅ = s := by
  obtain ⟨vs, h⟩ := s
  cases vs <;> rfl

@[simp] theorem nonEmpty?_empty : (∅ : ValueSet).nonEmpty? = none := rfl

theorem nonEmpty?_of_ne_nil (h : s.toList ≠ []) : s.nonEmpty? = some s := by
  obtain ⟨vs, _⟩ := s
  cases vs with
  | nil => exact absurd rfl h
  | cons v vs => rfl

end ValueSet

/-- What is known is never an empty set. -/
def Informative (v : Option ValueSet) : Prop := ∀ s, v = some s → s.toList ≠ []

theorem informative_none : Informative none := fun _ h => nomatch h

theorem informative_nonEmpty? (s : ValueSet) : Informative s.nonEmpty? := by
  intro t ht he
  unfold ValueSet.nonEmpty? at ht
  split at ht
  · exact nomatch ht
  · rename_i hs
    obtain rfl := Option.some.inj ht
    exact hs (by rw [ValueSet.isEmpty, he]; rfl)

theorem mem_joinKnown {v w : Option ValueSet} {i : Identity} :
    i ∈ (joinKnown v w).getD ∅ ↔ i ∈ v.getD ∅ ∨ i ∈ w.getD ∅ := by
  cases v <;> cases w <;> simp [joinKnown]

/-- The union of two sets is known as soon as one of them is. -/
theorem joinKnown_nonEmpty? (s t : ValueSet) :
    joinKnown s.nonEmpty? t.nonEmpty? = (s.union t).nonEmpty? := by
  by_cases hs : s.toList = []
  · obtain rfl : s = ∅ := ValueSet.eq_of_toList hs
    rw [ValueSet.empty_union]
    rfl
  · rw [ValueSet.nonEmpty?_of_ne_nil hs]
    by_cases ht : t.toList = []
    · obtain rfl : t = ∅ := ValueSet.eq_of_toList ht
      rw [ValueSet.union_of_subset (ValueSet.empty_subset s), ValueSet.nonEmpty?_of_ne_nil hs]
      rfl
    · have hst : (s.union t).toList ≠ [] := ValueSet.union_ne_nil hs
      rw [ValueSet.nonEmpty?_of_ne_nil ht, ValueSet.nonEmpty?_of_ne_nil hst]
      rfl

theorem informative_joinKnown {v w : Option ValueSet} (hv : Informative v) (hw : Informative w) :
    Informative (joinKnown v w) := by
  cases v with
  | none => exact hw
  | some s =>
    cases w with
    | none => exact hv
    | some t =>
      intro u hu
      obtain rfl := Option.some.inj hu
      exact ValueSet.union_ne_nil (hv s rfl)

end NameFlow
