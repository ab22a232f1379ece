import Mathlib.Data.List.Basic

/-!
# Readings that stop at the first fault

A reading goes through items one by one and fails at an item that is reached. Where it is known which
items that are reached have a fault, a reading fails exactly if there is an item with one, and with
the fault of the first.
-/

namespace NameFlow

set_option autoImplicit false

universe u v

variable {ε σ : Type u} {α : Type v} {f : σ → α → Except ε σ} {as : List α} {s s' : σ} {e : ε}

theorem foldlM_concat_ok_iff {a : α} :
    (as ++ [a]).foldlM f s = .ok s' ↔ ∃ s₁, as.foldlM f s = .ok s₁ ∧ f s₁ a = .ok s' := by
  rw [List.foldlM_append]
  cases h : as.foldlM f s with
  | error e =>
    constructor
    · intro hrun
      cases hrun
    · rintro ⟨s₁, hs₁, -⟩
      cases hs₁
  | ok s₁ =>
    have hlast : [a].foldlM f s₁ = f s₁ a := by
      rw [List.foldlM_cons]
      exact bind_pure (f s₁ a)
    constructor
    · intro hrun
      exact ⟨s₁, rfl, hlast.symm.trans hrun⟩
    · rintro ⟨_, hs₁, hstep⟩
      cases hs₁
      exact hlast.trans hstep

/-- A run fails at an item that is reached. -/
theorem foldlM_error_iff :
    as.foldlM f s = .error e ↔
      ∃ i a s₁, as[i]? = some a ∧ (as.take i).foldlM f s = .ok s₁ ∧ f s₁ a = .error e := by
  induction as generalizing s with
  | nil =>
    constructor
    · intro h
      cases h
    · rintro ⟨i, a, s₁, ha, -⟩
      cases ha
  | cons a as ih =>
    rw [List.foldlM_cons]
    cases ha : f s a with
    | error e' =>
      constructor
      · intro h
        cases h
        exact ⟨0, a, s, rfl, rfl, ha⟩
      · rintro ⟨i, b, s₁, hb, hrun, hfail⟩
        cases i with
        | zero =>
          cases hb
          cases hrun
          rw [ha] at hfail
          cases hfail
          rfl
        | succ i =>
          rw [List.take_succ_cons, List.foldlM_cons, ha] at hrun
          cases hrun
    | ok s₂ =>
      refine (ih (s := s₂)).trans ⟨?_, ?_⟩
      · rintro ⟨i, b, s₁, hb, hrun, hfail⟩
        refine ⟨i + 1, b, s₁, hb, ?_, hfail⟩
        rw [List.take_succ_cons, List.foldlM_cons, ha]
        exact hrun
      · rintro ⟨i, b, s₁, hb, hrun, hfail⟩
        cases i with
        | zero =>
          cases hb
          cases hrun
          rw [ha] at hfail
          cases hfail
        | succ i =>
          rw [List.take_succ_cons, List.foldlM_cons, ha] at hrun
          exact ⟨i, b, s₁, hb, hrun, hfail⟩

section First

variable {Fault : Nat → ε → Prop} (hfault : ∀ i s₁, (as.take i).foldlM f s = .ok s₁ →
  ∀ e, Fault i e ↔ ∃ a, as[i]? = some a ∧ f s₁ a = .error e)
include hfault

/-- An item is reached if there is no fault before it. -/
theorem exists_foldlM_ok_iff (i : Nat) :
    (∃ s₁, (as.take i).foldlM f s = .ok s₁) ↔ ∀ j < i, ∀ e, ¬ Fault j e := by
  induction i with
  | zero => exact ⟨fun _ j hj => absurd hj (Nat.not_lt_zero j), fun _ => ⟨s, rfl⟩⟩
  | succ i ih =>
    -- Item `i` is reached from some state, and it is that state's reading that must not fail.
    rw [Nat.forall_lt_succ_right, ← ih, List.take_add_one]
    constructor
    · rintro ⟨s₁, hrun⟩
      cases ha : as[i]? with
      | none =>
        rw [ha, Option.toList_none, List.append_nil] at hrun
        refine ⟨⟨s₁, hrun⟩, fun e he => ?_⟩
        obtain ⟨a, ha', -⟩ := (hfault i s₁ hrun e).mp he
        rw [ha] at ha'
        cases ha'
      | some a =>
        rw [ha, Option.toList_some, foldlM_concat_ok_iff] at hrun
        obtain ⟨s₂, hrun, hstep⟩ := hrun
        refine ⟨⟨s₂, hrun⟩, fun e he => ?_⟩
        obtain ⟨a', ha', hfail⟩ := (hfault i s₂ hrun e).mp he
        rw [ha, Option.some.injEq] at ha'
        rw [← ha', hstep] at hfail
        cases hfail
    · rintro ⟨⟨s₁, hrun⟩, hnone⟩
      cases ha : as[i]? with
      | none =>
        rw [Option.toList_none, List.append_nil]
        exact ⟨s₁, hrun⟩
      | some a =>
        rw [Option.toList_some]
        cases hstep : f s₁ a with
        | ok s₂ => exact ⟨s₂, foldlM_concat_ok_iff.mpr ⟨s₁, hrun, hstep⟩⟩
        | error e => exact absurd ((hfault i s₁ hrun e).mpr ⟨a, ha, hstep⟩) (hnone e)

/-- A run fails with the first fault. -/
theorem foldlM_error_iff_first :
    as.foldlM f s = .error e ↔ ∃ i, Fault i e ∧ ∀ j < i, ∀ e', ¬ Fault j e' := by
  rw [foldlM_error_iff]
  constructor
  · rintro ⟨i, a, s₁, ha, hrun, hfail⟩
    exact ⟨i, (hfault i s₁ hrun e).mpr ⟨a, ha, hfail⟩,
      (exists_foldlM_ok_iff hfault i).mp ⟨s₁, hrun⟩⟩
  · rintro ⟨i, he, hfirst⟩
    obtain ⟨s₁, hrun⟩ := (exists_foldlM_ok_iff hfault i).mpr hfirst
    obtain ⟨a, ha, hfail⟩ := (hfault i s₁ hrun e).mp he
    exact ⟨i, a, s₁, ha, hrun, hfail⟩

end First

theorem map_eq_error_iff {β γ : Type u} {g : β → γ} {x : Except ε β} :
    g <$> x = .error e ↔ x = .error e := by
  cases x with
  | error e' =>
    constructor
    · intro h
      cases h
      rfl
    · rintro ⟨⟩
      rfl
  | ok b =>
    constructor
    · intro h
      cases h
    · intro h
      cases h

/-- A reading that gives something does not fail. -/
theorem exists_ok_of_toOption {β γ : Type u} {g : β → γ} {x : Except ε β} {c : γ}
    (h : x.toOption.map g = some c) : ∃ b, x = .ok b ∧ g b = c := by
  cases x with
  | error e' => cases h
  | ok b => exact ⟨b, rfl, Option.some.inj h⟩

/-- Items that are read one by one fail with the first of them that does. -/
theorem mapM_error_iff {β : Type u} {g : α → Except ε β} :
    as.mapM g = .error e ↔ ∃ i : Nat, (∃ a, as[i]? = some a ∧ g a = .error e) ∧
      ∀ j < i, ∀ e', ¬ ∃ a, as[j]? = some a ∧ g a = .error e' := by
  rw [List.mapM_eq_reverse_foldlM_cons, map_eq_error_iff]
  apply foldlM_error_iff_first
  intro i bs _ e'
  simp only [map_eq_error_iff]

end NameFlow
