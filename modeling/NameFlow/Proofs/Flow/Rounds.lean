import Mathlib.Data.Nat.Init
import NameFlow.Proofs.Flow.Growth

/-!
# Rounds up to a fixed point

The rounds on a table form a sequence of their own, whatever the budget. A larger budget goes on
where a smaller one has stopped, and only if that one has not converged. What was found within a
budget is therefore a stretch of this sequence, and once a round changes nothing the sequence
stands still.
-/

namespace NameFlow.Flow

set_option autoImplicit false

open Python

/-- The table after a number of rounds, whether or not they change it. -/
def afterRounds (ms : List SourceModule) (t : Table) : Nat → Table
  | 0 => t
  | k + 1 => (resolutionRound (afterRounds ms t k) ms).1

/-- What is reported by the round that follows the first `k`. -/
def nthRound (ms : List SourceModule) (t : Table) (k : Nat) : ResolutionRound :=
  (resolutionRound (afterRounds ms t k) ms).2

section Sequence

variable {ms : List SourceModule} {t : Table}

theorem changedModules_of_unchanged {t : Table} {ms : List SourceModule}
    (h : (resolutionRound t ms).2.changed = false) :
    (resolutionRound t ms).2.changedModules = [] := by
  induction ms generalizing t with
  | nil => rfl
  | cons m ms ih =>
    obtain ⟨hm, hms⟩ := Bool.or_eq_false_iff.mp h
    have hflag : (resolve t m).2.2 = false := hm
    show (if (resolve t m).2.2 then m.path :: (resolutionRound (resolve t m).1 ms).2.changedModules
      else (resolutionRound (resolve t m).1 ms).2.changedModules) = []
    rw [hflag]
    exact ih hms

theorem resolutionRound_of_unchanged (h : (resolutionRound t ms).2.changed = false) :
    resolutionRound t ms = (t, ⟨false, [], (resolutionRound t ms).2.features⟩) := by
  have htable := resolutionRound_same h
  have hmodules := changedModules_of_unchanged h
  generalize resolutionRound t ms = r at h htable hmodules ⊢
  obtain ⟨u, changed, modules, features⟩ := r
  obtain rfl : u = t := htable
  obtain rfl : changed = false := h
  obtain rfl : modules = [] := hmodules
  rfl

theorem afterRounds_grows (ms : List SourceModule) (t : Table) {j k : Nat} (h : j ≤ k) :
    (afterRounds ms t j).Grows (afterRounds ms t k) := by
  induction k, h using Nat.le_induction with
  | base => exact .refl _
  | succ k _ ih => exact ih.trans (resolutionRound_grows _ ms)

/-- From a round that changes nothing on, the table stays as it is. -/
theorem afterRounds_of_unchanged {j k : Nat} (hu : (nthRound ms t j).changed = false) (h : j ≤ k) :
    afterRounds ms t k = afterRounds ms t j := by
  induction k, h using Nat.le_induction with
  | base => rfl
  | succ k _ ih =>
    show (resolutionRound (afterRounds ms t k) ms).1 = _
    rw [ih]
    exact resolutionRound_same hu

theorem nthRound_of_unchanged {j k : Nat} (hu : (nthRound ms t j).changed = false) (h : j ≤ k) :
    nthRound ms t k = nthRound ms t j := by
  unfold nthRound
  rw [afterRounds_of_unchanged hu h]

end Sequence

section Budgets

variable {ms : List SourceModule} {t : Table}

/-- The result after one more round. -/
def Fixpoint.next (ms : List SourceModule) (f : Fixpoint) : Fixpoint :=
  ⟨(resolutionRound f.table ms).1, (resolutionRound f.table ms).2.features, f.iterations + 1,
    !(resolutionRound f.table ms).2.changed⟩

theorem go_succ {f : Fixpoint} (hf : f.converged = false) (n : Nat) :
    fixpoint.go ms (n + 1) f =
      if (f.next ms).converged then f.next ms else fixpoint.go ms n (f.next ms) := by
  obtain ⟨u, resolutions, iterations, converged⟩ := f
  obtain rfl : converged = false := hf
  rw [fixpoint.go]
  unfold Fixpoint.next
  dsimp only
  cases (resolutionRound u ms).2.changed <;> rfl

/-- The last round of a budget takes place only if those before have not converged. -/
theorem go_succ_last {f : Fixpoint} (hf : f.converged = false) (n : Nat) :
    fixpoint.go ms (n + 1) f =
      if (fixpoint.go ms n f).converged then fixpoint.go ms n f
      else (fixpoint.go ms n f).next ms := by
  induction n generalizing f with
  | zero =>
    rw [go_succ hf]
    show (if (f.next ms).converged then f.next ms else f.next ms) =
      if f.converged then f else f.next ms
    rw [hf, ite_self]
    rfl
  | succ n ih =>
    rw [go_succ hf (n + 1), go_succ hf n]
    cases hnext : (f.next ms).converged with
    | true =>
      rw [if_pos rfl]
      exact (if_pos hnext).symm
    | false => exact ih hnext

theorem fixpoint_succ (n : Nat) (t : Table) (ms : List SourceModule) :
    fixpoint (n + 1) t ms =
      if (fixpoint n t ms).converged then fixpoint n t ms else (fixpoint n t ms).next ms :=
  go_succ_last rfl n

theorem fixpoint_succ_of_converged {n : Nat} (h : (fixpoint n t ms).converged = true) :
    fixpoint (n + 1) t ms = fixpoint n t ms := by
  rw [fixpoint_succ, if_pos h]

theorem fixpoint_succ_of_not_converged {n : Nat} (h : (fixpoint n t ms).converged = false) :
    fixpoint (n + 1) t ms = (fixpoint n t ms).next ms := by
  rw [fixpoint_succ, h]
  rfl

theorem fixpoint_of_converged {n m : Nat} (hc : (fixpoint n t ms).converged = true) (h : n ≤ m) :
    fixpoint m t ms = fixpoint n t ms := by
  induction m, h using Nat.le_induction with
  | base => rfl
  | succ m _ ih => rw [fixpoint_succ_of_converged (ih ▸ hc), ih]

/-- What a result says about the sequence of rounds. -/
structure Recounts (ms : List SourceModule) (t : Table) (budget : Nat) (f : Fixpoint) : Prop where
  within : f.iterations ≤ budget
  table : f.table = afterRounds ms t f.iterations
  resolutions : ∀ k, f.iterations = k + 1 → f.resolutions = (nthRound ms t k).features
  unchanged : f.converged = true → ∃ k, f.iterations = k + 1 ∧ (nthRound ms t k).changed = false
  exhausted : f.converged = false →
    f.iterations = budget ∧ ∀ k < budget, (nthRound ms t k).changed = true

theorem fixpoint_recounts (n : Nat) (t : Table) (ms : List SourceModule) :
    Recounts ms t n (fixpoint n t ms) := by
  induction n with
  | zero => exact ⟨Nat.le_refl 0, rfl, nofun, nofun, fun _ => ⟨rfl, nofun⟩⟩
  | succ n ih =>
    cases hc : (fixpoint n t ms).converged with
    | true =>
      rw [fixpoint_succ_of_converged hc]
      refine ⟨Nat.le_succ_of_le ih.within, ih.table, ih.resolutions, ih.unchanged, fun hn => ?_⟩
      rw [hc] at hn
      exact nomatch hn
    | false =>
      obtain ⟨hiterations, hchanged⟩ := ih.exhausted hc
      have htable := ih.table
      rw [hiterations] at htable
      have hround : resolutionRound (fixpoint n t ms).table ms =
          (afterRounds ms t (n + 1), nthRound ms t n) := by rw [htable]; rfl
      rw [fixpoint_succ_of_not_converged hc]
      unfold Fixpoint.next
      rw [hround, hiterations]
      refine ⟨Nat.le_refl _, rfl, ?_, ?_, ?_⟩
      · intro k hk
        obtain rfl : n = k := Nat.succ.inj hk
        rfl
      · intro hn
        exact ⟨n, rfl, (Bool.not_eq_true' _).mp hn⟩
      · intro hn
        refine ⟨rfl, fun k hk => ?_⟩
        rcases Nat.lt_succ_iff_lt_or_eq.mp hk with hk | rfl
        · exact hchanged k hk
        · exact (Bool.not_eq_false' _).mp hn

theorem converged_iff (n : Nat) (t : Table) (ms : List SourceModule) :
    (fixpoint n t ms).converged = true ↔ ∃ k < n, (nthRound ms t k).changed = false := by
  have hrun := fixpoint_recounts n t ms
  constructor
  · intro hc
    obtain ⟨k, hk, hu⟩ := hrun.unchanged hc
    have hle := hrun.within
    exact ⟨k, by omega, hu⟩
  · rintro ⟨k, hk, hu⟩
    by_contra hc
    rw [(hrun.exhausted (Bool.not_eq_true _ ▸ hc)).2 k hk] at hu
    exact nomatch hu

/-- The rounds that took place are all that the budget was needed for. -/
theorem fixpoint_iterations (n : Nat) (t : Table) (ms : List SourceModule) :
    fixpoint (fixpoint n t ms).iterations t ms = fixpoint n t ms := by
  induction n with
  | zero => rfl
  | succ n ih =>
    cases hc : (fixpoint n t ms).converged with
    | true => rw [fixpoint_succ_of_converged hc, ih]
    | false =>
      have hiterations : (fixpoint (n + 1) t ms).iterations = n + 1 := by
        rw [fixpoint_succ_of_not_converged hc]
        show (fixpoint n t ms).iterations + 1 = n + 1
        rw [((fixpoint_recounts n t ms).exhausted hc).1]
      rw [hiterations]

theorem fixpoint_of_iterations_le {n m : Nat} (hc : (fixpoint n t ms).converged = true)
    (h : (fixpoint n t ms).iterations ≤ m) : fixpoint m t ms = fixpoint n t ms := by
  have hsame := fixpoint_iterations n t ms
  have hc' : (fixpoint (fixpoint n t ms).iterations t ms).converged = true := by rw [hsame, hc]
  rw [fixpoint_of_converged hc' h, hsame]

/-- The table that a budget leads to, however many of its rounds were needed. -/
theorem fixpoint_table (n : Nat) (t : Table) (ms : List SourceModule) :
    (fixpoint n t ms).table = afterRounds ms t n := by
  have hrun := fixpoint_recounts n t ms
  cases hc : (fixpoint n t ms).converged with
  | true =>
    obtain ⟨k, hk, hu⟩ := hrun.unchanged hc
    have hle : k ≤ n := by
      have hwithin := hrun.within
      omega
    rw [hrun.table, hk, afterRounds_of_unchanged hu (Nat.le_succ k),
      afterRounds_of_unchanged hu hle]
  | false => rw [hrun.table, (hrun.exhausted hc).1]

theorem fixpoint_resolutions (n : Nat) (t : Table) (ms : List SourceModule) :
    (fixpoint (n + 1) t ms).resolutions = (nthRound ms t n).features := by
  have hrun := fixpoint_recounts (n + 1) t ms
  cases hc : (fixpoint (n + 1) t ms).converged with
  | true =>
    obtain ⟨k, hk, hu⟩ := hrun.unchanged hc
    have hle : k ≤ n := by
      have hwithin := hrun.within
      omega
    rw [hrun.resolutions k hk, nthRound_of_unchanged hu hle]
  | false => exact hrun.resolutions n (hrun.exhausted hc).1

theorem fixpoint_grows {n m : Nat} (h : n ≤ m) :
    (fixpoint n t ms).table.Grows (fixpoint m t ms).table := by
  rw [fixpoint_table, fixpoint_table]
  exact afterRounds_grows ms t h

/-- Further rounds leave a result that has converged as it is. -/
theorem resolutionRound_of_converged {n : Nat} (hc : (fixpoint n t ms).converged = true) :
    resolutionRound (fixpoint n t ms).table ms =
      ((fixpoint n t ms).table, ⟨false, [], (fixpoint n t ms).resolutions⟩) := by
  have hrun := fixpoint_recounts n t ms
  obtain ⟨k, hk, hu⟩ := hrun.unchanged hc
  have htable : (fixpoint n t ms).table = afterRounds ms t k := by
    rw [hrun.table, hk, afterRounds_of_unchanged hu (Nat.le_succ k)]
  rw [hrun.resolutions k hk, htable]
  exact resolutionRound_of_unchanged hu

end Budgets

/-- The rounds end with the first one that changes nothing, in a table at rest, and a budget that
is large enough for that makes no difference. -/
theorem fixpoint_at_rest (n : Nat) (t : Table) (ms : List SourceModule) :
    let f := fixpoint n t ms
    (f.iterations ≤ n ∧ f.table = afterRounds ms t f.iterations ∧
      ∀ k, f.iterations = k + 1 → f.resolutions = (nthRound ms t k).features) ∧
    (f.converged = true ↔ ∃ k < n, (nthRound ms t k).changed = false) ∧
    (f.converged = true →
      resolutionRound f.table ms = (f.table, ⟨false, [], f.resolutions⟩) ∧
      ∀ m, f.iterations ≤ m → fixpoint m t ms = f) ∧
    (f.converged = false →
      f.iterations = n ∧ ∀ k < n, (nthRound ms t k).changed = true ∧
        afterRounds ms t (k + 1) ≠ afterRounds ms t k) ∧
    ∀ m, n ≤ m → (fixpoint m t ms).table.includes f.table := by
  intro f
  have hrun := fixpoint_recounts n t ms
  refine ⟨⟨hrun.within, hrun.table, hrun.resolutions⟩, converged_iff n t ms, fun hc => ?_,
    fun hc => ?_, fun m hm => ?_⟩
  · exact ⟨resolutionRound_of_converged hc, fun m => fixpoint_of_iterations_le hc⟩
  · obtain ⟨hiterations, hchanged⟩ := hrun.exhausted hc
    refine ⟨hiterations, fun k hk => ⟨hchanged k hk, fun hsame => ?_⟩⟩
    obtain ⟨slot, i, hnew, hold⟩ := resolutionRound_gained (hchanged k hk)
    rw [show (resolutionRound (afterRounds ms t k) ms).1 = afterRounds ms t k from hsame] at hnew
    exact hold hnew
  · exact Table.includes_iff.mpr (fixpoint_grows hm).le

end NameFlow.Flow
