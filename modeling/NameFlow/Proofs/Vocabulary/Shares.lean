import Mathlib.Algebra.Order.BigOperators.Group.List
import Mathlib.Algebra.Order.Field.Basic
import Mathlib.Algebra.Order.Field.Rat
import NameFlow.Proofs.Vocabulary.Survival

/-!
# Shares of a phrase

A phrase is counted once for every place at which it stands. An identifier that holds it at two
places is named twice and counts twice, and the phrase may then be counted more often than its
category has tags. Where no identifier holds it twice, its counts are parts of the totals.
-/

namespace NameFlow.Vocabulary

set_option autoImplicit false

/-- The number of places at which a run of words stands. -/
def timesIn (run words : List String) : Nat := words.tails.countP fun rest => run <+: rest

section Places

variable {run words : List String}

theorem count_initialRuns (hne : run ≠ []) (words : List String) :
    (initialRuns words).count run = if run <+: words then 1 else 0 := by
  have hnodup : (initialRuns words).Nodup := by
    apply (pairwise_initialRuns words).imp
    intro v w hlt heq
    rw [heq] at hlt
    exact Nat.lt_irrefl _ hlt
  rw [hnodup.count]
  simp [mem_initialRuns, hne]

theorem count_runs (hne : run ≠ []) (words : List String) :
    (runs words).count run = timesIn run words := by
  induction words with
  | nil => simp [runs, timesIn, hne]
  | cons w words ih =>
    rw [runs, List.count_append, count_initialRuns hne, ih, timesIn, timesIn, List.tails_cons,
      List.countP_cons, Nat.add_comm]
    simp

/-- Every identifier is named once for each place. -/
theorem holders_eq (hne : run ≠ []) (is : List Identifier) :
    holders is run =
      is.flatMap fun i => List.replicate (timesIn run (splitWords i.name)) i := by
  rw [holders, heldRuns, List.filter_flatMap, List.map_flatMap]
  apply List.flatMap_congr
  intro i _
  have hsame : ∀ e : List String, ((fun e : Identifier × List String => decide (e.2 = run)) ∘
      fun run' => (i, run')) e = decide (e = run) := fun _ => rfl
  rw [List.filter_map, List.map_map, List.filter_congr fun e _ => hsame e, List.filter_eq,
    List.map_replicate, count_runs hne]
  rfl

end Places

/-- The part of a category's total that a phrase accounts for, without rounding. -/
def Phrase.exactShare (p : Phrase) (c : Category) : ℚ := (p.counts.get c : ℚ) / p.totals.get c

theorem sortDescending_perm {α : Type} (key : α → Float) (xs : List α) :
    (sortDescending key xs).Perm xs := by
  have hsort := (List.mergeSort_perm (xs.map fun a => (Text.floatRank (key a), a))
    fun a b => b.1 ≤ a.1).map Prod.snd
  rw [List.map_map] at hsort
  exact hsort.trans (.of_eq (List.map_id xs))

section Phrases

variable {t : Tally} {p : Phrase}

theorem words_ne_nil (hp : p ∈ (PhraseSet.ofTally t).phrases) : p.words ≠ [] :=
  (wordly_of_mem_ofTally hp).ne_nil

/-- A phrase is determined by its words. -/
theorem eq_of_mem_phrases (hp : p ∈ (PhraseSet.ofTally t).phrases) :
    p = {
      words := p.words
      identifiers :=
        (sortDescending Identifier.score (holders t.identifierList p.words)).map (·.name)
      counts := sumCounts (holders t.identifierList p.words)
      totals := ⟨t.total .type, t.total .function, t.total .variable⟩ } := by
  obtain ⟨ws, -, hphrase⟩ := mem_phrases_iff.mp hp
  rw [words_eq_of_phrase? hphrase]
  unfold PhraseSet.phrase? at hphrase
  split at hphrase
  · exact (Option.some.inj hphrase).symm
  · cases hphrase

theorem identifiers_perm (hp : p ∈ (PhraseSet.ofTally t).phrases) :
    p.identifiers.Perm (t.identifierList.flatMap fun i =>
      List.replicate (timesIn p.words (splitWords i.name)) i.name) := by
  have hnamed := congrArg Phrase.identifiers (eq_of_mem_phrases hp)
  have hperm := (sortDescending_perm Identifier.score (holders t.identifierList p.words)).map
    Identifier.name
  rw [holders_eq (words_ne_nil hp), List.map_flatMap] at hperm
  simp only [List.map_replicate] at hperm
  rw [holders_eq (words_ne_nil hp)] at hnamed
  rw [hnamed]
  exact hperm

theorem get_counts (hp : p ∈ (PhraseSet.ofTally t).phrases) (c : Category) :
    p.counts.get c = (t.identifierList.map fun i =>
      timesIn p.words (splitWords i.name) * i.counts.get c).sum := by
  have hcounts := congrArg Phrase.counts (eq_of_mem_phrases hp)
  rw [hcounts, get_sumCounts, holders_eq (words_ne_nil hp), List.map_flatMap, List.flatMap,
    List.sum_flatten, List.map_map]
  simp only [Function.comp_def, List.map_replicate, List.sum_replicate_nat]

theorem get_totals (hp : p ∈ (PhraseSet.ofTally t).phrases) (c : Category) :
    p.totals.get c = t.total c := by
  rw [congrArg Phrase.totals (eq_of_mem_phrases hp)]
  cases c <;> rfl

theorem nodup_names (t : Tally) : (t.identifierList.map (·.name)).Nodup := by
  have hnodup := t.identifiers.nodup
  rw [Tally.identifierList, List.map_map]
  exact hnodup

/-- No identifier is named twice exactly if none holds the phrase at two places. -/
theorem nodup_identifiers_iff (hp : p ∈ (PhraseSet.ofTally t).phrases) :
    p.identifiers.Nodup ↔
      ∀ i ∈ t.identifierList, timesIn p.words (splitWords i.name) ≤ 1 := by
  have hnames := nodup_names t
  rw [(identifiers_perm hp).nodup_iff, List.nodup_flatMap]
  simp only [List.nodup_replicate]
  refine and_iff_left ?_
  rw [List.Nodup, List.pairwise_map] at hnames
  apply hnames.imp
  intro i j hne name hi hj
  exact hne ((List.eq_of_mem_replicate hi).symm.trans (List.eq_of_mem_replicate hj))

theorem sum_mul_le {is : List Identifier} {times : Identifier → Nat}
    (h : ∀ i ∈ is, times i ≤ 1) (c : Category) :
    (is.map fun i => times i * i.counts.get c).sum ≤ (is.map (·.counts.get c)).sum := by
  apply List.sum_le_sum
  intro i hi
  calc times i * i.counts.get c ≤ 1 * i.counts.get c := Nat.mul_le_mul_right _ (h i hi)
    _ = i.counts.get c := Nat.one_mul _

end Phrases

/-- The total of a category is how often it occurs, and one where it does not occur. -/
theorem total_ofPairs (map : RoleMap) (tags : List (Char × String)) (c : Category) :
    (Tally.ofPairs map tags).total c =
      if 0 < (PhraseSet.ofPairs map tags).occurrences c then
        (PhraseSet.ofPairs map tags).occurrences c
      else 1 := by
  rw [Tally.total, get?_categories_eq]
  split <;> rfl

theorem exactShare_bounds {p : Phrase} {c : Category} (hpos : 0 < p.totals.get c)
    (hle : p.counts.get c ≤ p.totals.get c) : 0 ≤ p.exactShare c ∧ p.exactShare c ≤ 1 := by
  have hpos' : (0 : ℚ) < p.totals.get c := Nat.cast_pos.mpr hpos
  constructor
  · exact div_nonneg (Nat.cast_nonneg _) hpos'.le
  · rw [Phrase.exactShare, div_le_one hpos']
    exact Nat.cast_le.mpr hle

/-- A phrase names every identifier and counts it once for each place at which it stands in it. So
no identifier is named twice exactly if none holds the phrase twice, and then the phrase's counts
are parts of the totals. -/
theorem phrases_counted_by_place (map : RoleMap) (text : String) (p : Phrase)
    (hp : p ∈ (PhraseSet.ofTags map text).phrases) :
    p.identifiers.Perm ((PhraseSet.ofTags map text).identifiers.flatMap fun i =>
      List.replicate (timesIn p.words (splitWords i.name)) i.name) ∧
    (∀ c, p.counts.get c = ((PhraseSet.ofTags map text).identifiers.map fun i =>
      timesIn p.words (splitWords i.name) * i.counts.get c).sum) ∧
    (p.identifiers.Nodup ↔ ∀ i ∈ (PhraseSet.ofTags map text).identifiers,
      timesIn p.words (splitWords i.name) ≤ 1) ∧
    (p.identifiers.Nodup → ∀ c, p.counts.get c ≤ (PhraseSet.ofTags map text).occurrences c ∧
      0 ≤ p.exactShare c ∧ p.exactShare c ≤ 1) := by
  refine ⟨identifiers_perm hp, get_counts hp, nodup_identifiers_iff hp, fun hnodup c => ?_⟩
  have htimes := (nodup_identifiers_iff hp).mp hnodup
  have hle : p.counts.get c ≤ (PhraseSet.ofTags map text).occurrences c := by
    rw [get_counts hp]
    exact sum_mul_le htimes c
  have htotal := (get_totals hp c).trans (total_ofPairs map (PhraseSet.textTags text) c)
  rw [← PhraseSet.ofTags] at htotal
  refine ⟨hle, ?_⟩
  by_cases hpos : 0 < (PhraseSet.ofTags map text).occurrences c
  · rw [if_pos hpos] at htotal
    exact exactShare_bounds (by omega) (by omega)
  · rw [if_neg hpos] at htotal
    exact exactShare_bounds (by omega) (by omega)

/-- A word of three identifiers, none of which has it twice. -/
theorem name_in_three_identifiers :
    ∃ p ∈ (PhraseSet.ofTags default "TNameTable FgetName Vname").phrases,
      p.words = ["name"] ∧ p.identifiers.Nodup ∧ p.exactShare .type ≤ 1 := by
  obtain ⟨p, hp, hwords⟩ : ∃ p ∈ (PhraseSet.ofTags default "TNameTable FgetName Vname").phrases,
      p.words = ["name"] := by decide +kernel
  obtain ⟨-, -, hiff, hshares⟩ := phrases_counted_by_place _ _ p hp
  have hnodup : p.identifiers.Nodup := by
    rw [hiff, hwords]
    decide +kernel
  exact ⟨p, hp, hwords, hnodup, (hshares hnodup .type).2.2⟩

/-- An identifier that repeats a word is named twice, and its category has one tag of which two are
counted. -/
theorem repeated_word_counted_twice :
    ∃ p ∈ (PhraseSet.ofTags default "TnameName Fname Vname").phrases,
      ¬ p.identifiers.Nodup ∧
      ¬ p.counts.get .type ≤ (PhraseSet.ofTags default "TnameName Fname Vname").occurrences .type ∧
      ¬ p.exactShare .type ≤ 1 := by
  obtain ⟨p, hp, hwords, hcount, htotal⟩ :
      ∃ p ∈ (PhraseSet.ofTags default "TnameName Fname Vname").phrases,
        p.words = ["name"] ∧ p.counts.get .type = 2 ∧ p.totals.get .type = 1 := by decide +kernel
  refine ⟨p, hp, ?_, ?_, ?_⟩
  · have hiff := nodup_identifiers_iff hp
    rw [hiff, hwords]
    decide +kernel
  · rw [hcount]
    decide +kernel
  · rw [Phrase.exactShare, hcount, htotal]
    decide +kernel

end NameFlow.Vocabulary
