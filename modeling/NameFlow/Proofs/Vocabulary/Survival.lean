import Mathlib.Algebra.BigOperators.Group.List.Basic
import Mathlib.Algebra.GroupWithZero.Nat
import Mathlib.Data.List.Perm.Subperm
import NameFlow.Proofs.Vocabulary.Places
import NameFlow.Proofs.Vocabulary.Tally

/-!
# Which phrases survive

A candidate is counted for every place at which it stands, so its count in a category is positive
exactly if an identifier of that category holds it. A candidate has no count in a category that the
stream does not have; so it has as many positive counts as the stream has categories exactly if it
occurs in every one of them, and these are the phrases that survive.
-/

namespace NameFlow.Vocabulary

set_option autoImplicit false

/-- The words are some of the identifier's that stand one behind the other. -/
def Identifier.Holds (i : Identifier) (ws : List String) : Prop :=
  ws ≠ [] ∧ ws <:+: splitWords i.name

/-- How often the identifiers of a set occur in a category. -/
def PhraseSet.occurrences (s : PhraseSet) (c : Category) : Nat :=
  (s.identifiers.map (·.counts.get c)).sum

section Holders

/-- The identifiers that hold a run of words, each as often as it does. -/
def holders (is : List Identifier) (ws : List String) : List Identifier :=
  ((heldRuns is).filter (·.2 = ws)).map Prod.fst

/-- The counts of identifiers taken together. -/
def sumCounts (is : List Identifier) : Counts := is.foldl (fun d i => d.add i.counts) .zero

variable {is : List Identifier} {ws : List String}

theorem mem_holders {i : Identifier} : i ∈ holders is ws ↔ i ∈ is ∧ i.Holds ws := by
  simp only [holders, heldRuns, List.mem_map, List.mem_filter, List.mem_flatMap,
    decide_eq_true_eq, Identifier.Holds, ← mem_runs]
  constructor
  · rintro ⟨e, ⟨⟨i', hi', run, hrun, rfl⟩, rfl⟩, rfl⟩
    exact ⟨hi', hrun⟩
  · rintro ⟨hi, hrun⟩
    exact ⟨(i, ws), ⟨⟨i, hi, ws, hrun, rfl⟩, rfl⟩, rfl⟩

theorem get_sumCounts (is : List Identifier) (c : Category) :
    (sumCounts is).get c = (is.map (·.counts.get c)).sum := by
  induction is using List.reverseRecOn with
  | nil => exact Counts.get_zero c
  | append_singleton is i ih =>
    rw [List.map_append, List.sum_append, ← ih, sumCounts, List.foldl_append, List.foldl_cons,
      List.foldl_nil, Counts.get_add]
    simp [sumCounts]

theorem get_sumCounts_pos_iff {c : Category} :
    0 < (sumCounts is).get c ↔ ∃ i ∈ is, 0 < i.counts.get c := by
  rw [get_sumCounts, List.sum_pos_iff_exists_pos_nat]
  simp only [List.mem_map, exists_exists_and_eq_and]

theorem foldl_hold (es : List (Identifier × List String)) :
    es.foldl (fun d e => Candidate.mk (d.identifiers ++ [e.1]) (d.counts.add e.1.counts))
      ⟨[], .zero⟩ = ⟨es.map Prod.fst, sumCounts (es.map Prod.fst)⟩ := by
  induction es using List.reverseRecOn with
  | nil => rfl
  | append_singleton es e ih =>
    rw [List.foldl_append, List.foldl_cons, List.foldl_nil, ih, List.map_append, List.map_singleton]
    simp [sumCounts]

theorem toList_candidates (is : List Identifier) :
    (candidates is).toList =
      (candidates is).keys.map fun ws => (ws, ⟨holders is ws, sumCounts (holders is ws)⟩) := by
  rw [candidates_eq, OrderedMap.toList_accumulate, OrderedMap.keys_accumulate]
  simp only [foldl_hold, holders]

/-- The candidates come in the order of their first places. -/
theorem pairwise_candidates (is : List Identifier) :
    (candidates is).keys.Pairwise (FirstBefore (is.map fun i => splitWords i.name)) := by
  have hruns : (heldRuns is).map Prod.snd =
      (places 0 (is.map fun i => splitWords i.name)).map Prod.snd := by
    rw [map_places, map_heldRuns, List.flatMap_map]
  rw [candidates_eq, OrderedMap.keys_accumulate, hruns]
  exact (pairwise_eraseDups (pairwise_places 0 _)).imp firstBefore_iff.mpr

end Holders

section Presence

/-- The categories with a positive count are listed ones, so there are as many of them as listed
ones exactly if they are all. -/
theorem present_eq_size_iff {d : Counts} {m : OrderedMap Category Nat}
    (h : ∀ c, 0 < d.get c → c ∈ m.keys) : d.present = m.size ↔ ∀ c ∈ m.keys, 0 < d.get c := by
  have hmem : ∀ c, c ∈ Category.all.filter (0 < d.get ·) ↔ 0 < d.get c := by
    intro c
    rw [List.mem_filter, decide_eq_true_iff]
    exact ⟨fun hc => hc.2, fun hc => ⟨by cases c <;> decide, hc⟩⟩
  have hsub : (Category.all.filter (0 < d.get ·)).Subperm m.keys := by
    apply List.subperm_of_subset
    · exact List.Nodup.filter _ (by decide)
    · intro c hc
      exact h c ((hmem c).mp hc)
  have hsize : m.size = m.keys.length := (List.length_map Prod.fst).symm
  rw [Counts.present, List.countP_eq_length_filter, hsize]
  constructor
  · intro hlength c hc
    have hperm := hsub.perm_of_length_le (Nat.le_of_eq hlength.symm)
    exact (hmem c).mp (hperm.mem_iff.mpr hc)
  · intro hall
    have hsub' : m.keys.Subperm (Category.all.filter (0 < d.get ·)) :=
      List.subperm_of_subset m.nodup fun c hc => (hmem c).mpr (hall c hc)
    exact Nat.le_antisymm hsub.length_le hsub'.length_le

end Presence

section Survivors

/-- The words of the phrases are those of the candidates with a count in as many categories as the
stream has. -/
theorem words_phrases (t : Tally) :
    (PhraseSet.ofTally t).phrases.map (·.words) =
      (candidates t.identifierList).keys.filter fun ws =>
        (sumCounts (holders t.identifierList ws)).present = t.categories.size := by
  have hkept : ∀ (ws : List String) (d : Candidate),
      (PhraseSet.phrase? t ws d).map (·.words) =
        Option.guard (fun _ => d.counts.present = t.categories.size) ws := by
    intro ws d
    unfold PhraseSet.phrase? Option.guard
    by_cases h : d.counts.present = t.categories.size
    · simp [h]
    · simp [h]
  rw [PhraseSet.ofTally, toList_candidates, List.filterMap_map, List.map_filterMap,
    ← List.filterMap_eq_filter]
  congr 1
  funext ws
  exact hkept ws _

theorem mem_phrases_iff {t : Tally} {p : Phrase} :
    p ∈ (PhraseSet.ofTally t).phrases ↔
      ∃ ws ∈ (candidates t.identifierList).keys,
        PhraseSet.phrase? t ws ⟨holders t.identifierList ws,
          sumCounts (holders t.identifierList ws)⟩ = some p := by
  rw [PhraseSet.ofTally, toList_candidates, List.filterMap_map, List.mem_filterMap]
  rfl

theorem ofPairs_eq_ofTally (map : RoleMap) (tags : List (Char × String)) :
    PhraseSet.ofPairs map tags = PhraseSet.ofTally (Tally.ofPairs map tags) := rfl

/-- The total of a category is how often identifiers occur in it. -/
theorem get?_categories_eq (map : RoleMap) (tags : List (Char × String)) (c : Category) :
    (Tally.ofPairs map tags).categories.get? c =
      if 0 < (PhraseSet.ofPairs map tags).occurrences c then
        some ((PhraseSet.ofPairs map tags).occurrences c)
      else none := by
  have hsum : (PhraseSet.ofPairs map tags).occurrences c = (map.counted tags).countP (·.1 = c) :=
    Tally.sum_counts map tags c
  rw [hsum, Tally.get?_categories]

variable {map : RoleMap} {tags : List (Char × String)}

theorem mem_keys_categories_iff {c : Category} :
    c ∈ (Tally.ofPairs map tags).categories.keys ↔
      ∃ i ∈ (Tally.ofPairs map tags).identifierList, 0 < i.counts.get c := by
  have hsum : (PhraseSet.ofPairs map tags).occurrences c =
      (sumCounts (Tally.ofPairs map tags).identifierList).get c := (get_sumCounts _ c).symm
  rw [← OrderedMap.contains_iff, OrderedMap.contains, get?_categories_eq, hsum,
    ← get_sumCounts_pos_iff]
  split
  · rename_i hpos
    exact ⟨fun _ => hpos, fun _ => rfl⟩
  · rename_i hzero
    exact ⟨fun h => absurd h Bool.false_ne_true, fun h => absurd h hzero⟩

/-- A run survives exactly if an identifier of every category holds it. -/
theorem survives_iff {ws : List String} :
    (sumCounts (holders (Tally.ofPairs map tags).identifierList ws)).present =
        (Tally.ofPairs map tags).categories.size ↔
      ∀ c ∈ (Tally.ofPairs map tags).categories.keys,
        ∃ i ∈ (Tally.ofPairs map tags).identifierList, 0 < i.counts.get c ∧ i.Holds ws := by
  have hcount : ∀ c, 0 < (sumCounts (holders (Tally.ofPairs map tags).identifierList ws)).get c ↔
      ∃ i ∈ (Tally.ofPairs map tags).identifierList, 0 < i.counts.get c ∧ i.Holds ws := by
    intro c
    rw [get_sumCounts_pos_iff]
    constructor
    · rintro ⟨i, hi, hpos⟩
      obtain ⟨hi, hrun⟩ := mem_holders.mp hi
      exact ⟨i, hi, hpos, hrun⟩
    · rintro ⟨i, hi, hpos, hrun⟩
      exact ⟨i, mem_holders.mpr ⟨hi, hrun⟩, hpos⟩
  rw [present_eq_size_iff]
  · exact forall₂_congr fun c _ => hcount c
  · intro c hc
    obtain ⟨i, hi, hpos, -⟩ := (hcount c).mp hc
    exact mem_keys_categories_iff.mpr ⟨i, hi, hpos⟩

end Survivors

/-- What a set of phrases says of the tags that count. -/
structure PhraseSet.Describes (s : PhraseSet) (tags : List (Category × String)) : Prop where
  /-- The identifiers come in the order in which they first occur. -/
  names : s.identifiers.map (·.name) = (tags.map Prod.snd).eraseDups
  counts : ∀ i ∈ s.identifiers, ∀ c, i.counts.get c = tags.count (c, i.name)
  /-- A category is listed if identifiers occur in it, with how often they do. -/
  categories : ∀ c, s.categories.get? c =
    if 0 < s.occurrences c then some (s.occurrences c) else none
  /-- The phrases are the runs that identifiers of every listed category hold. -/
  survivors : ∀ ws, ws ∈ s.phrases.map (·.words) ↔
    (∃ i ∈ s.identifiers, i.Holds ws) ∧
      ∀ c ∈ s.categories.keys, ∃ i ∈ s.identifiers, 0 < i.counts.get c ∧ i.Holds ws
  nodup : (s.phrases.map (·.words)).Nodup
  /-- The phrases come in the order of the places where they first occur: by identifier, then by
  start, then by length. -/
  ordered : (s.phrases.map (·.words)).Pairwise
    (FirstBefore (s.identifiers.map fun i => splitWords i.name))

theorem mem_keys_candidates_iff {is : List Identifier} {ws : List String} :
    ws ∈ (candidates is).keys ↔ ∃ i ∈ is, i.Holds ws := by
  simp only [mem_keys_candidates, mem_runs, Identifier.Holds]

/-- The phrases of a stream are exactly the runs of words that occur in every category that the
stream has, each once and in the order of first occurrence. -/
theorem phrases_of_every_category (map : RoleMap) (text : String) :
    (PhraseSet.ofTags map text).Describes (map.counted (PhraseSet.textTags text)) := by
  rw [PhraseSet.ofTags, ofPairs_eq_ofTally]
  have hwords := words_phrases (Tally.ofPairs map (PhraseSet.textTags text))
  refine ⟨Tally.names_identifierList _ _, fun i => Tally.get_counts_of_mem _ _,
    get?_categories_eq _ _, fun ws => ?_, ?_, ?_⟩
  · rw [hwords, List.mem_filter, decide_eq_true_iff, survives_iff, mem_keys_candidates_iff]
    rfl
  · rw [hwords]
    exact (candidates _).nodup.filter _
  · rw [hwords]
    exact (pairwise_candidates _).filter _

/-- The run `name` stands in all three identifiers, and no other one stands in two. -/
example : (PhraseSet.ofTags default "TNameTable FgetName Vname\n").phrases.map (·.words) =
    [["name"]] := by decide +kernel

end NameFlow.Vocabulary
