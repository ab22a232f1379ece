import Mathlib.Algebra.BigOperators.Group.List.Basic
import Mathlib.Algebra.GroupWithZero.Nat
import Mathlib.Data.List.Basic
import NameFlow.Proofs.OrderedMap
import NameFlow.Vocabulary.PhraseSet

/-!
# What a tally counts

A tally sees of a stream only the tags whose letters count. It lists their categories and their
names in the order in which they first occur, with how often each category occurs, and how often
each name occurs in each category. So the counts of all names in a category add up to the count of
the category.
-/

namespace NameFlow.Vocabulary

set_option autoImplicit false

namespace Counts

@[simp] theorem get_zero (c : Category) : zero.get c = 0 := by
  cases c <;> rfl

@[simp] theorem get_add (d e : Counts) (c : Category) : (d.add e).get c = d.get c + e.get c := by
  cases c <;> rfl

theorem get_increment (d : Counts) (category c : Category) :
    (d.increment category).get c = d.get c + if category = c then 1 else 0 := by
  cases category <;> cases c <;> rfl

end Counts

/-- The tags of a stream that count, each with the category that it counts toward. -/
def RoleMap.counted (map : RoleMap) (tags : List (Char × String)) : List (Category × String) :=
  tags.filterMap fun tag => (map.category? tag.1).map fun category => (category, tag.2)

theorem RoleMap.counted_concat (map : RoleMap) (tags : List (Char × String))
    (tag : Char × String) :
    map.counted (tags ++ [tag]) =
      map.counted tags ++ ((map.category? tag.1).map fun category => (category, tag.2)).toList := by
  unfold counted
  rw [List.filterMap_append, List.filterMap_cons, List.filterMap_nil]
  cases map.category? tag.1 <;> rfl

section Grouping

variable {κ ε : Type} [DecidableEq κ] {key : ε → κ}

/-- Entries may be sorted by their keys. -/
theorem perm_flatMap_filter {ks : List κ} (hks : ks.Nodup) {es : List ε}
    (hes : ∀ e ∈ es, key e ∈ ks) : (ks.flatMap fun k => es.filter (key · = k)).Perm es := by
  induction ks generalizing es with
  | nil =>
    rw [List.eq_nil_iff_forall_not_mem.mpr fun e he => List.not_mem_nil (hes e he)]
    exact .refl _
  | cons k ks ih =>
    rw [List.nodup_cons] at hks
    have hrest : ∀ e ∈ es.filter fun e => !decide (key e = k), key e ∈ ks := by
      intro e he
      rw [List.mem_filter, Bool.not_eq_true', decide_eq_false_iff_not] at he
      exact (List.mem_cons.mp (hes e he.1)).resolve_left he.2
    have hsame : ∀ k' ∈ ks, es.filter (key · = k') =
        (es.filter fun e => !decide (key e = k)).filter (key · = k') := by
      intro k' hk'
      have hne : k' ≠ k := fun heq => hks.1 (heq ▸ hk')
      rw [List.filter_filter]
      apply List.filter_congr
      intro e _
      by_cases he : key e = k'
      · simp [he, hne]
      · simp [he]
    rw [List.flatMap_cons, List.flatMap_congr hsame]
    exact ((ih hks.2 hrest).append_left _).trans (List.filter_append_perm _ es)

end Grouping

namespace Tally

def ofPairs (map : RoleMap) (tags : List (Char × String)) : Tally :=
  tags.foldl (fun t tag => t.add map tag.1 tag.2) .empty

theorem ofPairs_concat (map : RoleMap) (tags : List (Char × String)) (tag : Char × String) :
    ofPairs map (tags ++ [tag]) = (ofPairs map tags).add map tag.1 tag.2 := by
  unfold ofPairs
  rw [List.foldl_append, List.foldl_cons, List.foldl_nil]

/-- A tally is two maps of the tags that count. -/
theorem ofPairs_eq (map : RoleMap) (tags : List (Char × String)) :
    ofPairs map tags =
      ⟨.accumulate Prod.fst (fun n _ => n + 1) 0 (map.counted tags),
        .accumulate Prod.snd (fun d e => d.increment e.1) .zero (map.counted tags)⟩ := by
  induction tags using List.reverseRecOn with
  | nil => rfl
  | append_singleton tags tag ih =>
    rw [ofPairs_concat, ih, RoleMap.counted_concat, add]
    cases map.category? tag.1 with
    | none => rw [Option.map_none, Option.toList_none, List.append_nil]
    | some category =>
      rw [Option.map_some, Option.toList_some, OrderedMap.accumulate_concat,
        OrderedMap.accumulate_concat]

variable (map : RoleMap) (tags : List (Char × String))

/-- A category is listed exactly if a tag counts toward it, with the number of such tags. -/
theorem get?_categories (c : Category) :
    (ofPairs map tags).categories.get? c =
      if 0 < (map.counted tags).countP (·.1 = c) then some ((map.counted tags).countP (·.1 = c))
      else none := by
  rw [ofPairs_eq]
  by_cases hc : c ∈ (map.counted tags).map Prod.fst
  · have hpos : 0 < (map.counted tags).countP (·.1 = c) := by
      obtain ⟨e, he, rfl⟩ := List.mem_map.mp hc
      exact List.countP_pos_iff.mpr ⟨e, he, by simp⟩
    rw [if_pos hpos, OrderedMap.get?_accumulate_of_mem hc, List.foldl_add_const, Nat.zero_add,
      Nat.one_mul, List.countP_eq_length_filter]
  · have hzero : ¬ 0 < (map.counted tags).countP (·.1 = c) := by
      intro hpos
      obtain ⟨e, he, heq⟩ := List.countP_pos_iff.mp hpos
      exact hc (List.mem_map.mpr ⟨e, he, of_decide_eq_true heq⟩)
    rw [if_neg hzero, OrderedMap.get?_accumulate_of_not_mem hc]

/-- The counts of a name by category. -/
theorem get_foldl_increment (es : List (Category × String)) (c : Category) :
    (es.foldl (fun d e => d.increment e.1) Counts.zero).get c = es.countP (·.1 = c) := by
  induction es using List.reverseRecOn with
  | nil => exact Counts.get_zero c
  | append_singleton es e ih =>
    rw [List.foldl_append, List.foldl_cons, List.foldl_nil, Counts.get_increment, ih,
      List.countP_append, List.countP_singleton]
    simp

theorem identifierList_ofPairs :
    (ofPairs map tags).identifierList =
      ((map.counted tags).map Prod.snd).eraseDups.map fun name =>
        ⟨name,
          ((map.counted tags).filter (·.2 = name)).foldl (fun d e => d.increment e.1) .zero⟩ := by
  rw [identifierList, ofPairs_eq, OrderedMap.toList_accumulate, List.map_map]
  rfl

/-- The names that count, in the order in which they first occur. -/
theorem names_identifierList :
    (ofPairs map tags).identifierList.map (·.name) =
      ((map.counted tags).map Prod.snd).eraseDups := by
  rw [identifierList_ofPairs, List.map_map]
  exact List.map_id _

theorem get_counts_of_mem {i : Identifier} (hi : i ∈ (ofPairs map tags).identifierList)
    (c : Category) : i.counts.get c = (map.counted tags).count (c, i.name) := by
  rw [identifierList_ofPairs] at hi
  obtain ⟨name, -, rfl⟩ := List.mem_map.mp hi
  rw [get_foldl_increment, List.countP_filter, List.count]
  apply List.countP_congr
  intro e _
  simp [Prod.ext_iff]

/-- Each tag that counts toward a category counts for one name. -/
theorem sum_counts (c : Category) :
    ((ofPairs map tags).identifierList.map (·.counts.get c)).sum =
      (map.counted tags).countP (·.1 = c) := by
  have hnodup : ((map.counted tags).map Prod.snd).eraseDups.Nodup := by
    have hkeys := (ofPairs map tags).identifiers.nodup
    rw [ofPairs_eq] at hkeys
    rw [← OrderedMap.keys_accumulate]
    exact hkeys
  have hkeys : ∀ e ∈ map.counted tags, e.2 ∈ ((map.counted tags).map Prod.snd).eraseDups :=
    fun e he => List.mem_eraseDups.mpr (List.mem_map_of_mem he)
  rw [← (perm_flatMap_filter hnodup hkeys).countP_eq, List.countP_flatMap, identifierList_ofPairs,
    List.map_map]
  congr 1
  apply List.map_congr_left
  intro name _
  exact get_foldl_increment _ c

end Tally

end NameFlow.Vocabulary
