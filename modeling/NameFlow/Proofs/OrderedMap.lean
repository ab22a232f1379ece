import Mathlib.Data.List.Induction
import NameFlow.OrderedMap

/-!
# Keys and associations of an ordered map

A map is a list of associations with different keys, so an association is in it exactly if the key
is looked up to the value. Writing a new key adds it at the end; writing a known one changes no key.
So a map that entries are written to one by one has their keys in the order in which they first
occur, and what stands under a key was made from the entries with that key alone.
-/

namespace NameFlow

set_option autoImplicit false

universe u v w

namespace OrderedMap

variable {κ : Type u} {α : Type v}

theorem eq_of_toList {m m' : OrderedMap κ α} (h : m.toList = m'.toList) : m = m' := by
  cases m
  cases m'
  congr

variable [DecidableEq κ]

theorem mem_iff_find {l : List (κ × α)} (hl : (l.map Prod.fst).Nodup) {k : κ} {a : α} :
    (k, a) ∈ l ↔ find k l = some a := by
  induction l with
  | nil => simp [find]
  | cons p rest ih =>
    obtain ⟨k', a'⟩ := p
    rw [List.map_cons, List.nodup_cons] at hl
    by_cases hk : k' = k
    · subst hk
      have hrest : ¬ (k', a) ∈ rest := fun h => hl.1 (List.mem_map.mpr ⟨_, h, rfl⟩)
      simp [find, hrest, eq_comm]
    · have hk' : ¬ k = k' := fun e => hk e.symm
      simp [find, hk, hk', ih hl.2]

theorem mem_toList_iff {m : OrderedMap κ α} {k : κ} {a : α} :
    (k, a) ∈ m.toList ↔ m.get? k = some a := mem_iff_find m.nodup

theorem contains_iff {m : OrderedMap κ α} {k : κ} : m.contains k = true ↔ k ∈ m.keys := by
  unfold contains
  rw [Option.isSome_iff_exists]
  constructor
  · rintro ⟨a, ha⟩
    exact List.mem_map_of_mem (mem_toList_iff.mpr ha)
  · intro hk
    obtain ⟨p, hp, rfl⟩ := List.mem_map.mp hk
    exact ⟨p.2, mem_toList_iff.mp hp⟩

theorem keys_update_of_contains {m : OrderedMap κ α} {k : κ} (h : m.contains k = true)
    (f : Option α → α) : (m.update k f).keys = m.keys := by
  rw [keys_update, if_pos (contains_iff.mp h)]

theorem put_eq_self {k : κ} {f : Option α → α} {l : List (κ × α)} {a : α}
    (hk : find k l = some a) (hf : f (some a) = a) : put k f l = l := by
  induction l with
  | nil => exact nomatch hk
  | cons p rest ih =>
    obtain ⟨k', a'⟩ := p
    by_cases h : k' = k
    · rw [find, if_pos h] at hk
      rw [put, if_pos h, Option.some.inj hk, hf]
    · rw [find, if_neg h] at hk
      rw [put, if_neg h, ih hk]

/-- Writing what a key holds already changes nothing at all. -/
theorem update_eq_self {m : OrderedMap κ α} {k : κ} {f : Option α → α} {a : α}
    (hk : m.get? k = some a) (hf : f (some a) = a) : m.update k f = m := by
  obtain ⟨l, hl⟩ := m
  unfold update
  simp only [put_eq_self hk hf]

/-- A key that is not there goes to the end. -/
theorem put_of_not_mem {k : κ} {l : List (κ × α)} (h : k ∉ l.map Prod.fst) (f : Option α → α) :
    put k f l = l ++ [(k, f none)] := by
  induction l with
  | nil => rfl
  | cons p rest ih =>
    obtain ⟨k', a⟩ := p
    rw [List.map_cons, List.mem_cons, not_or] at h
    have hk : ¬ k' = k := fun heq => h.1 heq.symm
    rw [put, if_neg hk, ih h.2, List.cons_append]

theorem toList_insert_of_not_mem {m : OrderedMap κ α} {k : κ} (h : k ∉ m.keys) (a : α) :
    (m.insert k a).toList = m.toList ++ [(k, a)] := put_of_not_mem h fun _ => a

theorem mem_keys_update {m : OrderedMap κ α} {k k' : κ} {f : Option α → α} :
    k' ∈ (m.update k f).keys ↔ k' ∈ m.keys ∨ k' = k := by
  rw [keys_update]
  split
  · rename_i hk
    constructor
    · exact Or.inl
    · rintro (h | rfl)
      · exact h
      · exact hk
  · rw [List.mem_append, List.mem_singleton]

theorem mem_keys_inserts {es : List (κ × α)} {m : OrderedMap κ α} {k : κ} :
    k ∈ (es.foldl (fun m e => m.insert e.1 e.2) m).keys ↔ k ∈ m.keys ∨ k ∈ es.map Prod.fst := by
  induction es generalizing m with
  | nil => simp
  | cons e es ih => rw [List.foldl_cons, ih, insert, mem_keys_update, List.map_cons, List.mem_cons,
      or_assoc]

/-- Entries whose keys are new and different are appended in their order. -/
theorem toList_inserts {es : List (κ × α)} (hes : (es.map Prod.fst).Nodup) {m : OrderedMap κ α}
    (hnew : ∀ k ∈ es.map Prod.fst, k ∉ m.keys) :
    (es.foldl (fun m e => m.insert e.1 e.2) m).toList = m.toList ++ es := by
  induction es generalizing m with
  | nil => exact (List.append_nil _).symm
  | cons e es ih =>
    rw [List.map_cons, List.nodup_cons] at hes
    rw [List.map_cons, List.forall_mem_cons] at hnew
    have hrest : ∀ k ∈ es.map Prod.fst, k ∉ (m.insert e.1 e.2).keys := by
      intro k hk hmem
      rcases mem_keys_update.mp hmem with hmem | rfl
      · exact hnew.2 k hk hmem
      · exact hes.1 hk
    rw [List.foldl_cons, ih hes.2 hrest, toList_insert_of_not_mem hnew.1, List.append_assoc]
    rfl

theorem put_put (k : κ) (f g : Option α → α) (l : List (κ × α)) :
    put k g (put k f l) = put k (fun v => g (some (f v))) l := by
  induction l with
  | nil => simp [put]
  | cons p rest ih =>
    obtain ⟨k', a⟩ := p
    by_cases h : k' = k
    · simp only [put, if_pos h]
    · simp only [put, if_neg h, ih]

/-- What is written to a key that was just written is all that stays. -/
theorem update_insert (m : OrderedMap κ α) (k : κ) (a : α) (f : Option α → α) :
    (m.insert k a).update k f = m.insert k (f (some a)) :=
  eq_of_toList (put_put k (fun _ => a) f m.toList)

theorem toList_eq_map {m : OrderedMap κ α} {v : κ → α} (h : ∀ k ∈ m.keys, m.get? k = some (v k)) :
    m.toList = m.keys.map fun k => (k, v k) := by
  have hentry : ∀ p ∈ m.toList, (p.1, v p.1) = p := by
    intro p hp
    have hp' := mem_toList_iff.mp hp
    rw [h p.1 (List.mem_map_of_mem hp)] at hp'
    rw [Option.some.inj hp']
  have hmap : m.toList.map (fun p => (p.1, v p.1)) = m.toList := by
    rw [List.map_congr_left hentry, List.map_id']
  rw [keys, List.map_map]
  exact hmap.symm

/-- What is seen again adds nothing to what has been seen. -/
theorem eraseDups_concat (ks : List κ) (k : κ) :
    (ks ++ [k]).eraseDups = if k ∈ ks then ks.eraseDups else ks.eraseDups ++ [k] := by
  have hnew : [k].removeAll ks = [k].filter fun k' => !ks.elem k' := rfl
  rw [List.eraseDups_append, hnew]
  by_cases hk : k ∈ ks
  · rw [if_pos hk, List.filter_cons_of_neg (by simpa using hk), List.filter_nil, List.eraseDups_nil,
      List.append_nil]
  · rw [if_neg hk, List.filter_cons_of_pos (by simpa using hk), List.filter_nil,
      List.eraseDups_cons, List.filter_nil, List.eraseDups_nil]

section Entries

/-- Writes entries one by one, each over what its key holds already. -/
def insertAll (m : OrderedMap κ α) (es : List (κ × α)) : OrderedMap κ α :=
  es.foldl (fun m e => m.insert e.1 e.2) m

/-- The map of entries that are written one by one. -/
def ofEntries (es : List (κ × α)) : OrderedMap κ α := insertAll ∅ es

theorem ofEntries_concat (es : List (κ × α)) (e : κ × α) :
    ofEntries (es ++ [e]) = (ofEntries es).insert e.1 e.2 := by
  unfold ofEntries insertAll
  rw [List.foldl_append, List.foldl_cons, List.foldl_nil]

theorem keys_ofEntries (es : List (κ × α)) : (ofEntries es).keys = (es.map Prod.fst).eraseDups := by
  induction es using List.reverseRecOn with
  | nil => rfl
  | append_singleton es e ih =>
    rw [ofEntries_concat, insert, keys_update, ih, List.map_append, List.map_singleton,
      eraseDups_concat]
    simp only [List.mem_eraseDups]

/-- Of the entries of one key the last holds. -/
theorem get?_ofEntries_iff {es : List (κ × α)} {k : κ} {a : α} :
    (ofEntries es).get? k = some a ↔
      ∃ before after, es = before ++ (k, a) :: after ∧ k ∉ after.map Prod.fst := by
  induction es using List.reverseRecOn with
  | nil =>
    constructor
    · intro h
      cases h
    · rintro ⟨before, after, h, -⟩
      exact absurd h (List.append_ne_nil_of_right_ne_nil before (List.cons_ne_nil _ after)).symm
  | append_singleton es e ih =>
    rw [ofEntries_concat, insert, get?_update]
    constructor
    · intro h
      split at h
      · rename_i hk
        refine ⟨es, [], ?_, List.not_mem_nil⟩
        rw [← hk, ← Option.some.inj h]
      · rename_i hk
        obtain ⟨before, after, rfl, hafter⟩ := ih.mp h
        refine ⟨before, after ++ [e], by rw [List.append_assoc, List.cons_append], ?_⟩
        rw [List.map_append, List.mem_append, not_or, List.map_singleton, List.mem_singleton]
        exact ⟨hafter, fun heq => hk heq.symm⟩
    · rintro ⟨before, after, h, hafter⟩
      rcases List.eq_nil_or_concat after with rfl | ⟨after, last, rfl⟩
      · obtain ⟨-, rfl⟩ := List.append_inj' h rfl |>.imp_right List.singleton_inj.mp
        rw [if_pos rfl]
      · rw [List.concat_eq_append, ← List.cons_append, ← List.append_assoc] at h
        obtain ⟨rfl, heq⟩ := List.append_inj' h rfl
        obtain rfl := List.singleton_inj.mp heq
        rw [List.concat_eq_append, List.map_append, List.mem_append, not_or, List.map_singleton,
          List.mem_singleton] at hafter
        rw [if_neg fun heq => hafter.2 heq.symm]
        exact ih.mpr ⟨before, after, rfl, hafter.1⟩

/-- Of entries that stand at places in ascending order, the one at the last place of its key
holds. -/
theorem get?_ofEntries_placed_iff {l : List (Nat × κ × α)} (hl : l.Pairwise fun x y => x.1 < y.1)
    {k : κ} {a : α} :
    (ofEntries (l.map Prod.snd)).get? k = some a ↔
      ∃ i, (i, k, a) ∈ l ∧ ∀ j b, (j, k, b) ∈ l → j ≤ i := by
  rw [get?_ofEntries_iff]
  constructor
  · rintro ⟨before, after, hsplit, hafter⟩
    obtain ⟨l₁, l', rfl, rfl, hl'⟩ := List.map_eq_append_iff.mp hsplit
    obtain ⟨x, l₂, rfl, hx, rfl⟩ := List.map_eq_cons_iff.mp hl'
    rw [List.pairwise_append] at hl
    obtain ⟨-, -, hbefore⟩ := hl
    refine ⟨x.1, ?_, fun j b hj => ?_⟩
    · rw [← hx]
      exact List.mem_append_right l₁ List.mem_cons_self
    · rcases List.mem_append.mp hj with hj | hj
      · exact Nat.le_of_lt (hbefore _ hj x List.mem_cons_self)
      · rcases List.mem_cons.mp hj with rfl | hj
        · exact Nat.le_refl j
        · refine absurd ?_ hafter
          rw [List.map_map]
          exact List.mem_map.mpr ⟨_, hj, rfl⟩
  · rintro ⟨i, hi, hlast⟩
    obtain ⟨l₁, l₂, rfl⟩ := List.append_of_mem hi
    refine ⟨l₁.map Prod.snd, l₂.map Prod.snd, by rw [List.map_append, List.map_cons], ?_⟩
    intro hk
    rw [List.map_map] at hk
    obtain ⟨y, hy, rfl⟩ := List.mem_map.mp hk
    rw [List.pairwise_append, List.pairwise_cons] at hl
    obtain ⟨-, ⟨hlater, -⟩, -⟩ := hl
    have hle := hlast y.1 y.2.2 (List.mem_append_right l₁ (List.mem_cons_of_mem _ hy))
    exact absurd (hlater y hy) (Nat.not_lt.mpr hle)

end Entries

section Accumulate

variable {ε : Type w} {key : ε → κ} {g : α → ε → α} {init : α}

/-- The map of entries that are written one by one, each to what its key holds already. -/
def accumulate (key : ε → κ) (g : α → ε → α) (init : α) (es : List ε) : OrderedMap κ α :=
  es.foldl (fun m e => m.update (key e) fun v => g (v.getD init) e) ∅

theorem accumulate_concat (es : List ε) (e : ε) :
    accumulate key g init (es ++ [e]) =
      (accumulate key g init es).update (key e) fun v => g (v.getD init) e := by
  unfold accumulate
  rw [List.foldl_append, List.foldl_cons, List.foldl_nil]

theorem keys_accumulate (es : List ε) :
    (accumulate key g init es).keys = (es.map key).eraseDups := by
  induction es using List.reverseRecOn with
  | nil => rfl
  | append_singleton es e ih =>
    rw [accumulate_concat, keys_update, ih, List.map_append, List.map_singleton, eraseDups_concat]
    simp only [List.mem_eraseDups]

theorem mem_keys_accumulate {es : List ε} {k : κ} :
    k ∈ (accumulate key g init es).keys ↔ k ∈ es.map key := by
  rw [keys_accumulate, List.mem_eraseDups]

theorem getD_accumulate (es : List ε) (k : κ) :
    ((accumulate key g init es).get? k).getD init = (es.filter (key · = k)).foldl g init := by
  induction es using List.reverseRecOn with
  | nil => rfl
  | append_singleton es e ih =>
    rw [accumulate_concat, get?_update, List.filter_append, List.foldl_append, ← ih]
    by_cases hk : key e = k
    · subst hk
      rw [if_pos rfl, List.filter_cons_of_pos (by simp)]
      rfl
    · rw [if_neg hk, List.filter_cons_of_neg (by simpa using hk)]
      rfl

theorem get?_accumulate_of_mem {es : List ε} {k : κ} (hk : k ∈ es.map key) :
    (accumulate key g init es).get? k = some ((es.filter (key · = k)).foldl g init) := by
  have hheld : (accumulate key g init es).contains k = true :=
    contains_iff.mpr (mem_keys_accumulate.mpr hk)
  obtain ⟨v, hv⟩ := Option.isSome_iff_exists.mp hheld
  rw [← getD_accumulate es k, hv, Option.getD_some]

theorem get?_accumulate_of_not_mem {es : List ε} {k : κ} (hk : k ∉ es.map key) :
    (accumulate key g init es).get? k = none := by
  apply Option.not_isSome_iff_eq_none.mp
  intro hheld
  exact hk (mem_keys_accumulate.mp (contains_iff.mp hheld))

/-- The keys in the order in which they first occur, each with what was made of its entries. -/
theorem toList_accumulate (es : List ε) :
    (accumulate key g init es).toList =
      (es.map key).eraseDups.map fun k => (k, (es.filter (key · = k)).foldl g init) := by
  have hkeys : (accumulate key g init es).keys = (es.map key).eraseDups := keys_accumulate es
  rw [← hkeys]
  apply toList_eq_map
  intro k hk
  exact get?_accumulate_of_mem (mem_keys_accumulate.mp hk)

end Accumulate

end OrderedMap

end NameFlow
