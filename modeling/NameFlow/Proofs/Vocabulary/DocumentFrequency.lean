import Mathlib.Data.List.Count
import NameFlow.Proofs.Vocabulary.PhraseKey
import NameFlow.Vocabulary.Frequency

/-!
# Document frequencies

A frequency list grows by one stream at a time: the number of streams by one, and the count of every
key that the stream's phrases have by one. As no key is there twice and none is that of the number
of streams, the count of a key is the number of streams with a phrase of that key.
-/

namespace NameFlow.Vocabulary

set_option autoImplicit false

/-- No phrase stands under the key of the number of streams. -/
theorem key_ne_totalKey {p : Phrase} (hp : Wordly p.words) : p.key ≠ totalKey := by
  intro heq
  have hstar : '*' ∈ p.key.toList := by
    rw [heq]
    exact List.mem_singleton_self '*'
  rcases isKeyChar_of_mem_key hp hstar with hc | hc | hc
  · exact absurd hc (by decide)
  · exact absurd hc (by decide)
  · exact absurd hc (by decide)

theorem PhraseSet.WellKeyed.totalKey_not_mem {s : PhraseSet} (hs : s.WellKeyed) :
    totalKey ∉ s.keys := by
  intro hmem
  obtain ⟨p, hp, hkey⟩ := List.mem_map.mp hmem
  exact key_ne_totalKey (hs.wordly p hp) hkey

/-- Whether a stream with these phrases adds to the count of a key. -/
def PhraseSet.counts (s : PhraseSet) (key : String) : Bool := key = totalKey || s.keys.contains key

namespace FrequencyList

theorem get?_increment (m : OrderedMap String UInt64) (key key' : String) :
    (increment m key).get? key' =
      if key = key' then some ((m.get? key).getD 0 + 1) else m.get? key' :=
  OrderedMap.get?_update m key key' _

theorem get?_increments {keys : List String} (hkeys : keys.Nodup) (m : OrderedMap String UInt64)
    (key : String) :
    (keys.foldl increment m).get? key =
      if key ∈ keys then some ((m.get? key).getD 0 + 1) else m.get? key := by
  induction keys generalizing m with
  | nil => rfl
  | cons k keys ih =>
    rw [List.nodup_cons] at hkeys
    rw [List.foldl_cons, ih hkeys.2, get?_increment]
    by_cases hk : k = key
    · subst hk
      simp [hkeys.1]
    · have hk' : key ≠ k := fun heq => hk heq.symm
      simp [hk, hk']

/-- What a stream adds: one to each count that it adds to. -/
theorem get?_add {s : PhraseSet} (hs : s.WellKeyed) (l : FrequencyList) (key : String) :
    (l.add s).counts.get? key =
      if s.counts key then some ((l.counts.get? key).getD 0 + 1) else l.counts.get? key := by
  have hadd : (l.add s).counts.get? key =
      (s.keys.foldl increment (increment l.counts totalKey)).get? key := rfl
  rw [hadd, get?_increments hs.nodup, get?_increment]
  by_cases htotal : totalKey = key
  · subst htotal
    simp [PhraseSet.counts, hs.totalKey_not_mem]
  · have htotal' : key ≠ totalKey := fun heq => htotal heq.symm
    simp [PhraseSet.counts, htotal, htotal']

/-- What streams add: to each count the number of those that add to it. -/
theorem get?_adds {sets : List PhraseSet} (hsets : ∀ s ∈ sets, s.WellKeyed) (l : FrequencyList)
    (key : String) :
    (sets.foldl add l).counts.get? key =
      if sets.countP (·.counts key) = 0 then l.counts.get? key
      else some ((l.counts.get? key).getD 0 + .ofNat (sets.countP (·.counts key))) := by
  induction sets generalizing l with
  | nil => rfl
  | cons s sets ih =>
    rw [List.forall_mem_cons] at hsets
    rw [List.foldl_cons, ih hsets.2, get?_add hsets.1, List.countP_cons]
    by_cases hs : s.counts key = true
    · simp only [if_pos hs, Nat.add_eq_zero_iff, Nat.one_ne_zero, and_false, if_false,
        UInt64.ofNat_add, Option.getD_some]
      by_cases hrest : sets.countP (·.counts key) = 0
      · rw [if_pos hrest, hrest]
        rfl
      · rw [if_neg hrest, UInt64.add_assoc, UInt64.add_comm 1]
        rfl
    · simp only [if_neg hs, Nat.add_zero]

/-- The list of streams with these phrases. -/
def ofSets (sets : List PhraseSet) : FrequencyList := sets.foldl add empty

variable {sets : List PhraseSet} {key : String}

theorem countP_totalKey (sets : List PhraseSet) :
    sets.countP (·.counts totalKey) = sets.length := by
  simp [PhraseSet.counts]

theorem countP_of_ne (hkey : key ≠ totalKey) (sets : List PhraseSet) :
    sets.countP (·.counts key) = sets.countP fun s => decide (key ∈ s.keys) := by
  simp [PhraseSet.counts, hkey]

/-- Every count is the number of streams that add to it, as a word. -/
theorem counts_ofSets (hsets : ∀ s ∈ sets, s.WellKeyed) (key : String) :
    (ofSets sets).counts.get? key =
      if key ≠ totalKey ∧ sets.countP (·.counts key) = 0 then none
      else some (.ofNat (sets.countP (·.counts key))) := by
  have hempty : empty.counts.get? key = if totalKey = key then some 0 else none :=
    OrderedMap.get?_update ∅ totalKey key fun _ => 0
  rw [ofSets, get?_adds hsets, hempty]
  by_cases htotal : totalKey = key
  · subst htotal
    by_cases hnone : sets.countP (·.counts totalKey) = 0
    · simp [hnone]
    · simp [hnone]
  · have htotal' : key ≠ totalKey := fun heq => htotal heq.symm
    by_cases hnone : sets.countP (·.counts key) = 0
    · simp [hnone, htotal, htotal']
    · simp [hnone, htotal]

/-- Behind the last word the number of streams starts from zero again. -/
theorem total_ofSets (hsets : ∀ s ∈ sets, s.WellKeyed) :
    (ofSets sets).total = sets.length % Text.countLimit := by
  unfold total get?
  rw [counts_ofSets hsets, countP_totalKey, if_neg (by simp)]
  exact UInt64.toNat_ofNat'

theorem toNat_ofNat {n : Nat} (h : n < Text.countLimit) : (UInt64.ofNat n).toNat = n :=
  UInt64.toNat_ofNat'.trans (Nat.mod_eq_of_lt h)

/-- As long as a word can count the streams, all counts are exact. -/
theorem get?_ofSets (hsets : ∀ s ∈ sets, s.WellKeyed) (hlength : sets.length < Text.countLimit)
    (hkey : key ≠ totalKey) :
    (ofSets sets).get? key =
      if 0 < sets.countP (fun s => decide (key ∈ s.keys)) then
        some (sets.countP fun s => decide (key ∈ s.keys))
      else none := by
  have hle : sets.countP (fun s => decide (key ∈ s.keys)) ≤ sets.length := List.countP_le_length
  unfold get?
  rw [counts_ofSets hsets, countP_of_ne hkey]
  by_cases hnone : sets.countP (fun s => decide (key ∈ s.keys)) = 0
  · rw [if_pos ⟨hkey, hnone⟩, if_neg (by omega)]
    rfl
  · rw [if_neg (fun h => hnone h.2), if_pos (Nat.pos_of_ne_zero hnone), Option.map_some,
      toNat_ofNat (by omega)]

theorem get?_ofSets_perm {sets' : List PhraseSet} (hsets : ∀ s ∈ sets, s.WellKeyed)
    (hperm : sets'.Perm sets) : (ofSets sets').get? key = (ofSets sets).get? key := by
  have hsets' : ∀ s ∈ sets', s.WellKeyed := fun s hs => hsets s (hperm.mem_iff.mp hs)
  unfold get?
  rw [counts_ofSets hsets, counts_ofSets hsets', hperm.countP_eq]

/-- The list of texts of tags. -/
def ofTexts (map : RoleMap) (texts : List String) : FrequencyList :=
  ofSets (texts.map (PhraseSet.ofTags map))

/-- The number of texts with a phrase of this key. -/
def textsWith (map : RoleMap) (texts : List String) (key : String) : Nat :=
  texts.countP fun text => decide (key ∈ (PhraseSet.ofTags map text).keys)

theorem textsWith_eq (map : RoleMap) (texts : List String) (key : String) :
    (texts.map (PhraseSet.ofTags map)).countP (fun s => decide (key ∈ s.keys)) =
      textsWith map texts key := by
  simp only [List.countP_map, Function.comp_def, textsWith]

theorem wellKeyed_ofTags (map : RoleMap) (text : String) :
    (PhraseSet.ofTags map text).WellKeyed := wellKeyed_ofPairs map (PhraseSet.textTags text)

theorem wellKeyed_of_mem_texts (map : RoleMap) (texts : List String) :
    ∀ s ∈ texts.map (PhraseSet.ofTags map), s.WellKeyed := by
  intro s hs
  obtain ⟨text, -, rfl⟩ := List.mem_map.mp hs
  exact wellKeyed_ofTags map text

/-- The list of texts counts the texts, and under every other key those with a phrase of that key,
as long as a word can count them. A text has no phrase twice and none under the key of the number
of texts, so no count is larger than that number. The order of the texts does not matter. -/
theorem document_frequencies_exact (map : RoleMap) (texts : List String) :
    (texts.length < Text.countLimit →
      (ofTexts map texts).total = texts.length ∧
      ∀ key, key ≠ totalKey →
        (ofTexts map texts).get? key =
          (if 0 < textsWith map texts key then some (textsWith map texts key) else none) ∧
        ∀ n, (ofTexts map texts).get? key = some n → n ≤ (ofTexts map texts).total) ∧
    (∀ text key, (PhraseSet.ofTags map text).keys.count key ≤ 1) ∧
    (∀ text, totalKey ∉ (PhraseSet.ofTags map text).keys) ∧
    ∀ texts' : List String, texts'.Perm texts →
      ∀ key, (ofTexts map texts').get? key = (ofTexts map texts).get? key := by
  have hsets := wellKeyed_of_mem_texts map texts
  refine ⟨fun hlength => ?_, fun text key => ?_, fun text => ?_, fun texts' hperm key => ?_⟩
  · rw [← List.length_map (PhraseSet.ofTags map)] at hlength
    have htotal : (ofTexts map texts).total = texts.length := by
      rw [ofTexts, total_ofSets hsets, Nat.mod_eq_of_lt hlength, List.length_map]
    refine ⟨htotal, fun key hkey => ?_⟩
    have hget : (ofTexts map texts).get? key =
        if 0 < textsWith map texts key then some (textsWith map texts key) else none := by
      rw [ofTexts, get?_ofSets hsets hlength hkey, textsWith_eq]
    refine ⟨hget, fun n hn => ?_⟩
    rw [hget] at hn
    split at hn
    · rw [htotal, ← Option.some.inj hn]
      exact List.countP_le_length
    · cases hn
  · exact List.nodup_iff_count_le_one.mp (wellKeyed_ofTags map text).nodup key
  · exact (wellKeyed_ofTags map text).totalKey_not_mem
  · exact get?_ofSets_perm hsets (hperm.map _)

/-- Three texts: a word of several identifiers, a phrase of two words, and a stream with nothing in
every category. -/
def threeTexts : List String :=
  ["TUserName FgetUserName Vuser_name", "+ b.py\nTName fname vname aname\n", "TBox Vlid"]

theorem three_texts_counted :
    threeTexts.length < Text.countLimit ∧ (ofTexts default threeTexts).total = 3 ∧
      (ofTexts default threeTexts).get? "name" = some 2 ∧
      (ofTexts default threeTexts).get? "user/name" = some 1 ∧
      (ofTexts default threeTexts).get? "get" = none := by
  have hlength : threeTexts.length < Text.countLimit := by decide
  obtain ⟨htotal, hcounts⟩ := (document_frequencies_exact default threeTexts).1 hlength
  refine ⟨hlength, htotal, ?_, ?_, ?_⟩
  · rw [(hcounts "name" (by decide)).1]
    decide +kernel
  · rw [(hcounts "user/name" (by decide)).1]
    decide +kernel
  · rw [(hcounts "get" (by decide)).1]
    decide +kernel

end FrequencyList

end NameFlow.Vocabulary
