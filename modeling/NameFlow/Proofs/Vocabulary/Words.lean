import Mathlib.Data.List.Basic
import Mathlib.Data.List.TakeWhile
import NameFlow.Vocabulary.Words

/-!
# What a word looks like

Whatever the identifier, its words are small letters with digits behind them, and no word is
without a letter. The reading keeps to this at every character: what is pending is either digits
only or such a word already.
-/

namespace NameFlow.Vocabulary

set_option autoImplicit false

/-- One or more small letters, and then digits if there are any. -/
def IsWord (cs : List Char) : Prop :=
  ∃ letters digits, cs = letters ++ digits ∧ letters ≠ [] ∧
    (∀ c ∈ letters, c.isLower = true) ∧ ∀ c ∈ digits, c.isDigit = true

variable {cs word : List Char} {c : Char}

theorem between_iff (low high c : Char) :
    c.val ≥ low.val ∧ c.val ≤ high.val ↔ low.toNat ≤ c.toNat ∧ c.toNat ≤ high.toNat := by
  rw [ge_iff_le, UInt32.le_iff_toNat_le, UInt32.le_iff_toNat_le, Char.toNat_val, Char.toNat_val,
    Char.toNat_val]

theorem isBetween_iff (low high c : Char) :
    (decide (c.val ≥ low.val) && decide (c.val ≤ high.val)) = true ↔
      low.toNat ≤ c.toNat ∧ c.toNat ≤ high.toNat := by
  rw [Bool.and_eq_true, decide_eq_true_iff, decide_eq_true_iff]
  exact between_iff low high c

theorem isUpper_iff : c.isUpper = true ↔ 65 ≤ c.toNat ∧ c.toNat ≤ 90 :=
  decide_eq_true_iff.trans (between_iff 'A' 'Z' c)

theorem isLower_iff : c.isLower = true ↔ 97 ≤ c.toNat ∧ c.toNat ≤ 122 := isBetween_iff 'a' 'z' c

theorem isDigit_iff : c.isDigit = true ↔ 48 ≤ c.toNat ∧ c.toNat ≤ 57 := isBetween_iff '0' '9' c

theorem toNat_toLower (h : c.isUpper = true) : c.toLower.toNat = c.toNat + 32 := by
  obtain ⟨hlow, hhigh⟩ := isUpper_iff.mp h
  have hrange : c.val ≥ 'A'.val ∧ c.val ≤ 'Z'.val := of_decide_eq_true h
  have hval : c.toLower.val = c.val + 32 := by
    unfold Char.toLower
    rw [dif_pos hrange]
    rfl
  have hthirtyTwo : (32 : UInt32).toNat = 32 := rfl
  rw [← Char.toNat_val, hval, UInt32.toNat_add, Char.toNat_val, hthirtyTwo]
  omega

theorem isLower_toLower (h : c.isUpper = true) : c.toLower.isLower = true := by
  rw [isLower_iff, toNat_toLower h]
  obtain ⟨hlow, hhigh⟩ := isUpper_iff.mp h
  omega

theorem toLower_eq_self (h : ¬ c.isUpper = true) : c.toLower = c := by
  unfold Char.toLower
  exact dif_neg fun hrange => h (decide_eq_true hrange)

theorem isAlpha_eq (c : Char) : c.isAlpha = (c.isUpper || c.isLower) := rfl

theorem not_isUpper_of_isLower (h : c.isLower = true) : ¬ c.isUpper = true := by
  rw [isLower_iff] at h
  rw [isUpper_iff]
  omega

theorem not_isAlpha_of_isDigit (h : c.isDigit = true) : ¬ c.isAlpha = true := by
  rw [isDigit_iff] at h
  rw [isAlpha_eq, Bool.or_eq_true, isUpper_iff, isLower_iff]
  omega

namespace IsWord

theorem letter (hc : c.isLower = true) (h : ∀ d ∈ cs, d.isDigit = true) : IsWord (c :: cs) :=
  ⟨[c], cs, rfl, List.cons_ne_nil c [], by simpa using hc, h⟩

theorem cons (hc : c.isLower = true) (h : IsWord word) : IsWord (c :: word) := by
  obtain ⟨letters, digits, rfl, -, hletters, hdigits⟩ := h
  exact ⟨c :: letters, digits, rfl, List.cons_ne_nil c letters,
    List.forall_mem_cons.mpr ⟨hc, hletters⟩, hdigits⟩

theorem ne_nil (h : IsWord word) : word ≠ [] := by
  obtain ⟨letters, digits, rfl, hne, -⟩ := h
  exact List.append_ne_nil_of_left_ne_nil hne digits

theorem letter_or_digit (h : IsWord word) (hc : c ∈ word) :
    c.isLower = true ∨ c.isDigit = true := by
  obtain ⟨letters, digits, rfl, -, hletters, hdigits⟩ := h
  rcases List.mem_append.mp hc with hc | hc
  · exact Or.inl (hletters c hc)
  · exact Or.inr (hdigits c hc)

theorem iff_letters_digits :
    IsWord word ↔
      (word.head?.any Char.isLower && (word.dropWhile Char.isLower).all Char.isDigit) = true := by
  rw [Bool.and_eq_true, List.all_eq_true]
  constructor
  · rintro ⟨letters, digits, rfl, hne, hletters, hdigits⟩
    rw [List.dropWhile_append_of_pos hletters]
    refine ⟨?_, fun c hc => hdigits c ((List.dropWhile_sublist _).mem hc)⟩
    rcases letters with _ | ⟨c, letters⟩
    · exact absurd rfl hne
    · exact hletters c List.mem_cons_self
  · rintro ⟨hhead, hdigits⟩
    refine ⟨_, _, List.takeWhile_append_dropWhile.symm, ?_, fun c hc => ?_, hdigits⟩
    · rcases word with _ | ⟨c, word⟩
      · cases hhead
      · have hlower : c.isLower = true := hhead
        rw [List.takeWhile_cons_of_pos hlower]
        exact List.cons_ne_nil _ _
    · exact List.mem_takeWhile_imp hc

instance : DecidablePred IsWord := fun _ => decidable_of_iff _ iff_letters_digits.symm

end IsWord

/-- Pending digits are digits, and a pending word is one. -/
def Pending.Sound : Pending → Prop
  | .digits word => ∀ c ∈ word, c.isDigit = true
  | .small word | .capital word => IsWord word

structure Reading.Sound (r : Reading) : Prop where
  pending : r.pending.Sound
  words : ∀ word ∈ r.words, IsWord word

namespace Reading.Sound

variable {r : Reading}

theorem finish (h : r.Sound) : ∀ word ∈ r.finish, IsWord word := by
  obtain ⟨pending, words⟩ := r
  obtain ⟨hpending, hwords⟩ := h
  cases pending with
  | digits word => exact hwords
  | small word | capital word => exact List.forall_mem_cons.mpr ⟨hpending, hwords⟩

theorem take (h : r.Sound) (c : Char) : (Reading.take c r).Sound := by
  have hfinish := h.finish
  obtain ⟨pending, words⟩ := r
  obtain ⟨hpending, hwords⟩ := h
  unfold Reading.take
  split
  · rename_i hlower
    cases pending with
    | digits word => exact ⟨.letter hlower hpending, hwords⟩
    | small word => exact ⟨hpending.cons hlower, hwords⟩
    | capital word => exact ⟨.letter hlower (by simp), hfinish⟩
  split
  · rename_i hupper
    have hlower := isLower_toLower hupper
    cases pending with
    | digits word => exact ⟨.letter hlower hpending, hwords⟩
    | small word =>
      exact ⟨by simp [Pending.Sound], List.forall_mem_cons.mpr ⟨hpending.cons hlower, hwords⟩⟩
    | capital word => exact ⟨hpending.cons hlower, hwords⟩
  split
  · rename_i hdigit
    cases pending with
    | digits word => exact ⟨List.forall_mem_cons.mpr ⟨hdigit, hpending⟩, hwords⟩
    | small word | capital word => exact ⟨by simpa [Pending.Sound] using hdigit, hfinish⟩
  · exact ⟨by simp [Pending.Sound], hfinish⟩

theorem read (cs : List Char) : (cs.foldr Reading.take ⟨.digits [], []⟩).Sound := by
  induction cs with
  | nil => exact ⟨by simp [Pending.Sound], by simp⟩
  | cons c cs ih => exact ih.take c

end Reading.Sound

theorem isWord_of_mem_splitChars (h : word ∈ splitChars cs) : IsWord word :=
  (Reading.Sound.read cs).finish word h

theorem isWord_of_mem_splitWords {name w : String} (h : w ∈ splitWords name) :
    IsWord w.toList := by
  obtain ⟨word, hword, rfl⟩ := List.mem_map.mp h
  rw [String.toList_ofList]
  exact isWord_of_mem_splitChars hword

end NameFlow.Vocabulary
