import NameFlow.Text.Count

/-!
# Counts that are written and read

Reading digits from left to right gives larger and larger numbers, so that digits whose number is
below the limit are read to their end. A number is written with digits only, hence a count that is
written in decimal is read as itself.
-/

namespace NameFlow.Text

set_option autoImplicit false

variable {cs : List Char}

/-- Further digits never make a number smaller. -/
theorem le_ofDigitChars (cs : List Char) (n : Nat) : n ≤ Nat.ofDigitChars 10 cs n := by
  induction cs generalizing n with
  | nil => exact Nat.le_refl n
  | cons c cs ih =>
    rw [Nat.ofDigitChars_cons]
    have hrest := ih (10 * n + (c.toNat - '0'.toNat))
    omega

/-- Digits of a number below the limit are read to their end. -/
theorem readDigits_of_digits (h : ∀ c ∈ cs, c.isDigit = true) {n : Nat}
    (hlimit : Nat.ofDigitChars 10 cs n < countLimit) :
    readDigits n cs = .ok (Nat.ofDigitChars 10 cs n) := by
  induction cs generalizing n with
  | nil => rfl
  | cons c cs ih =>
    rw [List.forall_mem_cons] at h
    rw [Nat.ofDigitChars_cons, Nat.mul_comm] at hlimit ⊢
    have hn : n * 10 + (c.toNat - '0'.toNat) < countLimit :=
      Nat.lt_of_le_of_lt (le_ofDigitChars cs _) hlimit
    rw [readDigits, if_pos h.1]
    simp only [if_pos hn]
    exact ih h.2 hlimit

theorem toList_toString (n : Nat) : (toString n).toList = Nat.toDigits 10 n := by
  rw [Nat.toString_eq_repr, Nat.toList_repr]

theorem isDigit_of_mem_toString {n : Nat} {c : Char} (h : c ∈ (toString n).toList) :
    c.isDigit = true := by
  rw [toList_toString] at h
  exact Nat.isDigit_of_mem_toDigits (by decide) (by decide) h

theorem toString_ne_nil (n : Nat) : (toString n).toList ≠ [] := by
  rw [toList_toString]
  exact Nat.toDigits_ne_nil

theorem readCount_of_digits (h : ∀ c ∈ cs, c.isDigit = true) (hne : cs ≠ []) :
    readCount cs = readDigits 0 cs := by
  cases cs with
  | nil => exact absurd rfl hne
  | cons c cs =>
    have hc : c ≠ '+' := by
      rintro rfl
      exact absurd (h '+' List.mem_cons_self) (by decide)
    simp [readCount, hc]

/-- A count that is written in decimal is read as itself. -/
theorem readCount_toString {n : Nat} (h : n < countLimit) :
    readCount (toString n).toList = .ok n := by
  have hdigits : ∀ c ∈ (toString n).toList, c.isDigit = true := fun c => isDigit_of_mem_toString
  have hvalue : Nat.ofDigitChars 10 (toString n).toList 0 = n := by
    rw [toList_toString]
    exact Nat.ofDigitChars_ten_toDigits
  rw [readCount_of_digits hdigits (toString_ne_nil n),
    readDigits_of_digits hdigits (by rwa [hvalue]), hvalue]

/-- Digits are read to their end only if they make a number below the limit. -/
theorem readDigits_eq_ok_iff {n m : Nat} (hn : n < countLimit) :
    readDigits n cs = .ok m ↔
      (∀ c ∈ cs, c.isDigit = true) ∧ Nat.ofDigitChars 10 cs n = m ∧ m < countLimit := by
  constructor
  · intro h
    induction cs generalizing n with
    | nil =>
      cases h
      exact ⟨fun c hc => absurd hc List.not_mem_nil, rfl, hn⟩
    | cons c cs ih =>
      rw [readDigits] at h
      split at h
      · rename_i hc
        dsimp only at h
        split at h
        · rename_i hlimit
          obtain ⟨hdigits, hvalue, hm⟩ := ih hlimit h
          rw [Nat.ofDigitChars_cons, Nat.mul_comm]
          exact ⟨List.forall_mem_cons.mpr ⟨hc, hdigits⟩, hvalue, hm⟩
        · cases h
      · cases h
  · rintro ⟨hdigits, rfl, hm⟩
    exact readDigits_of_digits hdigits hm

/-- A text that is a count: digits of a number below the limit, with or without a plus sign. -/
def IsCount (cs : List Char) (n : Nat) : Prop :=
  ∃ digits, (cs = digits ∨ cs = '+' :: digits) ∧ digits ≠ [] ∧
    (∀ c ∈ digits, c.isDigit = true) ∧ Nat.ofDigitChars 10 digits 0 = n ∧ n < countLimit

theorem readCount_plus (h : cs ≠ []) : readCount ('+' :: cs) = readDigits 0 cs := by
  cases cs with
  | nil => exact absurd rfl h
  | cons c cs => rfl

/-- A count is read from a text that is one, and from no other. -/
theorem readCount_eq_ok_iff {n : Nat} : readCount cs = .ok n ↔ IsCount cs n := by
  have hzero : 0 < countLimit := by decide
  constructor
  · intro h
    unfold readCount at h
    split at h
    · cases h
    · cases h
    · rename_i digits hne
      exact ⟨digits, .inr rfl, fun hnil => hne (by rw [hnil]), (readDigits_eq_ok_iff hzero).mp h⟩
    · rename_i hne _ _
      exact ⟨cs, .inl rfl, hne, (readDigits_eq_ok_iff hzero).mp h⟩
  · rintro ⟨digits, rfl | rfl, hne, hdigits, hvalue⟩
    · rw [readCount_of_digits hdigits hne]
      exact (readDigits_eq_ok_iff hzero).mpr ⟨hdigits, hvalue⟩
    · rw [readCount_plus hne]
      exact (readDigits_eq_ok_iff hzero).mpr ⟨hdigits, hvalue⟩

end NameFlow.Text
