import Mathlib.Data.List.Chain
import NameFlow.Proofs.Vocabulary.Words

/-!
# Identifiers put together from words

Words joined by underscores are found again, and an underscore separates whatever stands on its two
sides. Words with a capital each are found again unless two of them run together: a letter alone
before a word of one letter makes one word of two capitals. The reason is that a word that has been
read leaves nothing pending that a word to its left could take up, a single capital apart.
-/

namespace NameFlow.Vocabulary

set_option autoImplicit false

/-- Words joined by underscores. -/
def snakeCase (words : List String) : String := String.intercalate "_" words

/-- A word with a capital in front. -/
def capitalized (w : String) : String := String.ofList (w.toList.modifyHead Char.toUpper)

/-- Words with a capital each. -/
def upperCamelCase (words : List String) : String := String.join (words.map capitalized)

/-- Words with a capital each but the first. -/
def lowerCamelCase (words : List String) : String :=
  String.join (words.take 1 ++ (words.drop 1).map capitalized)

/-- A letter alone before a word of one letter, with digits or without. -/
def RunTogether (v w : List Char) : Prop := v.length = 1 ∧ w.countP Char.isAlpha = 1

instance (v w : List Char) : Decidable (RunTogether v w) := inferInstanceAs (Decidable (_ ∧ _))

/-- No two neighbours run together. -/
def Discernible (ws : List (List Char)) : Prop := ws.IsChain fun v w => ¬ RunTogether v w

instance (ws : List (List Char)) : Decidable (Discernible ws) :=
  inferInstanceAs (Decidable (ws.IsChain _))

variable {c : Char} {word digits : List Char} {ws : List (List Char)} {r : Reading}

section Characters

theorem toNat_toUpper (h : c.isLower = true) : c.toUpper.toNat + 32 = c.toNat := by
  obtain ⟨hlow, hhigh⟩ := isLower_iff.mp h
  have hrange : 'a'.val ≤ c.val ∧ c.val ≤ 'z'.val := by
    rw [UInt32.le_iff_toNat_le, UInt32.le_iff_toNat_le]
    exact ⟨hlow, hhigh⟩
  have hval : c.toUpper.val = c.val + ('A'.val - 'a'.val) := by
    unfold Char.toUpper
    rw [dif_pos hrange]
  have hstep : ('A'.val - 'a'.val : UInt32).toNat = 4294967264 := rfl
  rw [← Char.toNat_val, hval, UInt32.toNat_add, Char.toNat_val, hstep]
  omega

theorem isUpper_toUpper (h : c.isLower = true) : c.toUpper.isUpper = true := by
  have hnat := toNat_toUpper h
  obtain ⟨hlow, hhigh⟩ := isLower_iff.mp h
  rw [isUpper_iff]
  omega

theorem toLower_toUpper (h : c.isLower = true) : c.toUpper.toLower = c := by
  apply Char.toNat_inj.mp
  rw [toNat_toLower (isUpper_toUpper h), toNat_toUpper h]

end Characters

/-- A word is a letter before digits, or a letter before a word. -/
theorem IsWord.exists_cons (h : IsWord word) :
    ∃ c rest, word = c :: rest ∧ c.isLower = true ∧
      ((∀ d ∈ rest, d.isDigit = true) ∨ IsWord rest) := by
  obtain ⟨letters, digits, rfl, hne, hletters, hdigits⟩ := h
  rcases letters with _ | ⟨c, letters⟩
  · exact absurd rfl hne
  rw [List.forall_mem_cons] at hletters
  refine ⟨c, letters ++ digits, rfl, hletters.1, ?_⟩
  rcases letters with _ | ⟨d, letters⟩
  · exact Or.inl hdigits
  · exact Or.inr ⟨d :: letters, digits, rfl, List.cons_ne_nil d letters, hletters.2, hdigits⟩

namespace Reading

/-- With more words behind those read. -/
def before (r : Reading) (ws : List (List Char)) : Reading := ⟨r.pending, r.words ++ ws⟩

theorem finish_before (r : Reading) (ws : List (List Char)) :
    (r.before ws).finish = r.finish ++ ws := by
  obtain ⟨pending, words⟩ := r
  cases pending <;> rfl

/-- What is read does not depend on the words behind it. -/
theorem take_before (c : Char) (r : Reading) (ws : List (List Char)) :
    take c (r.before ws) = (take c r).before ws := by
  have hfinish := r.finish_before ws
  obtain ⟨pending, words⟩ := r
  unfold take
  rw [hfinish]
  split
  · cases pending <;> rfl
  split
  · cases pending <;> rfl
  split
  · cases pending <;> rfl
  · rfl

theorem read_before (cs : List Char) (r : Reading) (ws : List (List Char)) :
    cs.foldr take (r.before ws) = (cs.foldr take r).before ws := by
  induction cs with
  | nil => rfl
  | cons c cs ih => rw [List.foldr_cons, ih, take_before, List.foldr_cons]

/-- A small letter would start a word in front of these digits and these words. -/
inductive Opens : Reading → List Char → List (List Char) → Prop
  | digits (digits : List Char) (ws : List (List Char)) : Opens ⟨.digits digits, ws⟩ digits ws
  | capital (word : List Char) (ws : List (List Char)) : Opens ⟨.capital word, ws⟩ [] (word :: ws)

namespace Opens

theorem finish (h : r.Opens digits ws) : r.finish = ws := by
  cases h <;> rfl

theorem take_digit (h : r.Opens digits ws) (hc : c.isDigit = true) :
    (take c r).Opens (c :: digits) ws := by
  have halpha := not_isAlpha_of_isDigit hc
  rw [isAlpha_eq, Bool.or_eq_true, not_or] at halpha
  unfold take
  rw [if_neg halpha.2, if_neg halpha.1, if_pos hc]
  cases h with
  | digits => exact .digits (c :: digits) ws
  | capital word ws => exact .digits [c] (word :: ws)

theorem take_small (h : r.Opens digits ws) (hc : c.isLower = true) :
    take c r = ⟨.small (c :: digits), ws⟩ := by
  unfold take
  rw [if_pos hc]
  cases h <;> rfl

theorem read_digits (h : r.Opens [] ws) (hdigits : ∀ d ∈ digits, d.isDigit = true) :
    (digits.foldr take r).Opens digits ws := by
  induction digits with
  | nil => exact h
  | cons d digits ih =>
    rw [List.forall_mem_cons] at hdigits
    exact (ih hdigits.2).take_digit hdigits.1

theorem read_word (h : r.Opens [] ws) (hword : IsWord word) :
    word.foldr take r = ⟨.small word, ws⟩ := by
  induction word with
  | nil => exact absurd rfl hword.ne_nil
  | cons c rest ih =>
    obtain ⟨c', rest', heq, hc, hrest⟩ := hword.exists_cons
    obtain ⟨rfl, rfl⟩ := List.cons.inj heq
    rw [List.foldr_cons]
    rcases hrest with hdigits | hrest
    · exact (h.read_digits hdigits).take_small hc
    · rw [ih hrest]
      unfold take
      rw [if_pos hc]

end Opens

/-- A capital ends a small word in front; otherwise it starts a word of capitals or goes on with
one. -/
theorem take_capital (hc : c.isLower = true) (word : List Char) (ws : List (List Char)) :
    take c.toUpper ⟨.digits word, ws⟩ = ⟨.capital (c :: word), ws⟩ ∧
      take c.toUpper ⟨.small word, ws⟩ = ⟨.digits [], (c :: word) :: ws⟩ ∧
      take c.toUpper ⟨.capital word, ws⟩ = ⟨.capital (c :: word), ws⟩ := by
  have hupper := isUpper_toUpper hc
  have hlower : ¬ c.toUpper.isLower = true := fun h => not_isUpper_of_isLower h hupper
  unfold take
  simp only [if_neg hlower, if_pos hupper, toLower_toUpper hc]
  exact ⟨trivial, trivial, trivial⟩

/-- What a word with a capital does: it stands alone if it has two letters, it may be taken up by
what comes next if it has one, and a letter alone is taken up by a capital that is pending. -/
theorem Opens.read_capitalized (h : r.Opens [] ws) (hword : IsWord word) :
    (word.countP Char.isAlpha ≠ 1 ∧
        (word.modifyHead Char.toUpper).foldr take r = ⟨.digits [], word :: ws⟩) ∨
      (word.countP Char.isAlpha = 1 ∧ (word.length = 1 → r.pending = .digits []) ∧
        (word.modifyHead Char.toUpper).foldr take r = ⟨.capital word, ws⟩) ∨
      (word.length = 1 ∧ ∃ w rest, r = ⟨.capital w, rest⟩ ∧
        (word.modifyHead Char.toUpper).foldr take r = ⟨.capital (word ++ w), rest⟩) := by
  obtain ⟨c, rest, rfl, hc, hrest⟩ := hword.exists_cons
  have halpha : c.isAlpha = true := by rw [isAlpha_eq, hc, Bool.or_true]
  rw [List.modifyHead_cons, List.foldr_cons, List.countP_cons_of_pos halpha]
  rcases hrest with hdigits | hrest
  · have hnone : rest.countP Char.isAlpha = 0 :=
      List.countP_eq_zero.mpr fun d hd => not_isAlpha_of_isDigit (hdigits d hd)
    have hread := h.read_digits hdigits
    rcases rest with _ | ⟨d, rest⟩
    · cases h with
      | digits => exact Or.inr (Or.inl ⟨by rw [hnone], fun _ => rfl, (take_capital hc [] ws).1⟩)
      | capital w ws => exact Or.inr (Or.inr ⟨rfl, w, ws, rfl, (take_capital hc w ws).2.2⟩)
    · -- Digits are in the way of a capital that is pending.
      generalize (d :: rest).foldr take r = read at hread
      cases hread
      refine Or.inr (Or.inl ⟨by rw [hnone], fun hlength => ?_, (take_capital hc (d :: rest) ws).1⟩)
      exact absurd hlength (by simp)
  · have hmore : rest.countP Char.isAlpha ≠ 0 := by
      obtain ⟨d, tail, rfl, hd, -⟩ := hrest.exists_cons
      rw [List.countP_cons_of_pos (by rw [isAlpha_eq, hd, Bool.or_true])]
      exact Nat.succ_ne_zero _
    rw [h.read_word hrest]
    exact Or.inl ⟨by omega, (take_capital hc rest ws).2.1⟩

end Reading

/-- A letter alone has one letter. -/
theorem IsWord.countP_of_length (h : IsWord word) (hlength : word.length = 1) :
    word.countP Char.isAlpha = 1 := by
  obtain ⟨c, rest, rfl, hc, -⟩ := h.exists_cons
  obtain rfl : rest = [] := by simpa using hlength
  rw [List.countP_cons_of_pos (by rw [isAlpha_eq, hc, Bool.or_true]), List.countP_nil]

/-- The characters of words with a capital each. -/
def camelChars (ws : List (List Char)) : List Char := ws.flatMap (List.modifyHead Char.toUpper)

/-- What is known of a reading of words with a capital each: the words found are these if no two run
together and fewer if some do, and a capital is pending exactly if the first word has one letter. -/
structure Reading.Finds (r : Reading) (ws found : List (List Char)) : Prop where
  opens : r.Opens [] found
  found : Discernible ws ∧ found = ws ∨ ¬ Discernible ws ∧ found.length < ws.length
  pending : r.pending = .digits [] ↔ ∀ w ∈ ws.head?, w.countP Char.isAlpha ≠ 1

theorem discernible_cons {v : List Char} :
    Discernible (v :: ws) ↔ (∀ w ∈ ws.head?, ¬ RunTogether v w) ∧ Discernible ws :=
  List.isChain_cons

namespace Reading.Finds

variable {found : List (List Char)}

theorem length_le (h : r.Finds ws found) : found.length ≤ ws.length := by
  rcases h.found with ⟨-, rfl⟩ | ⟨-, hlt⟩
  · exact Nat.le_refl _
  · exact Nat.le_of_lt hlt

/-- A word that does not run together with the next one is found in front of the others. -/
theorem cons_found (h : r.Finds ws found) (hnext : ∀ w ∈ ws.head?, ¬ RunTogether word w) :
    Discernible (word :: ws) ∧ word :: found = word :: ws ∨
      ¬ Discernible (word :: ws) ∧ (word :: found).length < (word :: ws).length := by
  rw [discernible_cons]
  rcases h.found with ⟨hws, rfl⟩ | ⟨hws, hlt⟩
  · exact Or.inl ⟨⟨hnext, hws⟩, rfl⟩
  · exact Or.inr ⟨fun hboth => hws hboth.2, Nat.succ_lt_succ hlt⟩

theorem read_capitalized (h : r.Finds ws found) (hword : IsWord word) :
    ∃ found', ((word.modifyHead Char.toUpper).foldr Reading.take r).Finds (word :: ws) found' := by
  rcases h.opens.read_capitalized hword with
    ⟨hletters, hread⟩ | ⟨hletters, hpending, hread⟩ | ⟨hlength, w, rest, rfl, hread⟩
  · refine ⟨word :: found, hread ▸ .digits [] _, h.cons_found ?_, ?_⟩
    · intro w hw hrun
      exact hletters (hword.countP_of_length hrun.1)
    · simp [hread, hletters]
  · refine ⟨word :: found, hread ▸ .capital word found, h.cons_found ?_, ?_⟩
    · intro w hw hrun
      exact h.pending.mp (hpending hrun.1) w hw hrun.2
    · simp [hread, hletters]
  · have hopens := h.opens
    cases hopens
    refine ⟨(word ++ w) :: rest, hread ▸ .capital _ rest, Or.inr ⟨?_, ?_⟩, ?_⟩
    · rw [discernible_cons]
      rintro ⟨hnext, -⟩
      have hnone := h.pending.mpr fun v hv hone => hnext v hv ⟨hlength, hone⟩
      cases hnone
    · exact Nat.lt_succ_of_le h.length_le
    · simp [hread, hword.countP_of_length hlength]

theorem read_camel (hwords : ∀ w ∈ ws, IsWord w) :
    ∃ found, ((camelChars ws).foldr Reading.take ⟨.digits [], []⟩).Finds ws found := by
  induction ws with
  | nil => exact ⟨[], .digits [] [], Or.inl ⟨List.isChain_nil, rfl⟩, by simp [camelChars]⟩
  | cons word ws ih =>
    rw [List.forall_mem_cons] at hwords
    obtain ⟨found, hfound⟩ := ih hwords.2
    rw [camelChars, List.flatMap_cons, List.foldr_append]
    exact hfound.read_capitalized hwords.1

end Reading.Finds

/-- Words with a capital each are found again exactly if no two of them run together. -/
theorem splitChars_camelChars_iff (hwords : ∀ w ∈ ws, IsWord w) :
    splitChars (camelChars ws) = ws ↔ Discernible ws := by
  obtain ⟨found, hfinds⟩ := Reading.Finds.read_camel hwords
  rw [splitChars, hfinds.opens.finish]
  rcases hfinds.found with ⟨hws, rfl⟩ | ⟨hws, hlt⟩
  · exact ⟨fun _ => hws, fun _ => rfl⟩
  · refine ⟨fun heq => absurd (congrArg List.length heq) (Nat.ne_of_lt hlt), fun h => absurd h hws⟩

/-- A small word in front stands alone. -/
theorem splitChars_append_camelChars (hword : IsWord word) (hwords : ∀ w ∈ ws, IsWord w)
    (hws : Discernible ws) : splitChars (word ++ camelChars ws) = word :: ws := by
  obtain ⟨found, hfinds⟩ := Reading.Finds.read_camel hwords
  rw [splitChars, List.foldr_append, hfinds.opens.read_word hword]
  rcases hfinds.found with ⟨-, rfl⟩ | ⟨hnot, -⟩
  · rfl
  · exact absurd hws hnot

/-- An underscore keeps what stands before it apart from what stands behind it. -/
theorem splitChars_append_underscore (a b : List Char) :
    splitChars (a ++ '_' :: b) = splitChars a ++ splitChars b := by
  have hsplit : ('_' :: b).foldr Reading.take ⟨.digits [], []⟩ =
      Reading.before ⟨.digits [], []⟩ (splitChars b) := rfl
  rw [splitChars, List.foldr_append, hsplit, Reading.read_before, Reading.finish_before]
  rfl

theorem splitChars_word (hword : IsWord word) : splitChars word = [word] := by
  rw [splitChars, (Reading.Opens.digits [] []).read_word hword]
  rfl

theorem splitChars_intercalate (hwords : ∀ w ∈ ws, IsWord w) :
    splitChars (['_'].intercalate ws) = ws := by
  induction ws with
  | nil => rfl
  | cons word ws ih =>
    rw [List.forall_mem_cons] at hwords
    rcases ws with _ | ⟨next, ws⟩
    · rw [List.intercalate_singleton, splitChars_word hwords.1]
    · rw [List.intercalate_cons_cons, List.append_assoc, List.singleton_append,
        splitChars_append_underscore, splitChars_word hwords.1, ih hwords.2]
      rfl

section Strings

variable {words : List String}

theorem splitWords_eq_iff {name : String} :
    splitWords name = words ↔ splitChars name.toList = words.map String.toList := by
  have hback : ∀ ws : List (List Char), (ws.map String.ofList).map String.toList = ws := by
    intro ws
    simp [Function.comp_def]
  constructor
  · rintro rfl
    exact (hback _).symm
  · intro h
    rw [splitWords, h]
    simp [Function.comp_def]

theorem toList_snakeCase (words : List String) :
    (snakeCase words).toList = ['_'].intercalate (words.map String.toList) :=
  String.toList_intercalate

theorem toList_upperCamelCase (words : List String) :
    (upperCamelCase words).toList = camelChars (words.map String.toList) := by
  rw [upperCamelCase, String.toList_join, camelChars, List.flatMap_map, List.flatMap_map]
  simp only [capitalized, String.toList_ofList]

theorem lowerCamelCase_cons (w : String) (words : List String) :
    (lowerCamelCase (w :: words)).toList = w.toList ++ camelChars (words.map String.toList) := by
  rw [← toList_upperCamelCase, upperCamelCase, lowerCamelCase, String.toList_join,
    String.toList_join]
  rfl

/-- Words are found again when they are joined by underscores, and when each has a capital, or each
but the first, and no two run together. With a capital each they are found again only then. And an
underscore separates whatever stands on its sides. -/
theorem splitWords_undoes_composition :
    (∀ words : List String, (∀ w ∈ words, IsWord w.toList) →
      splitWords (snakeCase words) = words ∧
      (splitWords (upperCamelCase words) = words ↔ Discernible (words.map String.toList)) ∧
      (Discernible (words.map String.toList) → splitWords (lowerCamelCase words) = words)) ∧
    ∀ a b : String, splitWords (a ++ "_" ++ b) = splitWords a ++ splitWords b := by
  constructor
  · intro words hwords
    have hlists : ∀ w ∈ words.map String.toList, IsWord w := List.forall_mem_map.mpr hwords
    refine ⟨?_, ?_, ?_⟩
    · rw [splitWords_eq_iff, toList_snakeCase, splitChars_intercalate hlists]
    · rw [splitWords_eq_iff, toList_upperCamelCase, splitChars_camelChars_iff hlists]
    · intro hdiscernible
      rcases words with _ | ⟨w, words⟩
      · rfl
      · rw [List.map_cons, List.forall_mem_cons] at hlists
        rw [splitWords_eq_iff, lowerCamelCase_cons, List.map_cons,
          splitChars_append_camelChars hlists.1 hlists.2 (discernible_cons.mp hdiscernible).2]
  · intro a b
    have hsplit : (a ++ "_" ++ b).toList = a.toList ++ '_' :: b.toList := by simp
    rw [splitWords, hsplit, splitChars_append_underscore, List.map_append]
    rfl

/-- Letters alone next to digits and next to longer words, and then two that run together. -/
theorem point_words_found_again :
    splitWords "x2_y_point_z3" = ["x2", "y", "point", "z3"] ∧
      splitWords "X2YPointZ3" = ["x2", "y", "point", "z3"] ∧
      splitWords "x2YPointZ3" = ["x2", "y", "point", "z3"] ∧
      splitWords "PointXY3" ≠ ["point", "x", "y3"] := by
  have hwords : ∀ w ∈ ["x2", "y", "point", "z3"], IsWord w.toList := by decide
  have hrun : ∀ w ∈ ["point", "x", "y3"], IsWord w.toList := by decide
  obtain ⟨hsnake, hupper, hlower⟩ := splitWords_undoes_composition.1 _ hwords
  have hiff := (splitWords_undoes_composition.1 _ hrun).2.1
  exact ⟨hsnake, hupper.mpr (by decide), hlower (by decide),
    fun heq => absurd (hiff.mp heq) (by decide)⟩

end Strings

end NameFlow.Vocabulary
