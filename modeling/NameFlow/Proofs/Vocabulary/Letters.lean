import Mathlib.Data.List.DropRight
import NameFlow.Proofs.Vocabulary.Words

/-!
# What the words of an identifier keep of it

No letter of an identifier is lost and nothing is added: put one behind the other, its words are its
letters in lower case, with those digits that have a letter before their first one. The reading goes
from the end to the front and does not know yet what stands before pending digits, so two texts are
followed through it, what is kept if a letter stands there and what is kept if none does.
-/

namespace NameFlow.Vocabulary

set_option autoImplicit false

/-- Whether a letter stands before the digits that a text ends in, or at its end if there are none. -/
def endsLettered (before : List Char) : Bool :=
  (before.rdropWhile Char.isDigit).getLast?.any Char.isAlpha

/-- The letters of a text and the digits of those runs of digits that a letter stands before, in
lower case. -/
def keptChars (cs : List Char) : List Char :=
  (cs.zipIdx.filter fun e => e.1.isAlpha || e.1.isDigit && endsLettered (cs.take e.2)).map
    (·.1.toLower)

/-- The same read from the front, where `lettered` says whether digits would be kept. -/
def keptFrom (lettered : Bool) : List Char → List Char
  | [] => []
  | c :: cs =>
    if c.isAlpha || c.isDigit && lettered then c.toLower :: keptFrom true cs else keptFrom false cs

theorem endsLettered_concat (before : List Char) (c : Char) :
    endsLettered (before ++ [c]) = (c.isAlpha || c.isDigit && endsLettered before) := by
  unfold endsLettered
  rw [List.rdropWhile_concat]
  by_cases hdigit : c.isDigit = true
  · have halpha := Bool.eq_false_iff.mpr (not_isAlpha_of_isDigit hdigit)
    rw [if_pos hdigit, hdigit, halpha, Bool.false_or, Bool.true_and]
  · rw [if_neg hdigit, Bool.eq_false_iff.mpr hdigit, List.getLast?_concat, Option.any_some,
      Bool.false_and, Bool.or_false]

theorem keptFrom_eq (before cs : List Char) :
    keptFrom (endsLettered before) cs =
      ((cs.zipIdx before.length).filter fun e =>
        e.1.isAlpha || e.1.isDigit && endsLettered ((before ++ cs).take e.2)).map
          (·.1.toLower) := by
  -- The text before a character decides about it, so the induction moves it from `cs` to `before`.
  induction cs generalizing before with
  | nil => rfl
  | cons c cs ih =>
    have hrest := ih (before ++ [c])
    rw [endsLettered_concat, List.length_append, List.length_singleton, List.append_assoc,
      List.singleton_append] at hrest
    have htake : (before ++ c :: cs).take before.length = before := List.take_left
    rw [List.zipIdx_cons, List.filter_cons, htake, keptFrom]
    by_cases hkept : (c.isAlpha || c.isDigit && endsLettered before) = true
    · rw [hkept] at hrest
      rw [if_pos hkept, if_pos hkept, List.map_cons, hrest]
    · rw [Bool.eq_false_iff.mpr hkept] at hrest
      rw [if_neg hkept, if_neg hkept, hrest]

theorem keptChars_eq (cs : List Char) : keptChars cs = keptFrom false cs := (keptFrom_eq [] cs).symm

def Pending.chars : Pending → List Char
  | .digits word | .small word | .capital word => word

/-- All that has been read and could still be kept. -/
def Reading.text (r : Reading) : List Char := r.pending.chars ++ r.words.flatten

namespace Reading

/-- A letter is kept, and with it what was pending. A digit is pending. Anything else lets go of
pending digits. -/
theorem take_kept (c : Char) (r : Reading) :
    (take c r).text =
        (if c.isAlpha || c.isDigit then c.toLower :: r.text else r.finish.flatten) ∧
      (take c r).finish.flatten = if c.isAlpha then c.toLower :: r.text else r.finish.flatten := by
  obtain ⟨pending, words⟩ := r
  by_cases hlower : c.isLower = true
  · have halpha : c.isAlpha = true := by rw [isAlpha_eq, hlower, Bool.or_true]
    rw [take, if_pos hlower, halpha, Bool.true_or, if_pos rfl,
      toLower_eq_self (not_isUpper_of_isLower hlower)]
    cases pending <;> exact ⟨rfl, rfl⟩
  by_cases hupper : c.isUpper = true
  · have halpha : c.isAlpha = true := by rw [isAlpha_eq, hupper, Bool.true_or]
    rw [take, if_neg hlower, if_pos hupper, halpha, Bool.true_or, if_pos rfl]
    cases pending <;> exact ⟨rfl, rfl⟩
  have halpha : c.isAlpha = false := by
    rw [isAlpha_eq, Bool.eq_false_iff.mpr hlower, Bool.eq_false_iff.mpr hupper, Bool.or_false]
  rw [take, if_neg hlower, if_neg hupper, halpha, Bool.false_or, if_neg Bool.false_ne_true]
  by_cases hdigit : c.isDigit = true
  · rw [if_pos hdigit, if_pos hdigit, toLower_eq_self hupper]
    cases pending <;> exact ⟨rfl, rfl⟩
  · rw [if_neg hdigit, if_neg hdigit]
    exact ⟨rfl, rfl⟩

end Reading

/-- Pending digits are kept exactly if a letter stands before the text. -/
theorem kept_of_read (cs : List Char) :
    (cs.foldr Reading.take ⟨.digits [], []⟩).text = keptFrom true cs ∧
      (cs.foldr Reading.take ⟨.digits [], []⟩).finish.flatten = keptFrom false cs := by
  induction cs with
  | nil => exact ⟨rfl, rfl⟩
  | cons c cs ih =>
    obtain ⟨htext, hfinish⟩ := Reading.take_kept c (cs.foldr Reading.take ⟨.digits [], []⟩)
    rw [List.foldr_cons, htext, hfinish, ih.1, ih.2, keptFrom, keptFrom, Bool.and_true,
      Bool.and_false, Bool.or_false]
    exact ⟨rfl, rfl⟩

theorem flatten_splitChars (cs : List Char) : (splitChars cs).flatten = keptChars cs := by
  rw [keptChars_eq, splitChars, (kept_of_read cs).2]

theorem toList_join_splitWords (name : String) :
    (String.join (splitWords name)).toList = (splitChars name.toList).flatten := by
  rw [String.toList_join, splitWords, List.flatMap_map]
  simp only [String.toList_ofList, List.flatMap_id']

/-- Every word is letters with digits behind them, and together the words are the letters of the
identifier, in lower case and in their order, and the digits that belong to one. -/
theorem splitWords_keeps_letters (name : String) :
    (∀ w ∈ splitWords name, IsWord w.toList) ∧
      (String.join (splitWords name)).toList = keptChars name.toList := by
  constructor
  · intro w hw
    exact isWord_of_mem_splitWords hw
  · rw [toList_join_splitWords, flatten_splitChars]

example : keptChars "1st_HTTPServer2x34é5_67".toList = "sthttpserver2x34".toList := by decide

end NameFlow.Vocabulary
