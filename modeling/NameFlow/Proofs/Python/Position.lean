import Mathlib.Order.Bounds.Defs
import NameFlow.Proofs.Text.Count
import NameFlow.Python.Grammar.Expression

/-!
# Positions

A position is told by the newline bytes before it, and from line and column the byte offset can be
found again. So lambdas that start at different offsets have different names.
-/

namespace NameFlow.Python

set_option autoImplicit false

/-! ## Bytes -/

section Bytes

variable {c : Char} {bs : List UInt8} {o k : Nat}

def bytes (text : String) : List UInt8 := text.toUTF8.data.toList

def newline : UInt8 := 10

/-- The text begins a line, and so does every byte after a newline. -/
def BeginsLine (bs : List UInt8) (k : Nat) : Prop :=
  k = 0 ∨ ∃ i, bs[i]? = some newline ∧ k = i + 1

theorem bytes_eq (text : String) : bytes text = text.toList.flatMap String.utf8EncodeChar := by
  unfold bytes
  rw [String.toUTF8_eq_toByteArray, ← String.utf8Encode_toList, List.utf8Encode,
    List.data_toByteArray]

theorem ofNat_ne_newline {n : Nat} (h : n % 256 ≠ 10) : UInt8.ofNat n ≠ newline := by
  intro heq
  have hnat := congrArg UInt8.toNat heq
  rw [UInt8.toNat_ofNat'] at hnat
  exact h hnat

/-- A character of one byte has its code as this byte, and the bytes of a longer one are all above
these codes. -/
theorem newline_not_mem_encode (hc : c ≠ '\n') : newline ∉ String.utf8EncodeChar c := by
  have hcode : c.val.toNat ≠ 10 := fun hval => hc (Char.ext (UInt32.toNat_inj.mp hval))
  intro hmem
  simp only [String.utf8EncodeChar] at hmem
  split at hmem
  · exact ofNat_ne_newline (by omega) (List.mem_singleton.mp hmem).symm
  · have hhigh : ∀ n, 128 ≤ n % 256 → newline ≠ UInt8.ofNat n :=
      fun n hn => (ofNat_ne_newline (by omega)).symm
    split at hmem
    · simp only [List.mem_cons, List.not_mem_nil, or_false] at hmem
      rcases hmem with h | h <;> exact hhigh _ (by omega) h
    split at hmem
    · simp only [List.mem_cons, List.not_mem_nil, or_false] at hmem
      rcases hmem with h | h | h <;> exact hhigh _ (by omega) h
    · simp only [List.mem_cons, List.not_mem_nil, or_false] at hmem
      rcases hmem with h | h | h | h <;> exact hhigh _ (by omega) h

/-- The offsets just after the newline bytes, counted from an offset. -/
def lineEnds : Nat → List UInt8 → List Nat
  | _, [] => []
  | o, b :: bs => if b = newline then (o + 1) :: lineEnds (o + 1) bs else lineEnds (o + 1) bs

theorem lineEnds_append {word : List UInt8} (h : newline ∉ word) (o : Nat) (bs : List UInt8) :
    lineEnds o (word ++ bs) = lineEnds (o + word.length) bs := by
  induction word generalizing o with
  | nil => rfl
  | cons b word ih =>
    rw [List.mem_cons, not_or] at h
    rw [List.cons_append, lineEnds, if_neg (Ne.symm h.1), ih h.2, List.length_cons, Nat.add_assoc,
      Nat.add_comm 1]

theorem after_eq_lineEnds (o : Nat) (cs : List Char) :
    LineStarts.after o cs = lineEnds o (cs.flatMap String.utf8EncodeChar) := by
  induction cs generalizing o with
  | nil => rfl
  | cons c cs ih =>
    rw [List.flatMap_cons, LineStarts.after]
    by_cases hc : c = '\n'
    · subst hc
      rw [if_pos rfl, ih]
      rfl
    · rw [if_neg hc, ih, lineEnds_append (newline_not_mem_encode hc), String.length_utf8EncodeChar]

theorem mem_lineEnds : k ∈ lineEnds o bs ↔ ∃ i, bs[i]? = some newline ∧ k = o + i + 1 := by
  induction bs generalizing o with
  | nil => simp [lineEnds]
  | cons b bs ih =>
    have hcons : (∃ i, (b :: bs)[i]? = some newline ∧ k = o + i + 1) ↔
        (b = newline ∧ k = o + 1) ∨ k ∈ lineEnds (o + 1) bs := by
      rw [ih]
      constructor
      · rintro ⟨_ | i, hi, rfl⟩
        · exact .inl ⟨Option.some.inj hi, rfl⟩
        · exact .inr ⟨i, hi, by omega⟩
      · rintro (⟨rfl, rfl⟩ | ⟨i, hi, rfl⟩)
        · exact ⟨0, rfl, rfl⟩
        · exact ⟨i + 1, hi, by omega⟩
    rw [hcons, lineEnds]
    split
    · rename_i hb
      rw [List.mem_cons, and_iff_right hb]
    · rename_i hb
      rw [or_iff_right fun h => hb h.1]

theorem pairwise_lineEnds (o : Nat) (bs : List UInt8) : (lineEnds o bs).Pairwise (· < ·) := by
  induction bs generalizing o with
  | nil => exact .nil
  | cons b bs ih =>
    rw [lineEnds]
    split
    · refine List.pairwise_cons.mpr ⟨fun k hk => ?_, ih (o + 1)⟩
      obtain ⟨i, _, rfl⟩ := mem_lineEnds.mp hk
      omega
    · exact ih (o + 1)

theorem countP_lineEnds (o n : Nat) (bs : List UInt8) :
    (lineEnds o bs).countP (· ≤ o + n) = (bs.take n).count newline := by
  induction bs generalizing o n with
  | nil => simp [lineEnds]
  | cons b bs ih =>
    cases n with
    | zero =>
      rw [List.take_zero, List.count_nil, List.countP_eq_zero]
      intro k hk
      obtain ⟨i, _, rfl⟩ := mem_lineEnds.mp hk
      rw [decide_eq_true_iff]
      omega
    | succ n =>
      have hrest := ih (o + 1) n
      rw [Nat.add_assoc, Nat.add_comm 1] at hrest
      rw [List.take_succ_cons, List.count_cons, lineEnds, ← hrest]
      by_cases hb : b = newline
      · simp [hb]
      · simp [hb]

end Bytes

/-! ## Lines -/

section Lines

variable {l : List Nat} {o i s : Nat} {text : String}

/-- Of ascending offsets those up to a given one are the first ones. -/
theorem le_iff_lt_countP (h : l.Pairwise (· < ·)) (hi : l[i]? = some s) :
    s ≤ o ↔ i < l.countP (· ≤ o) := by
  induction l generalizing i with
  | nil => cases hi
  | cons a l ih =>
    obtain ⟨hfirst, hrest⟩ := List.pairwise_cons.mp h
    by_cases ha : a ≤ o
    · rw [List.countP_cons_of_pos (by exact decide_eq_true ha)]
      cases i with
      | zero =>
        cases hi
        exact iff_of_true ha (Nat.succ_pos _)
      | succ i => rw [ih hrest hi, Nat.add_lt_add_iff_right]
    · have hnone : (a :: l).countP (· ≤ o) = 0 := by
        rw [List.countP_eq_zero]
        intro k hk
        rw [decide_eq_true_iff]
        rcases List.mem_cons.mp hk with rfl | hk
        · exact ha
        · have hlt := hfirst k hk
          omega
      have hs : a ≤ s := by
        cases i with
        | zero => exact Nat.le_of_eq (Option.some.inj hi)
        | succ i => exact Nat.le_of_lt (hfirst s (List.mem_of_getElem? hi))
      rw [hnone]
      exact iff_of_false (by omega) (Nat.not_lt_zero i)

namespace LineStarts

theorem toList_ofText (text : String) : (ofText text).toList = 0 :: lineEnds 0 (bytes text) := by
  unfold ofText
  rw [after_eq_lineEnds, bytes_eq]

theorem mem_ofText {k : Nat} : k ∈ (ofText text).toList ↔ BeginsLine (bytes text) k := by
  rw [toList_ofText, List.mem_cons, mem_lineEnds]
  simp only [Nat.zero_add]
  rfl

theorem pairwise_ofText (text : String) : (ofText text).toList.Pairwise (· < ·) := by
  rw [toList_ofText]
  refine List.pairwise_cons.mpr ⟨fun k hk => ?_, pairwise_lineEnds 0 _⟩
  obtain ⟨i, _, rfl⟩ := mem_lineEnds.mp hk
  exact Nat.succ_pos _

theorem countP_ofText (text : String) (o : Nat) :
    (ofText text).toList.countP (· ≤ o) = 1 + ((bytes text).take o).count newline := by
  have hends := countP_lineEnds 0 o (bytes text)
  rw [Nat.zero_add] at hends
  rw [toList_ofText, List.countP_cons_of_pos (by exact decide_eq_true (Nat.zero_le o)), hends,
    Nat.add_comm]

theorem line_position (text : String) (o : Nat) :
    ((ofText text).position o).line = 1 + ((bytes text).take o).count newline := by
  have hline : ((ofText text).position o).line = max 1 ((ofText text).toList.countP (· ≤ o)) := rfl
  rw [hline, countP_ofText]
  omega

/-- The line that an offset is in starts at or before it, and the column is the rest. -/
theorem exists_start (text : String) (o : Nat) :
    ∃ start, (ofText text).toList[((ofText text).position o).line - 1]? = some start ∧
      IsGreatest {k | BeginsLine (bytes text) k ∧ k ≤ o} start ∧
      start + ((ofText text).position o).column = o := by
  have hcount := countP_ofText text o
  have hline := line_position text o
  have hlength := List.countP_le_length (p := (· ≤ o)) (l := (ofText text).toList)
  have hlt : ((ofText text).position o).line - 1 < (ofText text).toList.length := by omega
  obtain ⟨start, hstart⟩ : ∃ start,
      (ofText text).toList[((ofText text).position o).line - 1]? = some start :=
    ⟨_, List.getElem?_eq_getElem hlt⟩
  have hle : start ≤ o := (le_iff_lt_countP (pairwise_ofText text) hstart).mpr (by omega)
  have hcolumn : ((ofText text).position o).column =
      o - (ofText text).toList.getD (((ofText text).position o).line - 1) 0 := rfl
  rw [List.getD_eq_getElem?_getD, hstart] at hcolumn
  refine ⟨start, hstart, ⟨⟨mem_ofText.mp (List.mem_of_getElem? hstart), hle⟩, ?_⟩, ?_⟩
  · -- starts up to the offset are at places up to the line's, hence not above its start
    rintro k ⟨hk, hko⟩
    obtain ⟨i, hi⟩ := List.mem_iff_getElem?.mp (mem_ofText.mpr hk)
    have hbefore := (le_iff_lt_countP (pairwise_ofText text) hi).mp hko
    have hown := (le_iff_lt_countP (pairwise_ofText text) hstart).mp (Nat.le_refl start)
    exact (le_iff_lt_countP (pairwise_ofText text) hi).mpr (by omega)
  · rw [hcolumn, Option.getD_some]
    omega

theorem position_injective (text : String) : (ofText text).position.Injective := by
  intro o o' h
  obtain ⟨start, hstart, _, hsum⟩ := exists_start text o
  obtain ⟨start', hstart', _, hsum'⟩ := exists_start text o'
  rw [h] at hstart hsum
  have hsame : start = start' := Option.some.inj (hstart.symm.trans hstart')
  omega

end LineStarts

end Lines

/-! ## Lambdas -/

section Lambdas

theorem takeWhile_isDigit (n : Nat) (rest : List Char) :
    ((toString n).toList ++ ':' :: rest).takeWhile Char.isDigit = (toString n).toList := by
  rw [List.takeWhile_append_of_pos fun c hc => Text.isDigit_of_mem_toString hc]
  simp

theorem toString_injective {n m : Nat} (h : (toString n).toList = (toString m).toList) : n = m := by
  have hread := congrArg (Nat.ofDigitChars 10 · 0) h
  simpa [Text.toList_toString] using hread

theorem lambdaName_injective : Position.lambdaName.Injective := by
  rintro ⟨line, column⟩ ⟨line', column'⟩ h
  have hchars := congrArg String.toList h
  simp only [Position.lambdaName, String.toList_append, List.append_assoc,
    List.append_cancel_left_eq] at hchars
  have hline := congrArg (List.takeWhile Char.isDigit) hchars
  have hcolon : ":".toList = [':'] := rfl
  rw [hcolon, List.singleton_append, List.singleton_append, takeWhile_isDigit,
    takeWhile_isDigit] at hline
  rw [hline, List.append_cancel_left_eq, List.append_cancel_left_eq] at hchars
  rw [toString_injective hline, toString_injective hchars]

namespace Grammar

variable {α β : Type} {env : Env} {tokens left : List Token}

theorem bind_eq_ok {p : Parser α} {f : α → Parser β} {b : β}
    (h : (p >>= f) env tokens = .ok (b, left)) :
    ∃ a rest, p env tokens = .ok (a, rest) ∧ f a env rest = .ok (b, left) := by
  have hbind : (p >>= f) env tokens = (p env tokens).bind fun r => f r.1 env r.2 := rfl
  rw [hbind] at h
  cases hp : p env tokens with
  | error e =>
    rw [hp] at h
    cases h
  | ok r =>
    rw [hp] at h
    exact ⟨r.1, r.2, rfl, h⟩

/-- A lambda keeps the position of its first token. -/
theorem position_of_lambda {nested : Nested} {t : Token} {rest : List Token} {e : Expr}
    (h : lambda nested env (t :: rest) = .ok (e, left)) :
    ∃ params body, e = .lambda (env.lines.position t.offset) params body := by
  unfold lambda at h
  obtain ⟨env', _, hread, h⟩ := bind_eq_ok h
  cases hread
  obtain ⟨o, _, hoffset, h⟩ := bind_eq_ok h
  cases hoffset
  obtain ⟨_, _, _, h⟩ := bind_eq_ok h
  obtain ⟨params, _, _, h⟩ := bind_eq_ok h
  obtain ⟨_, _, _, h⟩ := bind_eq_ok h
  obtain ⟨body, _, _, h⟩ := bind_eq_ok h
  cases h
  exact ⟨params, body, rfl⟩

end Grammar

/-- From the token on, a lambda can be read that has the position. -/
def ReadsLambda (text : String) (t : Token) (p : Position) : Prop :=
  ∃ depth bound rest params body left,
    Grammar.lambda (Grammar.nestedTo depth) ⟨.ofText text, bound⟩ (t :: rest) =
      .ok (.lambda p params body, left)

/-- The line of an offset is told by the newlines before it, and the column by the last one of them;
the start of this line is found in the table and is not after the offset. So two lambdas of a text
have the same name only if they start at the same offset. -/
theorem position_tells_offset (text : String) :
    (LineStarts.ofText text).toList.Pairwise (· < ·) ∧
      (∀ o, ((LineStarts.ofText text).position o).line =
          1 + ((bytes text).take o).count newline ∧
        ∃ start, (LineStarts.ofText text).toList[((LineStarts.ofText text).position o).line - 1]? =
            some start ∧
          IsGreatest {k | BeginsLine (bytes text) k ∧ k ≤ o} start ∧
          start + ((LineStarts.ofText text).position o).column = o) ∧
      (∀ o o', ((LineStarts.ofText text).position o).lambdaName =
        ((LineStarts.ofText text).position o').lambdaName ↔ o = o') ∧
      (∀ t t' p p', ReadsLambda text t p → ReadsLambda text t' p' →
        (p.lambdaName = p'.lambdaName ↔ t.offset = t'.offset)) := by
  have hnames : ∀ o o', ((LineStarts.ofText text).position o).lambdaName =
      ((LineStarts.ofText text).position o').lambdaName ↔ o = o' := by
    intro o o'
    exact (lambdaName_injective.comp (LineStarts.position_injective text)).eq_iff
  refine ⟨LineStarts.pairwise_ofText text, fun o => ?_, hnames, ?_⟩
  · exact ⟨LineStarts.line_position text o, LineStarts.exists_start text o⟩
  · rintro t t' p p' ⟨_, _, _, _, _, _, h⟩ ⟨_, _, _, _, _, _, h'⟩
    obtain ⟨_, _, heq⟩ := Grammar.position_of_lambda h
    obtain ⟨_, _, heq'⟩ := Grammar.position_of_lambda h'
    cases heq
    cases heq'
    exact hnames t.offset t'.offset

theorem pair_of_lambdas_apart :
    ReadsLambda "(lambda: a,\n lambda: b)" ⟨.keyword "lambda", 1⟩ ⟨1, 1⟩ ∧
      ReadsLambda "(lambda: a,\n lambda: b)" ⟨.keyword "lambda", 13⟩ ⟨2, 1⟩ ∧
      (⟨1, 1⟩ : Position).lambdaName ≠ (⟨2, 1⟩ : Position).lambdaName := by
  have hfirst : ReadsLambda "(lambda: a,\n lambda: b)" ⟨.keyword "lambda", 1⟩ ⟨1, 1⟩ :=
    ⟨2, 5, [⟨.operator ":", 7⟩, ⟨.name "a", 9⟩, ⟨.operator ",", 10⟩], _, _, _, rfl⟩
  have hsecond : ReadsLambda "(lambda: a,\n lambda: b)" ⟨.keyword "lambda", 13⟩ ⟨2, 1⟩ :=
    ⟨2, 5, [⟨.operator ":", 19⟩, ⟨.name "b", 21⟩, ⟨.operator ")", 22⟩], _, _, _, rfl⟩
  obtain ⟨_, _, _, hread⟩ := position_tells_offset "(lambda: a,\n lambda: b)"
  exact ⟨hfirst, hsecond, fun h => absurd ((hread _ _ _ _ hfirst hsecond).mp h) (by decide)⟩

end Lambdas

end NameFlow.Python
