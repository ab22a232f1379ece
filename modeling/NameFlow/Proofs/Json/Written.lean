import Mathlib.Data.List.Basic
import NameFlow.Json.Reader
import NameFlow.Proofs.Text.Count

/-!
# Documents that are written and read

A document of encoded texts and of decimal numbers is read from what it is written as, whatever its
depth, and a text that was encoded is decoded to itself. A value is followed by a comma, by a line
end or by nothing, so that no number runs on into what stands behind it. What a document holds is
seen by its fields, items and texts.
-/

namespace NameFlow.Json

set_option autoImplicit false

section Texts

/-- The three ways in which a character is written. -/
inductive Encoding (c : Char) : List Char → Prop
  | short (e : Char) (hletter : "\"\\/bfnrt".toList.contains e = true) (hu : e ≠ 'u')
      (hc : unescape e = c) : Encoding c ['\\', e]
  | hexadecimal (a b : Char) (hdigits : ['0', '0', a, b].all Text.isHexDigit = true)
      (hvalue : Text.hexValue ['0', '0', a, b] = c.toNat) (hc : c.toNat < 0x20) :
      Encoding c ['\\', 'u', '0', '0', a, b]
  | plain (hc : ¬ c.toNat < 0x20) (hquote : c ≠ '"') (hslash : c ≠ '\\') : Encoding c [c]

theorem hexadecimal_digits : ∀ n < 0x20,
    ['0', '0', hexDigit (n / 16), hexDigit (n % 16)].all Text.isHexDigit = true ∧
      Text.hexValue ['0', '0', hexDigit (n / 16), hexDigit (n % 16)] = n := by decide

theorem encoding (c : Char) : Encoding c (encodeChar c) := by
  unfold encodeChar
  split
  · exact .short '"' (by decide) (by decide) rfl
  · exact .short '\\' (by decide) (by decide) rfl
  · exact .short 'n' (by decide) (by decide) rfl
  · exact .short 'r' (by decide) (by decide) rfl
  · exact .short 't' (by decide) (by decide) rfl
  · exact .short 'b' (by decide) (by decide) rfl
  · exact .short 'f' (by decide) (by decide) rfl
  · rename_i hquote hslash _ _ _ _ _
    split
    · rename_i hc
      obtain ⟨hdigits, hvalue⟩ := hexadecimal_digits c.toNat hc
      exact .hexadecimal _ _ hdigits hvalue hc
    · rename_i hc
      exact .plain hc hquote hslash

variable {c : Char} {written cs : List Char}

theorem Encoding.readString (h : Encoding c written) (cs : List Char) :
    readString (written ++ cs) = (readString cs).map fun r => (written ++ r.1, r.2) := by
  cases h with
  | short e hletter hu hc =>
    rw [List.cons_append, List.cons_append, List.nil_append, Json.readString, if_pos hletter]
    · cases Json.readString cs <;> rfl
    · exact fun _ _ _ _ _ he _ => hu he
  | hexadecimal a b hdigits hvalue hc =>
    simp only [List.cons_append, List.nil_append]
    rw [Json.readString, if_pos hdigits]
    cases Json.readString cs <;> rfl
  | plain hc hquote hslash =>
    rw [List.cons_append, List.nil_append, Json.readString, if_neg hc, if_neg hslash]
    · cases Json.readString cs <;> rfl
    · exact hquote
    · exact fun _ _ _ _ _ he _ => hslash he
    · exact fun _ _ he _ => hslash he

theorem Encoding.decodeChars (h : Encoding c written) (cs : List Char) :
    decodeChars (written ++ cs) = (decodeChars cs).map (c :: ·) := by
  cases h with
  | short e hletter hu hc =>
    rw [List.cons_append, List.cons_append, List.nil_append, Json.decodeChars, hc]
    exact fun _ _ _ _ _ he _ => hu he
  | hexadecimal a b hdigits hvalue hc =>
    have hlow : isLowSurrogate c.toNat = false := by
      unfold isLowSurrogate
      rw [Bool.and_eq_false_iff, decide_eq_false_iff_not]
      omega
    have hhigh : isHighSurrogate c.toNat = false := by
      unfold isHighSurrogate
      rw [Bool.and_eq_false_iff, decide_eq_false_iff_not]
      omega
    rw [Json.decodeChars.eq_def]
    simp only [List.cons_append, List.nil_append, hvalue, hlow, hhigh, Char.ofNat_toNat]
    rfl
  | plain hc hquote hslash =>
    rw [List.cons_append, List.nil_append, Json.decodeChars]
    · exact fun _ _ _ _ _ he _ => hslash he
    · exact fun _ _ he _ => hslash he

theorem toList_encode (s : String) : (encode s).toList = s.toList.flatMap encodeChar :=
  String.toList_ofList

/-- An encoded text is read up to the quote behind it. -/
theorem readString_encode (s : String) (rest : List Char) :
    readString ((encode s).toList ++ '"' :: rest) = .ok ((encode s).toList, rest) := by
  rw [toList_encode]
  induction s.toList with
  | nil => simp [readString]
  | cons c cs ih => rw [List.flatMap_cons, List.append_assoc, (encoding c).readString, ih]; rfl

theorem decode_encode (s : String) : decode (encode s) = some s := by
  unfold decode
  rw [toList_encode]
  have hchars : decodeChars (s.toList.flatMap encodeChar) = some s.toList := by
    induction s.toList with
    | nil => simp [decodeChars]
    | cons c cs ih => rw [List.flatMap_cons, (encoding c).decodeChars, ih, Option.map_some]
  rw [hchars, Option.map_some, String.ofList_toList]

end Texts

section Numbers

/-- What may stand behind a value. -/
def Ends (rest : List Char) : Prop := ∀ c ∈ rest.head?, c = ',' ∨ c = '\n'

theorem ends_comma (rest : List Char) : Ends (',' :: rest) := by
  intro c hc
  exact .inl (Option.some.inj hc).symm

theorem ends_newline (rest : List Char) : Ends ('\n' :: rest) := by
  intro c hc
  exact .inr (Option.some.inj hc).symm

/-- Only zero starts with a zero. -/
theorem head_toDigits {n : Nat} (hn : 0 < n) : (Nat.toDigits 10 n).head? ≠ some '0' := by
  induction n using Nat.strongRecOn with
  | ind n ih =>
    by_cases hlt : n < 10
    · rw [Nat.toDigits_of_lt_base hlt]
      have hdigit : ∀ d < 10, 0 < d → d.digitChar ≠ '0' := by decide
      simpa using hdigit n hlt hn
    · have hrest := ih (n / 10) (by omega) (by omega)
      rw [Nat.toDigits_of_base_le (by decide) (by omega)]
      cases hdigits : Nat.toDigits 10 (n / 10) with
      | nil => exact absurd hdigits Nat.toDigits_ne_nil
      | cons d digits => rwa [hdigits] at hrest

variable {rest : List Char} (h : Ends rest)

include h

theorem takeWhile_digits {digits : List Char} (hdigits : ∀ c ∈ digits, c.isDigit = true) :
    (digits ++ rest).takeWhile Char.isDigit = digits ∧
      (digits ++ rest).dropWhile Char.isDigit = rest := by
  have hrest : rest.takeWhile Char.isDigit = [] ∧ rest.dropWhile Char.isDigit = rest := by
    cases rest with
    | nil => exact ⟨rfl, rfl⟩
    | cons c cs =>
      have hc : ¬ c.isDigit = true := by rcases h c rfl with rfl | rfl <;> decide
      exact ⟨List.takeWhile_cons_of_neg hc, List.dropWhile_cons_of_neg hc⟩
  rw [List.takeWhile_append_of_pos hdigits, List.dropWhile_append_of_pos hdigits, hrest.1, hrest.2,
    List.append_nil]
  exact ⟨rfl, rfl⟩

theorem readWhole_toString (n : Nat) :
    readWhole ((toString n).toList ++ rest) = .ok ((toString n).toList, rest) := by
  obtain ⟨htake, hdrop⟩ := takeWhile_digits h fun c => Text.isDigit_of_mem_toString (n := n)
  by_cases hn : n = 0
  · subst hn
    cases rest with
    | nil => rfl
    | cons c cs =>
      have hc : ¬ c.isDigit = true := by rcases h c rfl with rfl | rfl <;> decide
      exact if_neg hc
  · have hzero := head_toDigits (Nat.pos_of_ne_zero hn)
    rw [← Text.toList_toString] at hzero
    cases hdigits : (toString n).toList with
    | nil => exact absurd hdigits (Text.toString_ne_nil n)
    | cons c cs =>
      rw [hdigits] at htake hdrop hzero
      have hc : c ≠ '0' := fun hc => hzero (congrArg some hc)
      have hread : readWhole (c :: cs ++ rest) = readDigits (c :: cs ++ rest) := by
        simp [readWhole, hc]
      rw [hread, readDigits, htake, hdrop]

theorem readFraction_of_ends : readFraction rest = .ok ([], rest) := by
  cases rest with
  | nil => rfl
  | cons c cs => rcases h c rfl with rfl | rfl <;> rfl

theorem readExponent_of_ends : readExponent rest = .ok ([], rest) := by
  cases rest with
  | nil => rfl
  | cons c cs => rcases h c rfl with rfl | rfl <;> rfl

/-- A number in decimal is read to its end. -/
theorem readNumber_toString (n : Nat) :
    readNumber ((toString n).toList ++ rest) = .ok (.nat n, rest) := by
  have hwhole := readWhole_toString h n
  cases hdigits : (toString n).toList with
  | nil => exact absurd hdigits (Text.toString_ne_nil n)
  | cons c cs =>
    have hc : c ≠ '-' := by
      rintro rfl
      have hdigit : '-'.isDigit = true :=
        Text.isDigit_of_mem_toString (n := n) (hdigits ▸ List.mem_cons_self)
      revert hdigit
      decide
    rw [hdigits] at hwhole
    unfold readNumber
    split
    rename_i sign unsigned hsign
    split at hsign
    · rename_i heq
      exact absurd (List.cons.inj heq).1 hc
    · cases hsign
      simp only [hwhole, readFraction_of_ends h, readExponent_of_ends h, bind, Except.bind, pure,
        Except.pure, List.nil_append, List.append_nil]
      rw [← hdigits, String.ofList_toList, Document.nat]

end Numbers

section Blanks

theorem skipBlank_of_not_blank {c : Char} (hc : isBlank c = false) (cs : List Char) :
    skipBlank (c :: cs) = c :: cs := List.dropWhile_cons_of_neg (by simp [hc])

/-- A line end and the indentation behind it. -/
def lineBreak (depth : Nat) : List Char := '\n' :: (Document.pad depth).toList

theorem skipBlank_lineBreak (depth : Nat) (cs : List Char) :
    skipBlank (lineBreak depth ++ cs) = skipBlank cs := by
  apply List.dropWhile_append_of_pos
  intro c hc
  unfold lineBreak Document.pad at hc
  rw [String.toList_ofList, List.mem_cons, List.mem_replicate] at hc
  rcases hc with rfl | ⟨_, rfl⟩ <;> decide

theorem readValue_space (fuel : Nat) (cs : List Char) :
    readValue (fuel + 1) (' ' :: cs) = readValue (fuel + 1) cs := by
  have hskip : skipBlank (' ' :: cs) = skipBlank cs := rfl
  rw [readValue, readValue, hskip]

end Blanks

namespace Document

/-- A document of encoded texts and decimal numbers. -/
inductive Written : Document → Prop
  | null : Written .null
  | bool (b : Bool) : Written (.bool b)
  | nat (n : Nat) : Written (.nat n)
  | text (s : String) : Written (.text s)
  | array {items : List Document} (h : ∀ d ∈ items, Written d) : Written (.array items)
  | object {fields : List (String × Document)} (hnames : ∀ f ∈ fields, ∃ name, f.1 = encode name)
      (h : ∀ f ∈ fields, Written f.2) : Written (.object fields)

theorem Written.list {α : Type} {f : α → Document} (h : ∀ x, (f x).Written) (xs : List α) :
    (Document.list f xs).Written := by
  refine .array fun d hd => ?_
  obtain ⟨x, _, rfl⟩ := List.mem_map.mp hd
  exact h x

theorem Written.record {fields : List (String × Document)} (h : fields.Forall (·.2.Written)) :
    (Document.record fields).Written := by
  refine .object (fun g hg => ?_) (fun g hg => ?_) <;> obtain ⟨f, hf, rfl⟩ := List.mem_map.mp hg
  · exact ⟨f.1, rfl⟩
  · exact List.forall_iff_forall_mem.mp h f hf

section Layout

variable (depth : Nat)

theorem toList_prettyAt_array (d : Document) (ds : List Document) :
    (prettyAt depth (.array (d :: ds))).toList =
      '[' :: (lineBreak (depth + 1) ++ ((prettyAt (depth + 1) d).toList ++
        ((prettyItems (depth + 1) ds).toList ++ (lineBreak depth ++ [']'])))) := by
  simp [prettyAt, lineBreak]

theorem toList_prettyItems_cons (d : Document) (ds : List Document) :
    (prettyItems depth (d :: ds)).toList =
      ',' :: (lineBreak depth ++ ((prettyAt depth d).toList ++ (prettyItems depth ds).toList)) := by
  simp [prettyItems, lineBreak]

/-- A field as it stands in an object. -/
def prettyField (f : String × Document) : List Char :=
  '"' :: (f.1.toList ++ '"' :: ':' :: ' ' :: (prettyAt depth f.2).toList)

theorem toList_prettyAt_object (f : String × Document) (fields : List (String × Document)) :
    (prettyAt depth (.object (f :: fields))).toList =
      '\x7b' :: (lineBreak (depth + 1) ++ (prettyField (depth + 1) f ++
        ((prettyFields (depth + 1) fields).toList ++ (lineBreak depth ++ ['\x7d'])))) := by
  simp [prettyAt, lineBreak, prettyField]

theorem toList_prettyFields_cons (f : String × Document) (fields : List (String × Document)) :
    (prettyFields depth (f :: fields)).toList =
      ',' :: (lineBreak depth ++ (prettyField depth f ++ (prettyFields depth fields).toList)) := by
  simp [prettyFields, lineBreak, prettyField]

end Layout

section Reading

variable {depth fuel : Nat} {d : Document}

theorem not_isBlank_of_isDigit {c : Char} (hc : c.isDigit = true) : isBlank c = false := by
  unfold isBlank
  simp only [Bool.or_eq_false_iff, decide_eq_false_iff_not]
  refine ⟨⟨⟨?_, ?_⟩, ?_⟩, ?_⟩ <;> rintro rfl <;> revert hc <;> decide

/-- A value starts with a character that neither is blank nor closes an array. -/
theorem Written.exists_cons (h : d.Written) (depth : Nat) :
    ∃ c cs, (prettyAt depth d).toList = c :: cs ∧ isBlank c = false ∧ c ≠ ']' := by
  cases h with
  | null => exact ⟨'n', "ull".toList, by simp [prettyAt], by decide, by decide⟩
  | bool b =>
    cases b with
    | false => exact ⟨'f', "alse".toList, by simp [prettyAt], by decide, by decide⟩
    | true => exact ⟨'t', "rue".toList, by simp [prettyAt], by decide, by decide⟩
  | nat n =>
    cases hdigits : (toString n).toList with
    | nil => exact absurd hdigits (Text.toString_ne_nil n)
    | cons c cs =>
      have hc : c.isDigit = true :=
        Text.isDigit_of_mem_toString (n := n) (hdigits ▸ List.mem_cons_self)
      refine ⟨c, cs, ?_, not_isBlank_of_isDigit hc, ?_⟩
      · rw [Document.nat, prettyAt, hdigits]
      · rintro rfl
        revert hc
        decide
  | text s =>
    exact ⟨'"', (encode s).toList ++ ['"'], by simp [Document.text, prettyAt], by decide, by decide⟩
  | @array items _ =>
    cases items with
    | nil => exact ⟨'[', [']'], by simp [prettyAt], by decide, by decide⟩
    | cons d ds => exact ⟨'[', _, toList_prettyAt_array depth d ds, by decide, by decide⟩
  | @object fields _ _ =>
    cases fields with
    | nil => exact ⟨'\x7b', ['\x7d'], by simp [prettyAt], by decide, by decide⟩
    | cons f fields =>
      exact ⟨'\x7b', _, toList_prettyAt_object depth f fields, by decide, by decide⟩

/-- What is written for the document is read as it, whatever may stand behind it. -/
def ReadBy (read : List Char → Attempt (Document × List Char)) (depth : Nat) (d : Document) : Prop :=
  ∀ rest, Ends rest → read ((prettyAt depth d).toList ++ rest) = .ok (d, rest)

section Loops

variable {read : List Char → Attempt (Document × List Char)} {cs behind rest tail : List Char}
  {c : Char}

theorem readItems_close (hitem : read cs = .ok (d, behind)) (hclose : skipBlank behind = ']' :: rest) :
    readItems read (fuel + 1) cs = .ok ([d], rest) := by
  rw [readItems, hitem]
  simp only [bind, Except.bind, hclose]
  rfl

theorem readItems_comma (hitem : read cs = .ok (d, ',' :: behind))
    (hnext : skipBlank behind = c :: tail) (hc : c ≠ ']') :
    readItems read (fuel + 1) cs =
      (readItems read fuel (c :: tail)).map fun r => (d :: r.1, r.2) := by
  have hcomma : skipBlank (',' :: behind) = ',' :: behind := skipBlank_of_not_blank (by decide) _
  rw [readItems, hitem]
  simp only [bind, Except.bind, hcomma, hnext]
  split
  · rename_i heq
    exact absurd (List.cons.inj heq).1 hc
  · cases readItems read fuel (c :: tail) <;> rfl

variable {name : List Char}

theorem readFields_close (hname : readString cs = .ok (name, ':' :: behind))
    (hvalue : read behind = .ok (d, tail)) (hclose : skipBlank tail = '\x7d' :: rest) :
    readFields read (fuel + 1) ('"' :: cs) = .ok ([(String.ofList name, d)], rest) := by
  have hcolon : skipBlank (':' :: behind) = ':' :: behind := skipBlank_of_not_blank (by decide) _
  rw [readFields, hname]
  simp only [bind, Except.bind, hcolon, hvalue, hclose]
  rfl

theorem readFields_comma (hname : readString cs = .ok (name, ':' :: behind))
    (hvalue : read behind = .ok (d, ',' :: tail)) (hnext : skipBlank tail = '"' :: rest) :
    readFields read (fuel + 1) ('"' :: cs) =
      (readFields read fuel ('"' :: rest)).map fun r => ((String.ofList name, d) :: r.1, r.2) := by
  have hcolon : skipBlank (':' :: behind) = ':' :: behind := skipBlank_of_not_blank (by decide) _
  have hcomma : skipBlank (',' :: tail) = ',' :: tail := skipBlank_of_not_blank (by decide) _
  rw [readFields, hname]
  simp only [bind, Except.bind, hcolon, hvalue, hcomma, hnext]
  split
  · rename_i heq
    exact absurd (List.cons.inj heq).1 (by decide)
  · cases readFields read fuel ('"' :: rest) <;> rfl

end Loops

/-- The items are read up to the bracket that closes the array. -/
theorem readItems_pretty {read : List Char → Attempt (Document × List Char)} {ds : List Document}
    (hread : ∀ e ∈ d :: ds, e.ReadBy read depth) (hwritten : ∀ e ∈ ds, e.Written)
    (hfuel : ds.length < fuel) (outer : Nat) (rest : List Char) :
    readItems read fuel ((prettyAt depth d).toList ++ ((prettyItems depth ds).toList ++
      (lineBreak outer ++ ']' :: rest))) = .ok (d :: ds, rest) := by
  induction ds generalizing d fuel with
  | nil =>
    cases fuel with
    | zero => exact absurd hfuel (Nat.not_lt_zero _)
    | succ fuel =>
      have hitem := hread d List.mem_cons_self (lineBreak outer ++ ']' :: rest) (ends_newline _)
      apply readItems_close hitem
      rw [skipBlank_lineBreak, skipBlank_of_not_blank (by decide)]
  | cons e es ih =>
    cases fuel with
    | zero => exact absurd hfuel (Nat.not_lt_zero _)
    | succ fuel =>
      rw [List.forall_mem_cons] at hread hwritten
      have hrest := ih hread.2 hwritten.2 (Nat.lt_of_succ_lt_succ hfuel)
      obtain ⟨c, cs, hcons, hblank, hbracket⟩ := hwritten.1.exists_cons depth
      have hnext := (skipBlank_lineBreak depth _).trans (skipBlank_of_not_blank hblank (cs ++
        ((prettyItems depth es).toList ++ (lineBreak outer ++ ']' :: rest))))
      rw [hcons, List.cons_append] at hrest
      rw [toList_prettyItems_cons, hcons]
      simp only [List.cons_append, List.append_assoc]
      rw [readItems_comma (hread.1 _ (ends_comma _)) hnext hbracket, hrest]
      rfl

/-- The fields are read up to the brace that closes the object. -/
theorem readFields_pretty {read : List Char → Attempt (Document × List Char)}
    (hspace : ∀ cs, read (' ' :: cs) = read cs) {f : String × Document}
    {fields : List (String × Document)} (hnames : ∀ g ∈ f :: fields, ∃ name, g.1 = encode name)
    (hread : ∀ g ∈ f :: fields, g.2.ReadBy read depth) (hfuel : fields.length < fuel) (outer : Nat)
    (rest : List Char) :
    readFields read fuel (prettyField depth f ++ ((prettyFields depth fields).toList ++
      (lineBreak outer ++ '\x7d' :: rest))) = .ok (f :: fields, rest) := by
  induction fields generalizing f fuel with
  | nil =>
    cases fuel with
    | zero => exact absurd hfuel (Nat.not_lt_zero _)
    | succ fuel =>
      obtain ⟨name, d⟩ := f
      obtain ⟨name, rfl⟩ := hnames _ List.mem_cons_self
      have hvalue := hread _ List.mem_cons_self (lineBreak outer ++ '\x7d' :: rest) (ends_newline _)
      rw [← hspace] at hvalue
      have hclose := (skipBlank_lineBreak outer _).trans
        (skipBlank_of_not_blank (c := '\x7d') (by decide) rest)
      unfold prettyField
      rw [prettyFields, String.toList_empty]
      simp only [List.cons_append, List.append_assoc, List.nil_append]
      rw [readFields_close (readString_encode name _) hvalue hclose, String.ofList_toList]
  | cons g fields ih =>
    cases fuel with
    | zero => exact absurd hfuel (Nat.not_lt_zero _)
    | succ fuel =>
      rw [List.forall_mem_cons] at hnames hread
      have hrest := ih hnames.2 hread.2 (Nat.lt_of_succ_lt_succ hfuel)
      have hnext := (skipBlank_lineBreak depth _).trans (skipBlank_of_not_blank (c := '"') (by decide)
        (g.1.toList ++ '"' :: ':' :: ' ' :: ((prettyAt depth g.2).toList ++
          ((prettyFields depth fields).toList ++ (lineBreak outer ++ '\x7d' :: rest)))))
      obtain ⟨name, d⟩ := f
      obtain ⟨name, rfl⟩ := hnames.1
      rw [toList_prettyFields_cons]
      unfold prettyField at hrest ⊢
      simp only [List.cons_append, List.append_assoc] at hrest ⊢
      rw [readFields_comma (readString_encode name _) ((hspace _).trans (hread.1 _ (ends_comma _)))
        hnext, hrest, String.ofList_toList]
      rfl

variable (depth)

theorem length_le_prettyItems (ds : List Document) :
    ds.length ≤ (prettyItems depth ds).toList.length := by
  induction ds with
  | nil => exact Nat.zero_le _
  | cons d ds ih =>
    rw [toList_prettyItems_cons]
    simp only [List.length_cons, List.length_append]
    omega

theorem length_le_prettyFields (fields : List (String × Document)) :
    fields.length ≤ (prettyFields depth fields).toList.length := by
  induction fields with
  | nil => exact Nat.zero_le _
  | cons f fields ih =>
    rw [toList_prettyFields_cons]
    simp only [List.length_cons, List.length_append]
    omega

theorem length_item_le {ds : List Document} (hd : d ∈ ds) :
    (prettyAt depth d).toList.length ≤ (prettyItems depth ds).toList.length := by
  induction ds with
  | nil => exact absurd hd List.not_mem_nil
  | cons e ds ih =>
    rw [toList_prettyItems_cons]
    simp only [List.length_cons, List.length_append]
    rcases List.mem_cons.mp hd with rfl | hd
    · omega
    · have hle := ih hd
      omega

theorem length_field_le {f : String × Document} {fields : List (String × Document)}
    (hf : f ∈ fields) :
    (prettyAt depth f.2).toList.length ≤ (prettyFields depth fields).toList.length := by
  induction fields with
  | nil => exact absurd hf List.not_mem_nil
  | cons g fields ih =>
    rw [toList_prettyFields_cons]
    simp only [List.length_cons, List.length_append, prettyField]
    rcases List.mem_cons.mp hf with rfl | hf
    · omega
    · have hle := ih hf
      omega

variable {depth}

theorem readValue_digit {c : Char} (hc : c.isDigit = true) (cs : List Char) :
    readValue (fuel + 1) (c :: cs) = readNumber (c :: cs) := by
  have hne : ∀ {a : Char} {as : List Char}, c :: cs = a :: as → a.isDigit = true := by
    intro a as heq
    rwa [(List.cons.inj heq).1] at hc
  rw [readValue, skipBlank_of_not_blank (not_isBlank_of_isDigit hc)]
  split
  · rename_i heq
    cases heq
  · rename_i heq
    exact absurd (hne heq) (by decide)
  · rename_i heq
    exact absurd (hne heq) (by decide)
  · rename_i heq
    exact absurd (hne heq) (by decide)
  · rename_i heq
    exact absurd (hne heq) (by decide)
  · rename_i heq
    exact absurd (hne heq) (by decide)
  · rename_i heq
    exact absurd (hne heq) (by decide)
  · rename_i heq
    cases heq
    rw [hc, Bool.or_true, if_pos rfl]

theorem readBy_nat (n : Nat) : (Document.nat n).ReadBy (readValue (fuel + 1)) depth := by
  intro rest hrest
  have hread := readNumber_toString hrest n
  cases hdigits : (toString n).toList with
  | nil => exact absurd hdigits (Text.toString_ne_nil n)
  | cons c cs =>
    have hc : c.isDigit = true :=
      Text.isDigit_of_mem_toString (n := n) (hdigits ▸ List.mem_cons_self)
    rw [hdigits] at hread
    rw [Document.nat, prettyAt, hdigits, List.cons_append, readValue_digit hc]
    exact hread

theorem readBy_text (s : String) : (Document.text s).ReadBy (readValue (fuel + 1)) depth := by
  intro rest _
  have hstring : (prettyAt depth (.text s)).toList ++ rest =
      '"' :: ((encode s).toList ++ '"' :: rest) := by simp [Document.text, prettyAt]
  rw [hstring, readValue, skipBlank_of_not_blank (by decide)]
  simp only [bind, Except.bind, readString_encode, String.ofList_toList]
  rfl

theorem readWord_append (word : String) (rest : List Char) :
    readWord word d (word.toList ++ rest) = .ok (d, rest) := by
  unfold readWord
  rw [if_pos (List.isPrefixOf_iff_prefix.mpr (List.prefix_append _ _)), ← String.length_toList,
    List.drop_left]

theorem readValue_array {cs tail : List Char} {c : Char} (hnext : skipBlank cs = c :: tail)
    (hc : c ≠ ']') :
    readValue (fuel + 1) ('[' :: cs) =
      (readItems (readValue fuel) ((c :: tail).length + 1) (c :: tail)).map fun r =>
        (.array r.1, r.2) := by
  rw [readValue, skipBlank_of_not_blank (by decide)]
  simp only [hnext]
  split
  · rename_i heq
    exact absurd (List.cons.inj heq).1 hc
  · cases readItems (readValue fuel) ((c :: tail).length + 1) (c :: tail) <;> rfl

theorem readValue_object {cs tail : List Char} (hnext : skipBlank cs = '"' :: tail) :
    readValue (fuel + 1) ('\x7b' :: cs) =
      (readFields (readValue fuel) (('"' :: tail).length + 1) ('"' :: tail)).map fun r =>
        (.object r.1, r.2) := by
  rw [readValue, skipBlank_of_not_blank (by decide)]
  simp only [hnext]
  split
  · rename_i heq
    exact absurd (List.cons.inj heq).1 (by decide)
  · cases readFields (readValue fuel) (('"' :: tail).length + 1) ('"' :: tail) <;> rfl

theorem readBy_array {ds : List Document} (h : ∀ e ∈ d :: ds, e.Written)
    (hitems : ∀ e ∈ d :: ds, e.ReadBy (readValue (fuel + 1)) (depth + 1)) :
    (Document.array (d :: ds)).ReadBy (readValue (fuel + 1 + 1)) depth := by
  intro rest _
  rw [toList_prettyAt_array]
  have hwritten : ∀ e ∈ ds, e.Written := fun e he => h e (List.mem_cons_of_mem d he)
  obtain ⟨c, cs, hcons, hblank, hbracket⟩ := (h d List.mem_cons_self).exists_cons (depth + 1)
  have hnext := (skipBlank_lineBreak (depth + 1) _).trans (skipBlank_of_not_blank hblank
    (cs ++ ((prettyItems (depth + 1) ds).toList ++ (lineBreak depth ++ ']' :: rest))))
  have hlength : ds.length < (c :: (cs ++ ((prettyItems (depth + 1) ds).toList ++
      (lineBreak depth ++ ']' :: rest)))).length + 1 := by
    have hle := length_le_prettyItems (depth + 1) ds
    simp only [List.length_cons, List.length_append]
    omega
  have hread := readItems_pretty hitems hwritten hlength depth rest
  rw [hcons] at hread ⊢
  simp only [List.cons_append, List.append_assoc, List.nil_append] at hread ⊢
  rw [readValue_array hnext hbracket, hread]
  rfl

theorem readBy_object {f : String × Document} {fields : List (String × Document)}
    (hnames : ∀ g ∈ f :: fields, ∃ name, g.1 = encode name)
    (hvalues : ∀ g ∈ f :: fields, g.2.ReadBy (readValue (fuel + 1)) (depth + 1)) :
    (Document.object (f :: fields)).ReadBy (readValue (fuel + 1 + 1)) depth := by
  intro rest _
  rw [toList_prettyAt_object]
  have hnext := (skipBlank_lineBreak (depth + 1) _).trans
    (skipBlank_of_not_blank (c := '"') (by decide) (f.1.toList ++ '"' :: ':' :: ' ' ::
      ((prettyAt (depth + 1) f.2).toList ++ ((prettyFields (depth + 1) fields).toList ++
        (lineBreak depth ++ '\x7d' :: rest)))))
  have hlength : fields.length < ('"' :: (f.1.toList ++ '"' :: ':' :: ' ' ::
      ((prettyAt (depth + 1) f.2).toList ++ ((prettyFields (depth + 1) fields).toList ++
        (lineBreak depth ++ '\x7d' :: rest))))).length + 1 := by
    have hle := length_le_prettyFields (depth + 1) fields
    simp only [List.length_cons, List.length_append]
    omega
  have hread := readFields_pretty (readValue_space fuel) hnames hvalues hlength depth rest
  unfold prettyField at hread ⊢
  simp only [List.cons_append, List.append_assoc, List.nil_append] at hread ⊢
  rw [readValue_object hnext, hread]
  rfl

/-- A document is read where the nesting may be as deep as what is written is long. -/
theorem Written.readBy (h : d.Written) :
    ∀ depth fuel, (prettyAt depth d).toList.length ≤ fuel → d.ReadBy (readValue (fuel + 1)) depth := by
  induction h with
  | null =>
    intro depth fuel _ rest _
    rw [prettyAt]
    exact readWord_append "null" rest
  | bool b =>
    intro depth fuel _ rest _
    cases b with
    | false =>
      rw [prettyAt]
      exact readWord_append "false" rest
    | true =>
      rw [prettyAt]
      exact readWord_append "true" rest
  | nat n => exact fun _ _ _ => readBy_nat n
  | text s => exact fun _ _ _ => readBy_text s
  | @array items h ih =>
    intro depth fuel hfuel
    cases items with
    | nil =>
      intro rest _
      rw [prettyAt]
      rfl
    | cons d ds =>
      rw [toList_prettyAt_array] at hfuel
      simp only [List.length_cons, List.length_append, List.length_nil] at hfuel
      obtain ⟨fuel, rfl⟩ := Nat.exists_eq_add_one_of_ne_zero (n := fuel) (by omega)
      refine readBy_array h fun e he => ih e he (depth + 1) fuel ?_
      rcases List.mem_cons.mp he with rfl | hds
      · omega
      · have hle := length_item_le (depth + 1) hds
        omega
  | @object fields hnames h ih =>
    intro depth fuel hfuel
    cases fields with
    | nil =>
      intro rest _
      rw [prettyAt]
      rfl
    | cons f fields =>
      rw [toList_prettyAt_object] at hfuel
      simp only [List.length_cons, List.length_append, List.length_nil, prettyField] at hfuel
      obtain ⟨fuel, rfl⟩ := Nat.exists_eq_add_one_of_ne_zero (n := fuel) (by omega)
      refine readBy_object hnames fun g hg => ih g hg (depth + 1) fuel ?_
      rcases List.mem_cons.mp hg with rfl | hfields
      · omega
      · have hle := length_field_le (depth + 1) hfields
        omega

/-- A document written out, with the line ended behind it, is read back as itself. -/
theorem Written.parse_pretty (h : d.Written) : Document.parse (d.pretty ++ "\n") = .ok d := by
  have hlength : (prettyAt 0 d).toList.length ≤ ((prettyAt 0 d).toList ++ ['\n']).length := by
    rw [List.length_append]
    exact Nat.le_add_right _ _
  have hread := h.readBy 0 _ hlength ['\n'] (ends_newline [])
  unfold Document.parse
  rw [String.toList_append]
  simp only [pretty]
  rw [show "\n".toList = ['\n'] from rfl, hread]
  rfl

end Reading

section Views

/-- The text that a string stands for. -/
def text? : Document → Option String
  | .string raw => decode raw
  | _ => none

/-- A number, as written. -/
def literal? : Document → Option String
  | .number literal => some literal
  | _ => none

def flag? : Document → Option Bool
  | .bool b => some b
  | _ => none

/-- The value of the first field of that name. -/
def field? (name : String) : Document → Option Document
  | .object fields => (fields.find? fun f => decode f.1 = some name).map (·.2)
  | _ => none

/-- The items, each of which has to be of the given form. -/
def items? {α : Type} (read : Document → Option α) : Document → Option (List α)
  | .array items => items.mapM read
  | _ => none

theorem text?_text (s : String) : (text s).text? = some s := decode_encode s

theorem field?_record (name : String) (fields : List (String × Document)) :
    (record fields).field? name = (fields.find? fun f => f.1 = name).map (·.2) := by
  have hname : ∀ f : String × Document,
      decide (decode (encode f.1) = some name) = decide (f.1 = name) := by
    intro f
    rw [decode_encode]
    simp only [Option.some.injEq]
  unfold record
  rw [field?, List.find?_map, Option.map_map]
  simp only [Function.comp_def, hname]

theorem items?_list {α β : Type} {f : α → Document} {read : Document → Option β} {g : α → β}
    (h : ∀ x, read (f x) = some (g x)) (xs : List α) :
    (list f xs).items? read = some (xs.map g) := by
  unfold list
  rw [items?]
  induction xs with
  | nil => rfl
  | cons x xs ih =>
    rw [List.map_cons, List.mapM_cons, h, ih]
    rfl

end Views

end Document

end NameFlow.Json
