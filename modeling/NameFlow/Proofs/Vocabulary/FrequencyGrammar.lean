import Mathlib.Data.Nat.Find
import NameFlow.Proofs.FirstFault
import NameFlow.Proofs.Vocabulary.FrequencyText
import NameFlow.Proofs.Vocabulary.Places

/-!
# Which texts are frequency lists

A line of a frequency list says nothing, or a count and a phrase with a blank between them. A text
is a list if all its lines are such lines and one of them says the number of streams. Then each
phrase has the count of its last line, and the phrases come in the order of their first lines. A text
with another line is refused for the first one of these, whatever else is missing.
-/

namespace NameFlow.Vocabulary.FrequencyList

set_option autoImplicit false

/-- A line that says this has an entry: a count, the first blank, and a phrase. -/
def Says (content : List Char) (e : String × Nat) : Prop :=
  ∃ count phrase, content = count ++ ' ' :: phrase ∧ ' ' ∉ count ∧ Text.IsCount count e.2 ∧
    e.1 = String.ofList (Text.trim phrase)

/-- What is wrong with a line that says this. -/
inductive Faulty : List Char → FrequencyFault → Prop
  | noPhrase {content : List Char} (hne : content ≠ []) (h : ' ' ∉ content) :
    Faulty content (.noPhrase (String.ofList content))
  | badCount {count phrase : List Char} {fault : Text.CountFault} (hfirst : ' ' ∉ count)
      (h : Text.readCount count = .error fault) :
    Faulty (count ++ ' ' :: phrase) (.badCount (String.ofList count) fault)

section Lines

variable {line : Nat × List Char}

theorem readLine_some_iff {e : String × Nat} :
    readLine line = .ok (some e) ↔ Says (Text.content line.2) e := by
  rw [readLine_eq_some_iff]
  simp only [Text.readCount_eq_ok_iff]
  rfl

theorem readLine_of_empty (h : Text.content line.2 = []) : readLine line = .ok none := by
  unfold readLine
  rw [h]

theorem readLine_of_unbroken (hne : Text.content line.2 ≠ []) (h : ' ' ∉ Text.content line.2) :
    readLine line =
      .error (.frequency line.1 (.noPhrase (String.ofList (Text.content line.2)))) := by
  have hdrop : (Text.content line.2).dropWhile (· ≠ ' ') = [] := by
    rw [List.dropWhile_eq_nil_iff]
    intro c hc
    rw [decide_eq_true_iff]
    exact fun heq => h (heq ▸ hc)
  unfold readLine
  split
  · rename_i hnil
    exact absurd hnil hne
  · simp only [hdrop]

theorem readLine_of_badCount {count phrase : List Char} {fault : Text.CountFault}
    (hcontent : Text.content line.2 = count ++ ' ' :: phrase) (hfirst : ' ' ∉ count)
    (h : Text.readCount count = .error fault) :
    readLine line = .error (.frequency line.1 (.badCount (String.ofList count) fault)) := by
  unfold readLine
  rw [hcontent]
  split
  · rename_i hnil
    exact absurd hnil (List.append_ne_nil_of_right_ne_nil count (List.cons_ne_nil ' ' phrase))
  · simp only [dropWhile_first_blank hfirst, takeWhile_first_blank hfirst, h]

/-- What reading a line can give. -/
theorem readLine_cases (line : Nat × List Char) :
    Text.content line.2 = [] ∧ readLine line = .ok none ∨
    (∃ e, Says (Text.content line.2) e ∧ readLine line = .ok (some e)) ∨
    ∃ fault, Faulty (Text.content line.2) fault ∧
      readLine line = .error (.frequency line.1 fault) := by
  by_cases hne : Text.content line.2 = []
  · exact .inl ⟨hne, readLine_of_empty hne⟩
  · right
    by_cases hblank : ' ' ∈ Text.content line.2
    · obtain ⟨count, phrase, hcontent, hfirst⟩ := List.eq_append_cons_of_mem hblank
      cases hcount : Text.readCount count with
      | ok n =>
        have hsays : Says (Text.content line.2) (String.ofList (Text.trim phrase), n) :=
          ⟨count, phrase, hcontent, hfirst, Text.readCount_eq_ok_iff.mp hcount, rfl⟩
        exact .inl ⟨_, hsays, readLine_some_iff.mpr hsays⟩
      | error fault =>
        have hread := readLine_of_badCount hcontent hfirst hcount
        rw [hcontent]
        exact .inr ⟨_, .badCount hfirst hcount, hread⟩
    · exact .inr ⟨_, .noPhrase hne hblank, readLine_of_unbroken hne hblank⟩

/-- Reading a line fails if something is wrong with it, and says what. -/
theorem readLine_error_iff {err : Error} :
    readLine line = .error err ↔
      ∃ fault, Faulty (Text.content line.2) fault ∧ err = .frequency line.1 fault := by
  constructor
  · intro herr
    rcases readLine_cases line with ⟨-, hread⟩ | ⟨e, -, hread⟩ | ⟨fault, hfaulty, hread⟩
    · rw [hread] at herr
      cases herr
    · rw [hread] at herr
      cases herr
    · rw [hread] at herr
      exact ⟨fault, hfaulty, (Except.error.inj herr).symm⟩
  · rintro ⟨fault, hfaulty, rfl⟩
    generalize hcontent : Text.content line.2 = content at hfaulty
    cases hfaulty with
    | noPhrase hne h =>
      subst hcontent
      exact readLine_of_unbroken hne h
    | badCount hfirst h => exact readLine_of_badCount hcontent hfirst h

/-- Something is wrong with a line exactly if it says something but no entry. -/
theorem exists_error_iff :
    (∃ err, readLine line = .error err) ↔
      Text.content line.2 ≠ [] ∧ ¬ ∃ e, Says (Text.content line.2) e := by
  constructor
  · rintro ⟨err, herr⟩
    constructor
    · intro hnil
      rw [readLine_of_empty hnil] at herr
      cases herr
    · rintro ⟨e, hsays⟩
      rw [readLine_some_iff.mpr hsays] at herr
      cases herr
  · rintro ⟨hne, hnone⟩
    rcases readLine_cases line with ⟨hnil, -⟩ | ⟨e, hsays, -⟩ | ⟨fault, -, hread⟩
    · exact absurd hnil hne
    · exact absurd ⟨e, hsays⟩ hnone
    · exact ⟨_, hread⟩

end Lines

section Places

variable {text : String} {i : Nat}

/-- The line at a place says an entry. -/
def SaysAt (contents : List (List Char)) (i : Nat) (e : String × Nat) : Prop :=
  ∃ content, contents[i]? = some content ∧ Says content e

/-- The line at a place says something, but no entry. -/
def BadAt (contents : List (List Char)) (i : Nat) : Prop :=
  ∃ content, contents[i]? = some content ∧ content ≠ [] ∧ ¬ ∃ e, Says content e

theorem getElem?_contents (text : String) (i : Nat) :
    (Text.contents text)[i]? =
      (Text.numberedLines text)[i]?.map fun line => Text.content line.2 := by
  rw [← Text.map_content_numberedLines, List.getElem?_map]

theorem saysAt_iff {e : String × Nat} :
    SaysAt (Text.contents text) i e ↔
      ∃ line, (Text.numberedLines text)[i]? = some line ∧ readLine line = .ok (some e) := by
  unfold SaysAt
  simp only [getElem?_contents, Option.map_eq_some_iff, readLine_some_iff]
  constructor
  · rintro ⟨_, ⟨line, hline, rfl⟩, hsays⟩
    exact ⟨line, hline, hsays⟩
  · rintro ⟨line, hline, hsays⟩
    exact ⟨_, ⟨line, hline, rfl⟩, hsays⟩

theorem badAt_iff :
    BadAt (Text.contents text) i ↔
      ∃ err line, (Text.numberedLines text)[i]? = some line ∧ readLine line = .error err := by
  unfold BadAt
  simp only [getElem?_contents, Option.map_eq_some_iff]
  constructor
  · rintro ⟨_, ⟨line, hline, rfl⟩, hbad⟩
    obtain ⟨err, herr⟩ := exists_error_iff.mpr hbad
    exact ⟨err, line, hline, herr⟩
  · rintro ⟨err, line, hline, herr⟩
    exact ⟨_, ⟨line, hline, rfl⟩, exists_error_iff.mp ⟨err, herr⟩⟩

/-- The error of the line at a place carries its number, counted from one. -/
theorem exists_error_at_iff {err : Error} :
    (∃ line, (Text.numberedLines text)[i]? = some line ∧ readLine line = .error err) ↔
      ∃ content fault, (Text.contents text)[i]? = some content ∧ Faulty content fault ∧
        err = .frequency (i + 1) fault := by
  simp only [getElem?_contents, Text.getElem?_numberedLines, Option.map_eq_some_iff,
    readLine_error_iff]
  constructor
  · rintro ⟨_, ⟨line, hline, rfl⟩, fault, hfaulty, rfl⟩
    exact ⟨_, fault, ⟨_, ⟨line, hline, rfl⟩, rfl⟩, hfaulty, rfl⟩
  · rintro ⟨_, fault, ⟨_, ⟨line, hline, rfl⟩, rfl⟩, hfaulty, rfl⟩
    exact ⟨_, ⟨line, hline, rfl⟩, fault, hfaulty, rfl⟩

end Places

section Refused

variable {text : String} {e : Error}

/-- The error of the first bad line. -/
def FirstFault (contents : List (List Char)) (e : Error) : Prop :=
  ∃ i, BadAt contents i ∧ (∀ j < i, ¬ BadAt contents j) ∧
    ∃ content fault, contents[i]? = some content ∧ Faulty content fault ∧
      e = .frequency (i + 1) fault

theorem mapM_readLine_error_iff :
    (Text.numberedLines text).mapM readLine = .error e ↔ FirstFault (Text.contents text) e := by
  rw [mapM_error_iff]
  constructor
  · rintro ⟨i, hfail, hbefore⟩
    refine ⟨i, badAt_iff.mpr ⟨e, hfail⟩, fun j hj hbad => ?_, exists_error_at_iff.mp hfail⟩
    obtain ⟨e', hfail'⟩ := badAt_iff.mp hbad
    exact hbefore j hj e' hfail'
  · rintro ⟨i, -, hbefore, hfault⟩
    refine ⟨i, exists_error_at_iff.mpr hfault, fun j hj e' hfail' => ?_⟩
    exact hbefore j hj (badAt_iff.mpr ⟨e', hfail'⟩)

theorem parse_of_firstFault (h : FirstFault (Text.contents text) e) : parse text = .error e := by
  unfold parse
  rw [mapM_readLine_error_iff.mpr h]
  rfl

/-- Where a line is bad there is a first one. -/
theorem exists_firstFault (h : ∃ i, BadAt (Text.contents text) i) :
    ∃ e, FirstFault (Text.contents text) e := by
  classical
  obtain ⟨e, hfail⟩ := badAt_iff.mp (Nat.find_spec h)
  exact ⟨e, Nat.find h, Nat.find_spec h, fun j hj => Nat.find_min h hj, exists_error_at_iff.mp hfail⟩

end Refused

section Accepted

variable {text : String}

/-- The entry of a line, if it has one. -/
def entryOf (line : Nat × List Char) : Option (String × Nat) := (readLine line).toOption.join

theorem entryOf_eq_some_iff {line : Nat × List Char} {e : String × Nat} :
    entryOf line = some e ↔ readLine line = .ok (some e) := by
  unfold entryOf
  cases readLine line with
  | error err => simp [Except.toOption]
  | ok r => simp [Except.toOption]

/-- The entries of a text, each with the number of its line. -/
def placed (text : String) : List (Nat × String × Nat) :=
  (Text.numberedLines text).filterMap fun line => (entryOf line).map fun e => (line.1, e)

theorem mem_placed_iff {n : Nat} {e : String × Nat} :
    (n, e) ∈ placed text ↔ ∃ i, n = i + 1 ∧ SaysAt (Text.contents text) i e := by
  rw [placed, List.mem_filterMap]
  simp only [Option.map_eq_some_iff, entryOf_eq_some_iff, saysAt_iff]
  constructor
  · rintro ⟨line, hmem, _, hread, heq⟩
    cases heq
    obtain ⟨i, hi⟩ := List.mem_iff_getElem?.mp hmem
    exact ⟨i, Text.number_of_getElem? hi, line, hi, hread⟩
  · rintro ⟨i, rfl, line, hi, hread⟩
    refine ⟨line, List.mem_iff_getElem?.mpr ⟨i, hi⟩, e, hread, ?_⟩
    rw [Text.number_of_getElem? hi]

theorem pairwise_placed (text : String) : (placed text).Pairwise fun x y => x.1 < y.1 := by
  have hnumbers : (Text.numberedLines text).Pairwise fun x y => x.1 < y.1 := by
    have hrange : ((Text.lines text.toList).zipIdx.map Prod.snd).Pairwise (· < ·) := by
      rw [List.zipIdx_map_snd]
      exact List.pairwise_lt_range' 1
    rw [List.pairwise_map] at hrange
    unfold Text.numberedLines
    rw [List.pairwise_map]
    exact hrange.imp Nat.succ_lt_succ
  unfold placed
  rw [List.pairwise_filterMap]
  apply hnumbers.imp
  intro line line' hlt x hx y hy
  obtain ⟨e, -, rfl⟩ := Option.map_eq_some_iff.mp hx
  obtain ⟨e', -, rfl⟩ := Option.map_eq_some_iff.mp hy
  exact hlt

theorem mem_phrases_placed_iff {phrase : String} :
    phrase ∈ ((placed text).map Prod.snd).map Prod.fst ↔
      ∃ i n, SaysAt (Text.contents text) i (phrase, n) := by
  rw [List.map_map, List.mem_map]
  constructor
  · rintro ⟨⟨_, _, n⟩, hmem, rfl⟩
    obtain ⟨i, -, hsays⟩ := mem_placed_iff.mp hmem
    exact ⟨i, n, hsays⟩
  · rintro ⟨i, n, hsays⟩
    exact ⟨(i + 1, phrase, n), mem_placed_iff.mpr ⟨i, rfl, hsays⟩, rfl⟩

theorem SaysAt.lt {contents : List (List Char)} {i : Nat} {e : String × Nat}
    (h : SaysAt contents i e) : e.2 < Text.countLimit := by
  obtain ⟨_, -, _, _, -, -, hcount, -⟩ := h
  obtain ⟨_, -, -, -, -, hlimit⟩ := hcount
  exact hlimit

theorem reads_of_not_bad (h : ∀ i, ¬ BadAt (Text.contents text) i) :
    Reads (Text.numberedLines text) ((Text.numberedLines text).map entryOf) := by
  unfold Reads
  rw [List.forall₂_map_right_iff, List.forall₂_same]
  intro line hline
  obtain ⟨i, hi⟩ := List.mem_iff_getElem?.mp hline
  cases hread : readLine line with
  | error err => exact absurd (badAt_iff.mpr ⟨err, line, hi, hread⟩) (h i)
  | ok r =>
    unfold entryOf
    rw [hread]
    rfl

theorem filterMap_entryOf (text : String) :
    ((Text.numberedLines text).map entryOf).filterMap id = (placed text).map Prod.snd := by
  rw [placed, List.filterMap_map, List.map_filterMap]
  apply List.filterMap_congr
  intro line _
  rw [Option.map_map]
  exact (Option.map_id' (x := entryOf line)).symm

/-- The list of the entries of a text. -/
def recorded (text : String) : FrequencyList := ⟨collect ((placed text).map Prod.snd)⟩

/-- A text without a bad line is a list, unless the number of streams is missing. -/
theorem parse_of_not_bad (h : ∀ i, ¬ BadAt (Text.contents text) i) :
    parse text =
      if totalKey ∈ ((placed text).map Prod.snd).map Prod.fst then .ok (recorded text)
      else .error .missingTotal := by
  rw [parse_of_reads (reads_of_not_bad h), filterMap_entryOf]
  rfl

theorem parse_of_total (h : ∀ i, ¬ BadAt (Text.contents text) i)
    (htotal : ∃ i n, SaysAt (Text.contents text) i (totalKey, n)) :
    parse text = .ok (recorded text) := by
  rw [parse_of_not_bad h, if_pos (mem_phrases_placed_iff.mpr htotal)]

theorem parse_of_missing (h : ∀ i, ¬ BadAt (Text.contents text) i)
    (htotal : ¬ ∃ i n, SaysAt (Text.contents text) i (totalKey, n)) :
    parse text = .error .missingTotal := by
  rw [parse_of_not_bad h, if_neg (mt mem_phrases_placed_iff.mp htotal)]

/-- A text has a bad line, or it is a list, or only the number of streams is missing. -/
theorem parse_cases (text : String) :
    (∃ e, FirstFault (Text.contents text) e ∧ parse text = .error e) ∨
    ((∀ i, ¬ BadAt (Text.contents text) i) ∧
      (∃ i n, SaysAt (Text.contents text) i (totalKey, n)) ∧ parse text = .ok (recorded text)) ∨
    (∀ i, ¬ BadAt (Text.contents text) i) ∧
      (¬ ∃ i n, SaysAt (Text.contents text) i (totalKey, n)) ∧
      parse text = .error .missingTotal := by
  -- The lines come first: the number of streams is asked for only when all of them are read.
  by_cases hbad : ∃ i, BadAt (Text.contents text) i
  · obtain ⟨e, hfirst⟩ := exists_firstFault hbad
    exact .inl ⟨e, hfirst, parse_of_firstFault hfirst⟩
  · have hnone := not_exists.mp hbad
    by_cases htotal : ∃ i n, SaysAt (Text.contents text) i (totalKey, n)
    · exact .inr (.inl ⟨hnone, htotal, parse_of_total hnone htotal⟩)
    · exact .inr (.inr ⟨hnone, htotal, parse_of_missing hnone htotal⟩)

theorem exists_parse_iff :
    (∃ l, parse text = .ok l) ↔
      (∀ i, ¬ BadAt (Text.contents text) i) ∧
        ∃ i n, SaysAt (Text.contents text) i (totalKey, n) := by
  constructor
  · rintro ⟨l, hl⟩
    rcases parse_cases text with ⟨e, -, hparse⟩ | ⟨hnone, htotal, -⟩ | ⟨-, -, hparse⟩
    · rw [hl] at hparse
      cases hparse
    · exact ⟨hnone, htotal⟩
    · rw [hl] at hparse
      cases hparse
  · rintro ⟨hnone, htotal⟩
    exact ⟨recorded text, parse_of_total hnone htotal⟩

theorem eq_recorded {l : FrequencyList} (h : parse text = .ok l) : l = recorded text := by
  obtain ⟨hnone, htotal⟩ := exists_parse_iff.mp ⟨l, h⟩
  rw [parse_of_total hnone htotal] at h
  exact (Except.ok.inj h).symm

/-- The number of streams is reported missing only where no line is bad. -/
theorem parse_error_iff {e : Error} :
    parse text = .error e ↔
      FirstFault (Text.contents text) e ∨
      e = .missingTotal ∧ (∀ i, ¬ BadAt (Text.contents text) i) ∧
        ¬ ∃ i n, SaysAt (Text.contents text) i (totalKey, n) := by
  constructor
  · intro he
    rcases parse_cases text with ⟨e', hfirst, hparse⟩ | ⟨-, -, hparse⟩ | ⟨hnone, htotal, hparse⟩
    · rw [he] at hparse
      rw [Except.error.inj hparse]
      exact .inl hfirst
    · rw [he] at hparse
      cases hparse
    · rw [he] at hparse
      exact .inr ⟨Except.error.inj hparse, hnone, htotal⟩
  · rintro (hfirst | ⟨rfl, hnone, htotal⟩)
    · exact parse_of_firstFault hfirst
    · exact parse_of_missing hnone htotal

end Accepted

/-- What a list keeps of the lines of its text. -/
structure Records (l : FrequencyList) (contents : List (List Char)) : Prop where
  /-- The count of a phrase is that of its last line. -/
  last : ∀ phrase n, l.get? phrase = some n ↔
    ∃ i, SaysAt contents i (phrase, n) ∧ ∀ j m, SaysAt contents j (phrase, m) → j ≤ i
  /-- The phrases come in the order of their first lines. -/
  ordered : (l.entries.map Prod.fst).Pairwise fun phrase phrase' =>
    ∃ i n, SaysAt contents i (phrase, n) ∧ ∀ j m, SaysAt contents j (phrase', m) → i < j

section Recording

variable (text : String)

/-- The entries of a text as they are kept. -/
def placedWords : List (Nat × String × UInt64) :=
  (placed text).map fun x => (x.1, x.2.1, .ofNat x.2.2)

theorem collect_placed : collect ((placed text).map Prod.snd) =
    .ofEntries ((placedWords text).map Prod.snd) := by
  rw [collect_eq, placedWords, List.map_map, List.map_map]
  rfl

theorem pairwise_placedWords : (placedWords text).Pairwise fun x y => x.1 < y.1 := by
  rw [placedWords, List.pairwise_map]
  exact pairwise_placed text

variable {text}

theorem mem_placedWords_iff {n : Nat} {phrase : String} {w : UInt64} :
    (n, phrase, w) ∈ placedWords text ↔
      ∃ i, n = i + 1 ∧ SaysAt (Text.contents text) i (phrase, w.toNat) := by
  rw [placedWords, List.mem_map]
  constructor
  · rintro ⟨⟨_, _, m⟩, hmem, heq⟩
    cases heq
    obtain ⟨i, hi, hsays⟩ := mem_placed_iff.mp hmem
    refine ⟨i, hi, ?_⟩
    rw [toNat_ofNat hsays.lt]
    exact hsays
  · rintro ⟨i, rfl, hsays⟩
    refine ⟨(i + 1, phrase, w.toNat), mem_placed_iff.mpr ⟨i, rfl, hsays⟩, ?_⟩
    rw [UInt64.ofNat_toNat]

theorem get?_recorded {phrase : String} {n : Nat} :
    (recorded text).get? phrase = some n ↔
      ∃ i, SaysAt (Text.contents text) i (phrase, n) ∧
        ∀ j m, SaysAt (Text.contents text) j (phrase, m) → j ≤ i := by
  rw [get?, recorded, collect_placed, Option.map_eq_some_iff]
  constructor
  · rintro ⟨w, hw, rfl⟩
    obtain ⟨_, hmem, hlast⟩ :=
      (OrderedMap.get?_ofEntries_placed_iff (pairwise_placedWords text)).mp hw
    obtain ⟨i, rfl, hsays⟩ := mem_placedWords_iff.mp hmem
    refine ⟨i, hsays, fun j m hj => ?_⟩
    have hword : (UInt64.ofNat m).toNat = m := toNat_ofNat hj.lt
    have hle := hlast (j + 1) (.ofNat m) (mem_placedWords_iff.mpr ⟨j, rfl, hword.symm ▸ hj⟩)
    exact Nat.le_of_succ_le_succ hle
  · rintro ⟨i, hsays, hlast⟩
    have hword : (UInt64.ofNat n).toNat = n := toNat_ofNat hsays.lt
    refine ⟨.ofNat n, ?_, hword⟩
    rw [OrderedMap.get?_ofEntries_placed_iff (pairwise_placedWords text)]
    refine ⟨i + 1, mem_placedWords_iff.mpr ⟨i, rfl, hword.symm ▸ hsays⟩, fun j w hj => ?_⟩
    obtain ⟨j, rfl, hlater⟩ := mem_placedWords_iff.mp hj
    exact Nat.succ_le_succ (hlast j w.toNat hlater)

theorem records_recorded (text : String) : Records (recorded text) (Text.contents text) := by
  refine ⟨fun phrase n => get?_recorded, ?_⟩
  have hplaces : ((placedWords text).map fun x => (x.1, x.2.1)).Pairwise fun x y => x.1 < y.1 := by
    rw [List.pairwise_map]
    exact pairwise_placedWords text
  have hkeys : (recorded text).counts.keys =
      (((placedWords text).map fun x => (x.1, x.2.1)).map Prod.snd).eraseDups := by
    rw [recorded, collect_placed, OrderedMap.keys_ofEntries, List.map_map, List.map_map]
    rfl
  rw [fst_entries, hkeys]
  apply (pairwise_eraseDups hplaces).imp
  rintro phrase phrase' ⟨n, hn, hbefore⟩
  obtain ⟨⟨_, _, w⟩, hmem, heq⟩ := List.mem_map.mp hn
  cases heq
  obtain ⟨i, rfl, hsays⟩ := mem_placedWords_iff.mp hmem
  refine ⟨i, w.toNat, hsays, fun j m hj => ?_⟩
  have hword : (UInt64.ofNat m).toNat = m := toNat_ofNat hj.lt
  have hmem' : (j + 1, phrase', UInt64.ofNat m) ∈ placedWords text :=
    mem_placedWords_iff.mpr ⟨j, rfl, hword.symm ▸ hj⟩
  exact Nat.lt_of_succ_lt_succ (hbefore (j + 1) (List.mem_map.mpr ⟨_, hmem', rfl⟩))

end Recording

theorem forall_content_iff {contents : List (List Char)} :
    (∀ content ∈ contents, content = [] ∨ ∃ e, Says content e) ↔ ∀ i, ¬ BadAt contents i := by
  constructor
  · rintro h i ⟨content, hi, hne, hnone⟩
    rcases h content (List.mem_iff_getElem?.mpr ⟨i, hi⟩) with hnil | hsays
    · exact hne hnil
    · exact hnone hsays
  · intro h content hmem
    obtain ⟨i, hi⟩ := List.mem_iff_getElem?.mp hmem
    by_cases hnil : content = []
    · exact .inl hnil
    · right
      by_contra hnone
      exact h i ⟨content, hi, hnil, hnone⟩

/-- A text is a frequency list exactly if each of its lines says nothing or an entry, and one of
them the number of streams. A list has the count of each phrase's last line, in the order of first
lines. A text that is no list is refused for its first bad line, and for the missing number of
streams only if it has none. -/
theorem parse_accepts_grammar (text : String) :
    ((∃ l, parse text = .ok l) ↔
      (∀ content ∈ Text.contents text, content = [] ∨ ∃ e, Says content e) ∧
        ∃ i n, SaysAt (Text.contents text) i (totalKey, n)) ∧
    (∀ l, parse text = .ok l → Records l (Text.contents text)) ∧
    ∀ e, parse text = .error e ↔
      (∃ i, BadAt (Text.contents text) i ∧ (∀ j < i, ¬ BadAt (Text.contents text) j) ∧
        ∃ content fault, (Text.contents text)[i]? = some content ∧ Faulty content fault ∧
          e = .frequency (i + 1) fault) ∨
      e = .missingTotal ∧ (∀ i, ¬ BadAt (Text.contents text) i) ∧
        ¬ ∃ i n, SaysAt (Text.contents text) i (totalKey, n) := by
  refine ⟨?_, fun l hl => ?_, fun e => parse_error_iff⟩
  · rw [forall_content_iff]
    exact exists_parse_iff
  · rw [eq_recorded hl]
    exact records_recorded text

/-- A phrase stands twice, a count is the largest a word holds, and a line is a comment. -/
def repeatedText : String :=
  "# counts\n3 name\n+018446744073709551615 \u00a0user/name\n\n2 *\n 5 name # again\n"

/-- The second count of the repeated phrase is kept, in the place of its first line. -/
theorem repeated_phrase_recorded :
    ∃ l, parse repeatedText = .ok l ∧
      l.entries = [("name", 5), ("user/name", 18446744073709551615), ("*", 2)] ∧
      Records l (Text.contents repeatedText) := by
  have hentries : (parse repeatedText).toOption.map entries =
      some [("name", 5), ("user/name", 18446744073709551615), ("*", 2)] := by decide +kernel
  obtain ⟨l, hparse, hl⟩ := exists_ok_of_toOption hentries
  exact ⟨l, hparse, hl, (parse_accepts_grammar repeatedText).2.1 l hparse⟩

end NameFlow.Vocabulary.FrequencyList
