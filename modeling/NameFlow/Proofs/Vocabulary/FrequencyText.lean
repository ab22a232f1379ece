import Mathlib.Data.List.Forall2
import NameFlow.Proofs.Text.Count
import NameFlow.Proofs.Text.Line
import NameFlow.Proofs.Vocabulary.DocumentFrequency

/-!
# Frequency lists as text

A list whose keys each fit on a line is written as a text that reads as its entries of at least two
streams, by descending count. The keys of every list that was read, and of every list of streams,
are such keys. What is written of a list is written of it again, but a list of one stream loses the
number of streams with everything else that occurred once.
-/

namespace NameFlow.Vocabulary

set_option autoImplicit false

universe u v

/-- A key that a line can hold as it is: one that is there, trimmed, without a comment and without
a newline. -/
structure Legible (key : String) : Prop where
  ne_nil : key.toList ≠ []
  tight : Text.Tight key.toList
  uncommented : '#' ∉ key.toList
  unbroken : '\n' ∉ key.toList

namespace FrequencyList

section Lines

/-- A list is read if every member is, one by one. -/
theorem mapM_ok_iff {ε : Type u} {α : Type v} {β : Type u} {f : α → Except ε β} {as : List α}
    {bs : List β} : as.mapM f = .ok bs ↔ List.Forall₂ (fun a b => f a = .ok b) as bs := by
  induction as generalizing bs with
  | nil =>
    rw [List.mapM_nil, List.forall₂_nil_left_iff]
    constructor
    · intro h
      cases h
      rfl
    · rintro rfl
      rfl
  | cons a as ih =>
    rw [List.mapM_cons, List.forall₂_cons_left_iff]
    constructor
    · intro h
      cases ha : f a with
      | error e =>
        rw [ha] at h
        cases h
      | ok b =>
        cases has : as.mapM f with
        | error e =>
          rw [ha, has] at h
          cases h
        | ok rest =>
          rw [ha, has] at h
          cases h
          exact ⟨b, rest, rfl, ih.mp has, rfl⟩
    · rintro ⟨b, rest, ha, hrest, rfl⟩
      rw [ha, ih.mpr hrest]
      rfl

section FirstBlank

variable {count : List Char} (h : ' ' ∉ count) (phrase : List Char)
include h

theorem takeWhile_first_blank : (count ++ ' ' :: phrase).takeWhile (· ≠ ' ') = count := by
  have hpass : ∀ c ∈ count, decide (c ≠ ' ') = true := by
    intro c hc
    rw [decide_eq_true_iff]
    exact fun heq => h (heq ▸ hc)
  rw [List.takeWhile_append_of_pos hpass, List.takeWhile_cons_of_neg (by decide), List.append_nil]

theorem dropWhile_first_blank : (count ++ ' ' :: phrase).dropWhile (· ≠ ' ') = ' ' :: phrase := by
  have hsplit := List.takeWhile_append_dropWhile (p := fun c : Char => decide (c ≠ ' '))
    (l := count ++ ' ' :: phrase)
  rw [takeWhile_first_blank h] at hsplit
  exact List.append_cancel_left hsplit

end FirstBlank

/-- A line has an entry if it says a count, a blank that is its first, and a phrase. -/
theorem readLine_eq_some_iff {line : Nat × List Char} {e : String × Nat} :
    readLine line = .ok (some e) ↔
      ∃ count phrase, Text.content line.2 = count ++ ' ' :: phrase ∧ ' ' ∉ count ∧
        Text.readCount count = .ok e.2 ∧ e.1 = String.ofList (Text.trim phrase) := by
  unfold readLine
  constructor
  · intro h
    split at h
    · cases h
    · dsimp only at h
      split at h
      · cases h
      · rename_i blank phrase hphrase
        split at h
        · rename_i n hn
          cases h
          have hblank : blank = ' ' := by
            have hnot := List.head?_dropWhile_not (fun c : Char => decide (c ≠ ' '))
              (Text.content line.2)
            rw [hphrase] at hnot
            simpa using hnot
          subst hblank
          refine ⟨_, phrase, ?_, ?_, hn, rfl⟩
          · rw [← hphrase, List.takeWhile_append_dropWhile]
          · intro hmem
            have hnot := List.mem_takeWhile_imp hmem
            simp at hnot
        · cases h
  · rintro ⟨count, phrase, hcontent, hfirst, hcount, hphrase⟩
    rw [hcontent]
    split
    · rename_i hnil
      exact absurd hnil (List.append_ne_nil_of_right_ne_nil count (List.cons_ne_nil ' ' phrase))
    · simp only [dropWhile_first_blank hfirst, takeWhile_first_blank hfirst, hcount, ← hphrase]

/-- The phrase of a line is legible. -/
theorem legible_of_readLine {line : Nat × List Char} (hline : '\n' ∉ line.2) {e : String × Nat}
    (h : readLine line = .ok (some e)) : Legible e.1 := by
  obtain ⟨count, phrase, hcontent, -, -, hphrase⟩ := readLine_eq_some_iff.mp h
  have hmem : ∀ c ∈ Text.trim phrase, c ∈ Text.content line.2 := by
    intro c hc
    rw [hcontent]
    exact List.mem_append_right count (List.mem_cons_of_mem ' ' (Text.mem_of_mem_trim hc))
  rw [hphrase]
  constructor
  · rw [String.toList_ofList]
    intro hnil
    -- The last character of what a line says is not blank, and it is the phrase's.
    have hblank : ∀ c ∈ ' ' :: phrase, Text.isBlank c = true :=
      List.forall_mem_cons.mpr ⟨by decide, Text.trim_eq_nil_iff.mp hnil⟩
    have hlast := (Text.tight_trim (line.2.takeWhile (· ≠ '#'))).last
    obtain ⟨c, hc⟩ := Option.isSome_iff_exists.mp
      (List.getLast?_isSome.mpr (List.cons_ne_nil ' ' phrase))
    have hsolid : Text.isBlank c = false := by
      apply hlast
      rw [← Text.content, hcontent, List.getLast?_append_of_ne_nil _ (List.cons_ne_nil ' ' phrase)]
      exact hc
    rw [hblank c (List.mem_of_getLast? hc)] at hsolid
    cases hsolid
  · rw [String.toList_ofList]
    exact Text.tight_trim phrase
  · rw [String.toList_ofList]
    exact fun hc => Text.not_mem_content (hmem '#' hc)
  · rw [String.toList_ofList]
    exact fun hc => hline (Text.mem_of_mem_content (hmem '\n' hc))

/-- The line of an entry. -/
def entryLine (e : String × Nat) : List Char := (toString e.2).toList ++ [' '] ++ e.1.toList

theorem digit_ne {n : Nat} {c d : Char} (hd : d.isDigit = false) (hc : c ∈ (toString n).toList) :
    c ≠ d := by
  rintro rfl
  rw [Text.isDigit_of_mem_toString hc] at hd
  cases hd

theorem tight_toString (n : Nat) : Text.Tight (toString n).toList := by
  apply Text.Tight.of_solid
  intro c hc
  obtain ⟨hlow, hhigh⟩ := isDigit_iff.mp (Text.isDigit_of_mem_toString hc)
  exact Text.isBlank_of_visible (by omega) (by omega)

section Entry

variable {e : String × Nat}

theorem not_mem_entryLine {c : Char} (hdigit : c.isDigit = false) (hblank : c ≠ ' ')
    (hkey : c ∉ e.1.toList) : c ∉ entryLine e := by
  intro hmem
  unfold entryLine at hmem
  rw [List.mem_append, List.mem_append, List.mem_singleton] at hmem
  rcases hmem with (hmem | heq) | hmem
  · exact digit_ne hdigit hmem rfl
  · exact hblank heq
  · exact hkey hmem

theorem tight_entryLine (he : Legible e.1) : Text.Tight (entryLine e) :=
  (tight_toString e.2).append (Text.toString_ne_nil e.2) he.tight he.ne_nil [' ']

/-- The line of an entry is read as the entry. -/
theorem readLine_entryLine (he : Legible e.1) (hcount : e.2 < Text.countLimit) (i : Nat) :
    readLine (i, entryLine e) = .ok (some e) := by
  rw [readLine_eq_some_iff]
  refine ⟨(toString e.2).toList, e.1.toList, ?_, ?_, Text.readCount_toString hcount, ?_⟩
  · rw [Text.content_of_tight (tight_entryLine he)
      (not_mem_entryLine (by decide) (by decide) he.uncommented), entryLine, List.append_assoc]
    rfl
  · exact fun hmem => digit_ne (by decide) hmem rfl
  · rw [Text.trim_of_tight he.tight, String.ofList_toList]

end Entry

end Lines

section Parsing

variable {text : String} {l : FrequencyList}

/-- The counts of entries, in the order in which they are read. -/
def collect (es : List (String × Nat)) : OrderedMap String UInt64 :=
  es.foldl (fun m e => m.insert e.1 (.ofNat e.2)) ∅

theorem collect_eq (es : List (String × Nat)) :
    collect es =
      (es.map fun e => (e.1, UInt64.ofNat e.2)).foldl (fun m e => m.insert e.1 e.2) ∅ := by
  unfold collect
  rw [List.foldl_map]

theorem fst_map_ofNat (es : List (String × Nat)) :
    (es.map fun e => (e.1, UInt64.ofNat e.2)).map Prod.fst = es.map Prod.fst := by
  rw [List.map_map]
  rfl

theorem mem_keys_collect {es : List (String × Nat)} {key : String} :
    key ∈ (collect es).keys ↔ key ∈ es.map Prod.fst := by
  rw [collect_eq, OrderedMap.mem_keys_inserts, fst_map_ofNat]
  exact or_iff_right List.not_mem_nil

theorem toList_collect {es : List (String × Nat)} (hes : (es.map Prod.fst).Nodup) :
    (collect es).toList = es.map fun e => (e.1, UInt64.ofNat e.2) := by
  rw [collect_eq, OrderedMap.toList_inserts (by rwa [fst_map_ofNat])
    (fun _ _ => List.not_mem_nil)]
  rfl

/-- Lines that say these entries, one by one. -/
abbrev Reads (lines : List (Nat × List Char)) (read : List (Option (String × Nat))) : Prop :=
  List.Forall₂ (fun line e => readLine line = .ok e) lines read

/-- A text whose lines can all be read is a list, unless the number of streams is missing. -/
theorem parse_of_reads {read : List (Option (String × Nat))}
    (h : Reads (Text.numberedLines text) read) :
    parse text =
      if totalKey ∈ (read.filterMap id).map Prod.fst then .ok ⟨collect (read.filterMap id)⟩
      else .error .missingTotal := by
  have hread := mapM_ok_iff.mpr h
  have hparse : parse text =
      if (collect (read.filterMap id)).contains totalKey then .ok ⟨collect (read.filterMap id)⟩
      else .error .missingTotal := by
    unfold parse
    rw [hread]
    rfl
  rw [hparse]
  simp only [OrderedMap.contains_iff, mem_keys_collect]

theorem exists_reads_of_parse (h : parse text = .ok l) :
    ∃ read, Reads (Text.numberedLines text) read ∧ l = ⟨collect (read.filterMap id)⟩ := by
  cases hread : (Text.numberedLines text).mapM readLine with
  | error e =>
    unfold parse at h
    rw [hread] at h
    cases h
  | ok read =>
    have hreads := mapM_ok_iff.mp hread
    rw [parse_of_reads hreads] at h
    split at h
    · exact ⟨read, hreads, (Except.ok.inj h).symm⟩
    · cases h

theorem Reads.exists_line {lines : List (Nat × List Char)} {read : List (Option (String × Nat))}
    (h : Reads lines read) {e : Option (String × Nat)} (he : e ∈ read) :
    ∃ line ∈ lines, readLine line = .ok e := by
  induction h with
  | nil => cases he
  | @cons line _ lines _ hline _ ih =>
    rcases List.mem_cons.mp he with rfl | he
    · exact ⟨line, List.mem_cons_self, hline⟩
    · obtain ⟨line', hmem, hline'⟩ := ih he
      exact ⟨line', List.mem_cons_of_mem line hmem, hline'⟩

theorem reads_of_lines {lines : List (List Char)} {read : List (Option (String × Nat))}
    (h : List.Forall₂ (fun line e => ∀ i, readLine (i, line) = .ok e) lines read) (k : Nat) :
    Reads ((lines.zipIdx k).map fun x => (x.2 + 1, x.1)) read := by
  induction h generalizing k with
  | nil => exact .nil
  | cons hline _ ih => exact .cons (hline (k + 1)) (ih (k + 1))

theorem not_mem_of_mem_numberedLines {line : Nat × List Char} (h : line ∈ Text.numberedLines text) :
    '\n' ∉ line.2 := by
  obtain ⟨x, hx, rfl⟩ := List.mem_map.mp h
  exact Text.not_mem_of_mem_lines (List.fst_mem_of_mem_zipIdx hx)

/-- All keys of a list that was read are legible. -/
theorem legible_of_parse (h : parse text = .ok l) : ∀ key ∈ l.counts.keys, Legible key := by
  obtain ⟨read, hreads, rfl⟩ := exists_reads_of_parse h
  intro key hkey
  obtain ⟨e, he, rfl⟩ := List.mem_map.mp (mem_keys_collect.mp hkey)
  obtain ⟨_, hread, rfl⟩ := List.mem_filterMap.mp he
  obtain ⟨line, hline, hentry⟩ := hreads.exists_line hread
  exact legible_of_readLine (not_mem_of_mem_numberedLines hline) hentry

end Parsing

section Written

variable {l : FrequencyList} {e : String × Nat}

theorem mem_entries_iff {key : String} {n : Nat} : (key, n) ∈ l.entries ↔ l.get? key = some n := by
  unfold entries get?
  rw [List.mem_map, Option.map_eq_some_iff]
  constructor
  · rintro ⟨⟨key', m⟩, hmem, heq⟩
    obtain ⟨rfl, rfl⟩ := Prod.mk.inj heq
    exact ⟨m, OrderedMap.mem_toList_iff.mp hmem, rfl⟩
  · rintro ⟨m, hm, rfl⟩
    exact ⟨(key, m), OrderedMap.mem_toList_iff.mpr hm, rfl⟩

theorem fst_entries (l : FrequencyList) : l.entries.map Prod.fst = l.counts.keys := by
  unfold entries OrderedMap.keys
  rw [List.map_map]
  rfl

theorem writtenEntries_perm (l : FrequencyList) :
    l.writtenEntries.Perm (l.entries.filter fun e => 2 ≤ e.2) := List.mergeSort_perm _ _

theorem mem_writtenEntries_iff : e ∈ l.writtenEntries ↔ e ∈ l.entries ∧ 2 ≤ e.2 := by
  rw [l.writtenEntries_perm.mem_iff, List.mem_filter, decide_eq_true_iff]

theorem count_lt_of_mem (h : e ∈ l.entries) : e.2 < Text.countLimit := by
  obtain ⟨x, -, rfl⟩ := List.mem_map.mp h
  exact x.2.toNat_lt

theorem key_mem_of_mem (h : e ∈ l.entries) : e.1 ∈ l.counts.keys := by
  rw [← fst_entries]
  exact List.mem_map_of_mem h

theorem nodup_writtenEntries (l : FrequencyList) : (l.writtenEntries.map Prod.fst).Nodup := by
  rw [(l.writtenEntries_perm.map Prod.fst).nodup_iff]
  have hkeys : (l.entries.map Prod.fst).Nodup := by
    rw [fst_entries]
    exact l.counts.nodup
  exact hkeys.sublist (List.filter_sublist.map Prod.fst)

theorem descends_trans (a b c : String × Nat) (hab : decide (b.2 ≤ a.2) = true)
    (hbc : decide (c.2 ≤ b.2) = true) : decide (c.2 ≤ a.2) = true := by
  rw [decide_eq_true_iff] at hab hbc ⊢
  exact Nat.le_trans hbc hab

theorem descends_total (a b : String × Nat) :
    (decide (b.2 ≤ a.2) || decide (a.2 ≤ b.2)) = true := by
  simp [Nat.le_total]

/-- The written entries go down. -/
theorem sorted_writtenEntries (l : FrequencyList) :
    l.writtenEntries.Pairwise fun a b => b.2 ≤ a.2 := by
  have hsorted := List.pairwise_mergeSort descends_trans descends_total
    (l.entries.filter fun e => 2 ≤ e.2)
  exact hsorted.imp fun h => of_decide_eq_true h

/-- Entries of one count are written in their order. -/
theorem filter_writtenEntries (l : FrequencyList) {n : Nat} (hn : 2 ≤ n) :
    l.writtenEntries.filter (·.2 = n) = l.entries.filter (·.2 = n) := by
  have hkept : (l.entries.filter fun e => 2 ≤ e.2).filter (·.2 = n) =
      l.entries.filter (·.2 = n) := by
    rw [List.filter_filter]
    apply List.filter_congr
    intro e _
    simp only [Bool.and_eq_left_iff_imp, decide_eq_true_iff]
    omega
  -- Equal counts are in order whatever their order, and sorting keeps what is in order.
  have hsub : (l.entries.filter (·.2 = n)).Sublist l.writtenEntries := by
    rw [← hkept]
    apply List.sublist_mergeSort descends_trans descends_total _ List.filter_sublist
    apply List.pairwise_of_forall_mem_list
    intro a ha b hb
    have ha' := of_decide_eq_true (List.mem_filter.mp ha).2
    have hb' := of_decide_eq_true (List.mem_filter.mp hb).2
    exact decide_eq_true (by omega)
  have hsub' := hsub.filter (·.2 = n)
  rw [List.filter_filter] at hsub'
  simp only [Bool.and_self] at hsub'
  have hlength := (l.writtenEntries_perm.filter (·.2 = n)).length_eq
  rw [hkept] at hlength
  exact (hsub'.eq_of_length hlength.symm).symm

/-- The list that is written of a list. -/
def written (l : FrequencyList) : FrequencyList := ⟨collect l.writtenEntries⟩

theorem entries_written (l : FrequencyList) : l.written.entries = l.writtenEntries := by
  unfold entries written
  rw [toList_collect l.nodup_writtenEntries, List.map_map]
  refine (List.map_congr_left fun e he => ?_).trans (List.map_id l.writtenEntries)
  have hcount := count_lt_of_mem (mem_writtenEntries_iff.mp he).1
  exact Prod.ext rfl (toNat_ofNat hcount)

/-- What is written of a list is all of it that can be. -/
theorem writtenEntries_written (l : FrequencyList) :
    l.written.writtenEntries = l.writtenEntries := by
  have hall : l.writtenEntries.filter (fun e => 2 ≤ e.2) = l.writtenEntries := by
    rw [List.filter_eq_self]
    intro e he
    exact decide_eq_true (mem_writtenEntries_iff.mp he).2
  rw [writtenEntries, entries_written, hall]
  apply List.mergeSort_of_pairwise
  simpa using l.sorted_writtenEntries

theorem render_written (l : FrequencyList) : l.written.render = l.render := by
  unfold render
  rw [writtenEntries_written]

theorem total_mem_entries (h : 0 < l.total) : (totalKey, l.total) ∈ l.entries := by
  rw [mem_entries_iff]
  unfold total at h ⊢
  cases hget : l.get? totalKey with
  | none =>
    rw [hget] at h
    cases h
  | some n => rfl

/-- The number of streams is written if there are two. -/
theorem totalKey_mem_written_iff : totalKey ∈ l.writtenEntries.map Prod.fst ↔ 2 ≤ l.total := by
  constructor
  · intro h
    obtain ⟨e, he, hkey⟩ := List.mem_map.mp h
    obtain ⟨hmem, htwo⟩ := mem_writtenEntries_iff.mp he
    have hget : l.get? totalKey = some e.2 := by
      rw [← hkey]
      exact mem_entries_iff.mp hmem
    rw [total, hget]
    exact htwo
  · intro h
    have hmem := total_mem_entries (Nat.lt_of_lt_of_le Nat.two_pos h)
    exact List.mem_map_of_mem (mem_writtenEntries_iff.mpr ⟨hmem, h⟩)

theorem total_written (h : 2 ≤ l.total) : l.written.total = l.total := by
  have hmem := total_mem_entries (Nat.lt_of_lt_of_le Nat.two_pos h)
  have hget : l.written.get? totalKey = some l.total := by
    rw [← mem_entries_iff, entries_written, mem_writtenEntries_iff]
    exact ⟨hmem, h⟩
  rw [total, hget]
  rfl

end Written

section Rendering

/-- The lines that a list is written in. -/
def writtenLines (l : FrequencyList) : List (List Char) :=
  "# phrases list".toList :: l.writtenEntries.map entryLine

theorem toList_renderEntry (e : String × Nat) : (renderEntry e).toList = entryLine e ++ ['\n'] := by
  simp [renderEntry, entryLine]

theorem toList_render (l : FrequencyList) :
    l.render.toList = l.writtenLines.flatMap (· ++ ['\n']) := by
  unfold render writtenLines
  rw [String.toList_append, String.toList_join, List.flatMap_cons, List.flatMap_map,
    List.flatMap_map]
  simp only [toList_renderEntry]
  rfl

variable {l : FrequencyList} (hl : ∀ key ∈ l.counts.keys, Legible key)
include hl

theorem legible_of_mem_written {e : String × Nat} (he : e ∈ l.writtenEntries) : Legible e.1 :=
  hl e.1 (key_mem_of_mem (mem_writtenEntries_iff.mp he).1)

/-- The lines of the written text are those that were written. -/
theorem lines_render : Text.lines l.render.toList = l.writtenLines := by
  have hheader : '\n' ∉ "# phrases list".toList := by decide
  have hunbroken : ∀ line ∈ l.writtenLines, '\n' ∉ line := by
    refine List.forall_mem_cons.mpr ⟨hheader, fun line hline => ?_⟩
    obtain ⟨e, he, rfl⟩ := List.mem_map.mp hline
    exact not_mem_entryLine (by decide) (by decide) (legible_of_mem_written hl he).unbroken
  have hreturn : ∀ line ∈ l.writtenLines, Text.dropReturn line = line := by
    refine List.forall_mem_cons.mpr ⟨by decide, fun line hline => ?_⟩
    obtain ⟨e, he, rfl⟩ := List.mem_map.mp hline
    apply Text.dropReturn_of_last
    intro hlast
    have hblank := (tight_entryLine (legible_of_mem_written hl he)).last _ hlast
    exact absurd hblank (by decide)
  rw [toList_render, Text.lines_of_ended hunbroken]
  exact (List.map_congr_left hreturn).trans (List.map_id l.writtenLines)

/-- The lines say the entries, behind a first line that says nothing. -/
theorem reads_render : Reads (Text.numberedLines l.render) (none :: l.writtenEntries.map some) := by
  unfold Text.numberedLines
  rw [lines_render hl]
  refine reads_of_lines (.cons (fun _ => rfl) ?_) 0
  rw [List.forall₂_map_left_iff, List.forall₂_map_right_iff, List.forall₂_same]
  intro e he i
  have hcount := count_lt_of_mem (mem_writtenEntries_iff.mp he).1
  exact readLine_entryLine (legible_of_mem_written hl he) hcount i

/-- The text of a list whose keys are legible reads as what is written of the list, as long as the
number of streams is. -/
theorem parse_render :
    parse l.render = if 2 ≤ l.total then .ok l.written else .error .missingTotal := by
  have hread : (none :: l.writtenEntries.map some).filterMap id = l.writtenEntries := by
    rw [List.filterMap_cons_none rfl, List.filterMap_map]
    exact List.filterMap_some
  rw [parse_of_reads (reads_render hl), hread]
  simp only [totalKey_mem_written_iff]
  rfl

end Rendering

end FrequencyList

end NameFlow.Vocabulary
