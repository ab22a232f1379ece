import Mathlib.Data.List.Induction
import NameFlow.Proofs.FirstFault
import NameFlow.Proofs.Text.Line
import NameFlow.Vocabulary.KeyFile

/-!
# Lines of a key file

A line closes the open entry, opens one, or lists the spellings of a term. Only two kinds of lines
are refused: one that opens an entry without a name, and a term where no entry is open. Whether one
is open can be told from the lines before it: one of them is a header, and all lines behind that say
something. So a text is refused exactly if it has such a line, and for the first one that it has.
-/

namespace NameFlow.Vocabulary.KeyFile

set_option autoImplicit false

/-- What a line of a key file does. -/
inductive Line
  | blank
  | nameless
  | header (name : String)
  | term (content : List Char)

/-- What a line does that says this. -/
def Line.of (content : List Char) : Line :=
  if content.isEmpty then .blank
  else if content.head? = some '+' then
    if (Text.trim content.tail).isEmpty then .nameless
    else .header (String.ofList (Text.trim content.tail))
  else .term content

theorem of_nameless {rest : List Char} (h : Text.trim rest = []) :
    Line.of ('+' :: rest) = .nameless := by
  simp [Line.of, h]

theorem of_header {rest : List Char} (h : Text.trim rest ≠ []) :
    Line.of ('+' :: rest) = .header (String.ofList (Text.trim rest)) := by
  simp [Line.of, h]

theorem of_term {content : List Char} (hne : content ≠ []) (hplus : content.head? ≠ some '+') :
    Line.of content = .term content := by
  simp [Line.of, hne, hplus]

/-- What the lines of a text do. -/
def linesOf (text : String) : List Line := (Text.contents text).map Line.of

/-- What numbered lines do. -/
def kinds (ls : List (Nat × List Char)) : List Line :=
  ls.map fun line => .of (Text.content line.2)

theorem kinds_numberedLines (text : String) : kinds (Text.numberedLines text) = linesOf text := by
  rw [linesOf, ← Text.map_content_numberedLines, List.map_map]
  rfl

/-- The spellings of the term that a line lists. -/
def spellings (content : List Char) : List String := (Text.words content).map String.ofList

section Step

variable {s : State} {n : Nat}

/-- What reading a line gives: only a term depends on what was read before. -/
inductive Reads (s : State) (n : Nat) : Line → Except Error State → Prop
  | blank : Reads s n .blank (.ok { s with current := none })
  | nameless : Reads s n .nameless (.error (.keyFile n .noName))
  | header (name : String) :
    Reads s n (.header name) (.ok ⟨s.entries.insert name [], some name⟩)
  | stray (content : List Char) (h : s.current = none) :
    Reads s n (.term content) (.error (.keyFile n (.outsideEntry (String.ofList content))))
  | term (content : List Char) {name : String} (h : s.current = some name) :
    Reads s n (.term content)
      (.ok { s with
        entries := s.entries.update name fun terms => terms.getD [] ++ [spellings content] })

theorem reads_readLine (s : State) (n : Nat) (line : List Char) :
    Reads s n (.of (Text.content line)) (readLine s (n, line)) := by
  unfold readLine
  dsimp only
  split
  · rename_i hnil
    rw [hnil]
    exact .blank
  · rename_i rest hplus
    rw [hplus]
    split
    · rename_i hname
      rw [of_nameless hname]
      exact .nameless
    · rename_i hname
      rw [of_header hname]
      exact .header _
  · rename_i hnil hplus
    have hhead : (Text.content line).head? ≠ some '+' := by
      intro hhead
      obtain ⟨rest, hrest⟩ := List.head?_eq_some_iff.mp hhead
      exact hplus rest hrest
    rw [of_term hnil hhead]
    split
    · rename_i hcurrent
      exact .stray _ hcurrent
    · rename_i hcurrent
      exact .term _ hcurrent

end Step

section Refusal

/-- Lines that leave an entry open: one of them is a header, and all lines behind it say
something. -/
def LeavesOpen (before : List Line) : Prop :=
  ∃ earlier name between, before = earlier ++ .header name :: between ∧ .blank ∉ between

theorem leavesOpen_concat {before : List Line} {line : Line} :
    LeavesOpen (before ++ [line]) ↔
      (∃ name, line = .header name) ∨ line ≠ .blank ∧ LeavesOpen before := by
  constructor
  · rintro ⟨earlier, name, between, heq, hblank⟩
    rcases List.eq_nil_or_concat between with rfl | ⟨between, last, rfl⟩
    · obtain ⟨-, hline⟩ := List.append_inj' heq rfl
      exact .inl ⟨name, List.singleton_inj.mp hline⟩
    · rw [List.concat_eq_append] at heq hblank
      rw [← List.cons_append, ← List.append_assoc] at heq
      obtain ⟨rfl, hline⟩ := List.append_inj' heq rfl
      obtain rfl := List.singleton_inj.mp hline
      rw [List.mem_append, not_or, List.mem_singleton] at hblank
      exact .inr ⟨fun hlast => hblank.2 hlast.symm, earlier, name, between, rfl, hblank.1⟩
  · rintro (⟨name, rfl⟩ | ⟨hline, earlier, name, between, rfl, hblank⟩)
    · exact ⟨before, name, [], rfl, List.not_mem_nil⟩
    · refine ⟨earlier, name, between ++ [line], by rw [List.append_assoc, List.cons_append], ?_⟩
      rw [List.mem_append, not_or, List.mem_singleton]
      exact ⟨hblank, fun hlast => hline hlast.symm⟩

theorem not_leavesOpen_nil : ¬ LeavesOpen [] := by
  rintro ⟨earlier, name, between, heq, -⟩
  exact absurd heq.symm (List.append_ne_nil_of_right_ne_nil earlier (List.cons_ne_nil _ between))

/-- An entry is open while lines are read exactly if the lines before leave one open. -/
theorem current_isSome_iff {ls : List (Nat × List Char)} {s : State}
    (h : ls.foldlM readLine ⟨∅, none⟩ = .ok s) :
    s.current.isSome = true ↔ LeavesOpen (kinds ls) := by
  induction ls using List.reverseRecOn generalizing s with
  | nil =>
    cases h
    exact iff_of_false Bool.false_ne_true not_leavesOpen_nil
  | append_singleton ls line ih =>
    obtain ⟨s₁, hrun, hstep⟩ := foldlM_concat_ok_iff.mp h
    have hread := reads_readLine s₁ line.1 line.2
    rw [hstep] at hread
    rw [kinds, List.map_append, List.map_singleton, leavesOpen_concat, ← kinds, ← ih hrun]
    generalize Line.of (Text.content line.2) = kind at hread
    cases hread with
    | blank => simp
    | header name => simp
    | term content hcurrent => simp [hcurrent]

/-- A line that is refused behind others, with its fault and what is said about it. -/
inductive Refused (before : List Line) : Line → KeyFault → String → Prop
  | nameless : Refused before .nameless .noName "entry without a name"
  | stray {content : List Char} (h : ¬ LeavesOpen before) :
    Refused before (.term content) (.outsideEntry (String.ofList content))
      ("`" ++ String.ofList content ++ "` outside an entry")

/-- The line at a place is refused. -/
def FaultAt (lines : List Line) (i : Nat) (fault : KeyFault) (message : String) : Prop :=
  ∃ line, lines[i]? = some line ∧ Refused (lines.take i) line fault message

theorem readLine_error_iff {before : List Line} {s : State}
    (hs : s.current.isSome = true ↔ LeavesOpen before) {n : Nat} {line : List Char} {e : Error} :
    readLine s (n, line) = .error e ↔
      ∃ fault message, Refused before (.of (Text.content line)) fault message ∧
        e = .keyFile n fault ∧
        e.message = "key file line " ++ toString n ++ ": " ++ message := by
  have hread := reads_readLine s n line
  generalize Line.of (Text.content line) = kind at hread
  constructor
  · intro h
    rw [h] at hread
    cases hread with
    | nameless => exact ⟨_, _, .nameless, rfl, rfl⟩
    | stray content hcurrent =>
      refine ⟨_, _, .stray fun hopen => ?_, rfl, rfl⟩
      rw [← hs, hcurrent] at hopen
      cases hopen
  · rintro ⟨fault, message, hrefused, rfl, -⟩
    generalize readLine s (n, line) = result at hread
    cases hrefused with
    | nameless =>
      cases hread
      rfl
    | stray hclosed =>
      cases hread with
      | stray => rfl
      | term _ hcurrent =>
        rw [← hs, hcurrent] at hclosed
        exact absurd rfl hclosed

/-- The error of a refused line, with the number that it has when lines are counted from one. -/
def Fails (lines : List Line) (i : Nat) (e : Error) : Prop :=
  ∃ fault message, FaultAt lines i fault message ∧ e = .keyFile (i + 1) fault ∧
    e.message = "key file line " ++ toString (i + 1) ++ ": " ++ message

theorem Refused.text {before : List Line} {line : Line} {fault : KeyFault} {message : String}
    (h : Refused before line fault message) : fault.message = message := by
  cases h with
  | nameless => rfl
  | stray _ => rfl

theorem exists_fails_iff {lines : List Line} {i : Nat} :
    (∃ e, Fails lines i e) ↔ ∃ fault message, FaultAt lines i fault message := by
  constructor
  · rintro ⟨e, fault, message, hfault, -⟩
    exact ⟨fault, message, hfault⟩
  · rintro ⟨fault, message, hfault⟩
    obtain ⟨line, -, hrefused⟩ := id hfault
    obtain rfl := hrefused.text
    exact ⟨.keyFile (i + 1) fault, fault, fault.message, hfault, rfl, rfl⟩

/-- Reading fails at a line that is reached exactly if the line is refused. -/
theorem fails_iff {text : String} {i : Nat} {s : State}
    (h : ((Text.numberedLines text).take i).foldlM readLine ⟨∅, none⟩ = .ok s) (e : Error) :
    Fails (linesOf text) i e ↔
      ∃ line, (Text.numberedLines text)[i]? = some line ∧ readLine s line = .error e := by
  have hopen := current_isSome_iff h
  rw [kinds, List.map_take, ← kinds, kinds_numberedLines] at hopen
  constructor
  · rintro ⟨fault, message, ⟨line, hline, hrefused⟩, he⟩
    rw [← kinds_numberedLines, kinds, List.getElem?_map, Text.getElem?_numberedLines,
      Option.map_map, Option.map_eq_some_iff] at hline
    obtain ⟨line, hline, rfl⟩ := hline
    refine ⟨(i + 1, line), ?_, (readLine_error_iff hopen).mpr ⟨fault, message, hrefused, he⟩⟩
    rw [Text.getElem?_numberedLines, hline]
    rfl
  · rintro ⟨line, hline, hfail⟩
    rw [Text.getElem?_numberedLines, Option.map_eq_some_iff] at hline
    obtain ⟨line, hline, rfl⟩ := hline
    obtain ⟨fault, message, hrefused, he⟩ := (readLine_error_iff hopen).mp hfail
    refine ⟨fault, message, ⟨_, ?_, hrefused⟩, he⟩
    rw [← kinds_numberedLines, kinds, List.getElem?_map, Text.getElem?_numberedLines, hline]
    rfl

theorem parse_of_error {text : String} {e : Error}
    (h : (Text.numberedLines text).foldlM readLine ⟨∅, none⟩ = .error e) :
    parse text = .error e := by
  unfold parse
  rw [h]
  rfl

theorem parse_of_ok {text : String} {s : State}
    (h : (Text.numberedLines text).foldlM readLine ⟨∅, none⟩ = .ok s) :
    parse text = .ok ⟨s.entries⟩ := by
  unfold parse
  rw [h]
  rfl

theorem exists_run_of_parse {text : String} {keys : KeyFile} (h : parse text = .ok keys) :
    ∃ s, (Text.numberedLines text).foldlM readLine ⟨∅, none⟩ = .ok s ∧ keys.entries = s.entries := by
  cases hrun : (Text.numberedLines text).foldlM readLine ⟨∅, none⟩ with
  | error e =>
    rw [parse_of_error hrun] at h
    cases h
  | ok s =>
    rw [parse_of_ok hrun] at h
    cases h
    exact ⟨s, rfl, rfl⟩

theorem parse_error_iff {text : String} {e : Error} :
    parse text = .error e ↔
      ∃ i, Fails (linesOf text) i e ∧ ∀ j < i, ∀ e', ¬ Fails (linesOf text) j e' := by
  rw [← foldlM_error_iff_first fun i s₁ => fails_iff]
  constructor
  · intro h
    cases hrun : (Text.numberedLines text).foldlM readLine ⟨∅, none⟩ with
    | error e' =>
      rw [parse_of_error hrun] at h
      cases h
      rfl
    | ok s =>
      rw [parse_of_ok hrun] at h
      cases h
  · exact parse_of_error

/-- No line of a text that is accepted is refused. -/
theorem not_fails_of_parse {text : String} {keys : KeyFile} (h : parse text = .ok keys) (i : Nat)
    (e : Error) : ¬ Fails (linesOf text) i e := by
  obtain ⟨s, hrun, -⟩ := exists_run_of_parse h
  rintro hfails
  have hall : ((Text.numberedLines text).take (Text.numberedLines text).length).foldlM readLine
      ⟨∅, none⟩ = .ok s := by rwa [List.take_length]
  have hnone := (exists_foldlM_ok_iff (fun i s₁ => fails_iff) _).mp ⟨s, hall⟩
  obtain ⟨fault, message, ⟨line, hline, -⟩, -⟩ := id hfails
  have hi := (List.getElem?_eq_some_iff.mp hline).1
  rw [← kinds_numberedLines, kinds, List.length_map] at hi
  exact hnone i hi e hfails

end Refusal

/-- A text is refused exactly if a line of it is: one that opens an entry without a name, or a term
outside an entry. The error is that of the first such line. -/
theorem parse_refuses_first_fault (text : String) :
    ((∃ e, parse text = .error e) ↔ ∃ i fault message, FaultAt (linesOf text) i fault message) ∧
    ∀ e, parse text = .error e ↔
      ∃ i fault message, FaultAt (linesOf text) i fault message ∧
        (∀ j < i, ∀ fault' message', ¬ FaultAt (linesOf text) j fault' message') ∧
        e = .keyFile (i + 1) fault ∧
        e.message = "key file line " ++ toString (i + 1) ++ ": " ++ message := by
  constructor
  · constructor
    · rintro ⟨e, he⟩
      obtain ⟨i, hfails, -⟩ := parse_error_iff.mp he
      exact ⟨i, exists_fails_iff.mp ⟨e, hfails⟩⟩
    · rintro ⟨i, hfault⟩
      obtain ⟨e, hfails⟩ := exists_fails_iff.mpr hfault
      cases hparse : parse text with
      | error e' => exact ⟨e', rfl⟩
      | ok keys => exact absurd hfails (not_fails_of_parse hparse i e)
  · intro e
    rw [parse_error_iff]
    constructor
    · rintro ⟨i, ⟨fault, message, hfault, he⟩, hfirst⟩
      refine ⟨i, fault, message, hfault, fun j hj fault' message' hfault' => ?_, he⟩
      obtain ⟨e', hfails⟩ := exists_fails_iff.mpr ⟨fault', message', hfault'⟩
      exact hfirst j hj e' hfails
    · rintro ⟨i, fault, message, hfault, hfirst, he⟩
      refine ⟨i, ⟨fault, message, hfault, he⟩, fun j hj e' hfails => ?_⟩
      obtain ⟨fault', message', hfault'⟩ := exists_fails_iff.mp ⟨e', hfails⟩
      exact hfirst j hj fault' message' hfault'

end NameFlow.Vocabulary.KeyFile
