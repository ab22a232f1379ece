import Mathlib.Data.List.Basic
import Mathlib.Data.List.TakeWhile
import NameFlow.Text.Line

/-!
# Lines, words and the white space around them

Lines that hold no newline and are each ended by one are the lines of their text, up to a carriage
return at their end. A text is not changed by trimming exactly if it neither starts nor ends with
white space, so a trimmed text stays as it is and texts can be put together from trimmed parts.
-/

namespace NameFlow

set_option autoImplicit false

namespace Text

theorem linesFrom_append {line : List Char} (h : '\n' ∉ line) (read rest : List Char) :
    linesFrom read (line ++ '\n' :: rest) = dropReturn (read.reverse ++ line) :: lines rest := by
  induction line generalizing read with
  | nil => simp [linesFrom, lines]
  | cons c line ih =>
    rw [List.mem_cons, not_or] at h
    have hc : c ≠ '\n' := fun heq => h.1 heq.symm
    rw [List.cons_append, linesFrom, if_neg hc, ih h.2, List.reverse_cons, List.append_assoc]
    rfl

/-- Lines without a newline, each ended by one, are the lines of the text. -/
theorem lines_of_ended {ls : List (List Char)} (h : ∀ l ∈ ls, '\n' ∉ l) :
    lines (ls.flatMap (· ++ ['\n'])) = ls.map dropReturn := by
  induction ls with
  | nil => rfl
  | cons l ls ih =>
    rw [List.forall_mem_cons] at h
    have hfirst := linesFrom_append h.1 [] (ls.flatMap (· ++ ['\n']))
    rw [ih h.2] at hfirst
    rw [List.flatMap_cons, List.append_assoc, List.map_cons]
    exact hfirst

theorem dropReturn_cons {c : Char} (h : c ≠ '\r') (cs : List Char) :
    dropReturn (c :: cs) = c :: dropReturn cs := by
  rw [dropReturn]
  rintro rfl
  exact fun _ => h rfl

theorem dropReturn_of_last {cs : List Char} (h : cs.getLast? ≠ some '\r') : dropReturn cs = cs := by
  induction cs with
  | nil => rfl
  | cons c cs ih =>
    cases cs with
    | nil =>
      have hc : c ≠ '\r' := fun heq => h (by rw [heq]; rfl)
      rw [dropReturn_cons hc]
      rfl
    | cons d cs =>
      rw [dropReturn, ih (by rwa [List.getLast?_cons_cons] at h)]
      rintro - ⟨⟩

theorem dropReturn_of_not_mem {cs : List Char} (h : '\r' ∉ cs) : dropReturn cs = cs :=
  dropReturn_of_last fun hlast => h (List.mem_of_getLast? hlast)

theorem mem_of_mem_dropReturn {cs : List Char} {c : Char} (h : c ∈ dropReturn cs) : c ∈ cs := by
  induction cs with
  | nil => exact h
  | cons d cs ih =>
    unfold dropReturn at h
    split at h
    · cases h
    · cases h
    · rename_i heq
      obtain ⟨rfl, rfl⟩ := List.cons.inj heq
      rcases List.mem_cons.mp h with rfl | h
      · exact List.mem_cons_self
      · exact List.mem_cons_of_mem d (ih h)

theorem not_mem_of_mem_linesFrom {read cs line : List Char} (hread : '\n' ∉ read)
    (h : line ∈ linesFrom read cs) : '\n' ∉ line := by
  induction cs generalizing read with
  | nil =>
    unfold linesFrom at h
    split at h
    · cases h
    · rw [List.mem_singleton.mp h, List.mem_reverse]
      exact hread
  | cons c cs ih =>
    rw [linesFrom] at h
    split at h
    · rcases List.mem_cons.mp h with rfl | h
      · exact fun hmem => hread (List.mem_reverse.mp (mem_of_mem_dropReturn hmem))
      · exact ih List.not_mem_nil h
    · rename_i hc
      refine ih (fun hmem => ?_) h
      rcases List.mem_cons.mp hmem with heq | hmem
      · exact hc heq.symm
      · exact hread hmem

/-- No line holds a newline. -/
theorem not_mem_of_mem_lines {cs line : List Char} (h : line ∈ lines cs) : '\n' ∉ line :=
  not_mem_of_mem_linesFrom List.not_mem_nil h

section Trimming

variable {cs : List Char}

/-- Neither starts nor ends with white space. -/
structure Tight (cs : List Char) : Prop where
  head : ∀ c ∈ cs.head?, isBlank c = false
  last : ∀ c ∈ cs.getLast?, isBlank c = false

theorem isBlank_of_visible {c : Char} (hlow : 0x21 ≤ c.toNat) (hhigh : c.toNat ≤ 0x7E) :
    isBlank c = false := by
  simp only [isBlank, Bool.or_eq_false_iff, Bool.and_eq_false_iff, decide_eq_false_iff_not]
  omega

theorem dropWhile_of_head (h : ∀ c ∈ cs.head?, isBlank c = false) :
    cs.dropWhile isBlank = cs := by
  cases cs with
  | nil => rfl
  | cons c cs => exact List.dropWhile_cons_of_neg (by simp [h c rfl])

theorem head_dropWhile (cs : List Char) :
    ∀ c ∈ (cs.dropWhile isBlank).head?, isBlank c = false := by
  intro c hc
  have hnot := List.head?_dropWhile_not isBlank cs
  rw [Option.mem_def.mp hc] at hnot
  simpa using hnot

theorem prefix_trim (cs : List Char) : trim cs <+: cs.dropWhile isBlank := by
  have hsuffix := List.dropWhile_suffix isBlank (l := (cs.dropWhile isBlank).reverse)
  have hreverse := List.reverse_prefix.mpr hsuffix
  rwa [List.reverse_reverse] at hreverse

theorem mem_of_mem_trim {c : Char} (h : c ∈ trim cs) : c ∈ cs :=
  (List.dropWhile_sublist isBlank).mem ((prefix_trim cs).mem h)

theorem trim_of_tight (h : Tight cs) : trim cs = cs := by
  have hreverse : ∀ c ∈ cs.reverse.head?, isBlank c = false := by
    rw [List.head?_reverse]
    exact h.last
  unfold trim
  rw [dropWhile_of_head h.head, dropWhile_of_head hreverse, List.reverse_reverse]

theorem tight_trim (cs : List Char) : Tight (trim cs) := by
  constructor
  · intro c hc
    obtain ⟨rest, hrest⟩ := prefix_trim cs
    apply head_dropWhile cs
    rw [← hrest, List.head?_append, Option.mem_def.mp hc]
    rfl
  · intro c hc
    apply head_dropWhile (cs.dropWhile isBlank).reverse
    rwa [trim, List.getLast?_reverse] at hc

theorem trim_eq_nil_iff : trim cs = [] ↔ ∀ c ∈ cs, isBlank c = true := by
  constructor
  · intro h
    have hblank : ∀ c ∈ cs.dropWhile isBlank, isBlank c = true := by
      unfold trim at h
      rw [List.reverse_eq_nil_iff, List.dropWhile_eq_nil_iff] at h
      exact fun c hc => h c (List.mem_reverse.mpr hc)
    have hnil : cs.dropWhile isBlank = [] := by
      have hhead := head_dropWhile cs
      cases hrest : cs.dropWhile isBlank with
      | nil => rfl
      | cons c rest =>
        rw [hrest] at hblank hhead
        have hc := hhead c rfl
        rw [hblank c List.mem_cons_self] at hc
        cases hc
    exact List.dropWhile_eq_nil_iff.mp hnil
  · intro h
    unfold trim
    rw [List.dropWhile_eq_nil_iff.mpr h]
    rfl

/-- What starts with a character that is not blank still does when it is trimmed. -/
theorem exists_trim_cons {c : Char} (hc : isBlank c = false) (cs : List Char) :
    ∃ rest, trim (c :: cs) = c :: rest := by
  have hstart := prefix_trim (c :: cs)
  rw [List.dropWhile_cons_of_neg (by simp [hc])] at hstart
  rcases List.prefix_cons_iff.mp hstart with hnil | ⟨rest, hrest, -⟩
  · have hblank := trim_eq_nil_iff.mp hnil c List.mem_cons_self
    rw [hc] at hblank
    cases hblank
  · exact ⟨rest, hrest⟩

theorem Tight.of_solid (h : ∀ c ∈ cs, isBlank c = false) : Tight cs :=
  ⟨fun c hc => h c (List.mem_of_mem_head? hc), fun c hc => h c (List.mem_of_getLast? hc)⟩

theorem trim_of_solid (h : ∀ c ∈ cs, isBlank c = false) : trim cs = cs :=
  trim_of_tight (.of_solid h)

/-- Parts that are tight give a tight text, whatever stands between them. -/
theorem Tight.append {before after : List Char} (h : Tight before) (hne : before ≠ [])
    (h' : Tight after) (hne' : after ≠ []) (between : List Char) :
    Tight (before ++ between ++ after) := by
  constructor
  · intro c hc
    rw [List.append_assoc, List.head?_append_of_ne_nil _ hne] at hc
    exact h.head c hc
  · intro c hc
    rw [List.getLast?_append_of_ne_nil _ hne'] at hc
    exact h'.last c hc

theorem not_mem_content {line : List Char} : '#' ∉ content line := by
  intro h
  have hnot := List.mem_takeWhile_imp (mem_of_mem_trim h)
  simp at hnot

theorem mem_of_mem_content {line : List Char} {c : Char} (h : c ∈ content line) : c ∈ line :=
  (List.takeWhile_sublist _).mem (mem_of_mem_trim h)

/-- A tight line without a comment says all of itself. -/
theorem content_of_tight {line : List Char} (h : Tight line) (hcomment : '#' ∉ line) :
    content line = line := by
  have hall : line.takeWhile (· ≠ '#') = line := by
    rw [List.takeWhile_eq_self_iff]
    intro c hc
    have hne : c ≠ '#' := fun heq => hcomment (heq ▸ hc)
    simpa using hne
  unfold content
  rw [hall, trim_of_tight h]

end Trimming

/-- What the lines of a text say. -/
def contents (text : String) : List (List Char) := (lines text.toList).map content

/-- The lines of a text are numbered from one. -/
theorem getElem?_numberedLines (text : String) (i : Nat) :
    (numberedLines text)[i]? = (lines text.toList)[i]?.map fun line => (i + 1, line) := by
  unfold numberedLines
  rw [List.getElem?_map, List.getElem?_zipIdx, Option.map_map, Nat.zero_add]
  rfl

theorem number_of_getElem? {text : String} {i : Nat} {line : Nat × List Char}
    (h : (numberedLines text)[i]? = some line) : line.1 = i + 1 := by
  rw [getElem?_numberedLines, Option.map_eq_some_iff] at h
  obtain ⟨_, -, rfl⟩ := h
  rfl

theorem map_content_numberedLines (text : String) :
    (numberedLines text).map (fun line => content line.2) = contents text := by
  apply List.ext_getElem?
  intro i
  rw [List.getElem?_map, getElem?_numberedLines, Option.map_map, contents, List.getElem?_map]
  rfl

theorem wordsFrom_of_solid {cs : List Char} (h : ∀ c ∈ cs, isBlank c = false) (read : List Char) :
    wordsFrom read cs = if (read.reverse ++ cs).isEmpty then [] else [read.reverse ++ cs] := by
  induction cs generalizing read with
  | nil => cases read <;> simp [wordsFrom]
  | cons c cs ih =>
    rw [List.forall_mem_cons] at h
    rw [wordsFrom, h.1, if_neg Bool.false_ne_true, ih h.2, List.reverse_cons, List.append_assoc]
    rfl

end Text

end NameFlow
