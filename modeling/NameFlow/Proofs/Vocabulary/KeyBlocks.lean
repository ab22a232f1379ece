import Mathlib.Algebra.BigOperators.Group.List.Basic
import Mathlib.Algebra.GroupWithZero.Nat
import NameFlow.Proofs.OrderedMap
import NameFlow.Proofs.Vocabulary.KeyLines

/-!
# Blocks of a key file

A header and the terms behind it are a block. Reading a text that is accepted writes its blocks one
by one, each over what its name holds already, so that of several blocks of one name only the last
is kept. Every term of the text stands in a block. Hence no term is lost exactly if all blocks whose
name is opened again are empty.
-/

namespace NameFlow.Vocabulary.KeyFile

set_option autoImplicit false

universe u v

/-- The terms of lines up to the first one that lists none. -/
def leadingTerms : List Line → List (List String)
  | .term content :: rest => spellings content :: leadingTerms rest
  | _ => []

/-- Every header with the terms behind it. -/
def blocks : List Line → List (String × List (List String))
  | [] => []
  | .header name :: rest => (name, leadingTerms rest) :: blocks rest
  | _ :: rest => blocks rest

def Line.isTerm : Line → Bool
  | .term _ => true
  | _ => false

section Lines

variable (rest : List Line) (name : String) (content : List Char)

@[simp] theorem leadingTerms_nil : leadingTerms [] = [] := rfl

@[simp] theorem leadingTerms_blank : leadingTerms (.blank :: rest) = [] := rfl

@[simp] theorem leadingTerms_header : leadingTerms (.header name :: rest) = [] := rfl

@[simp] theorem leadingTerms_term :
    leadingTerms (.term content :: rest) = spellings content :: leadingTerms rest := rfl

@[simp] theorem blocks_nil : blocks [] = [] := rfl

@[simp] theorem blocks_blank : blocks (.blank :: rest) = blocks rest := rfl

@[simp] theorem blocks_header :
    blocks (.header name :: rest) = (name, leadingTerms rest) :: blocks rest := rfl

@[simp] theorem blocks_term : blocks (.term content :: rest) = blocks rest := rfl

end Lines

section Reading

variable {ls : List (Nat × List Char)} {s s' : State}

theorem exists_reads_of_run {line : Nat × List Char} (h : (line :: ls).foldlM readLine s = .ok s') :
    ∃ s₁, Reads s line.1 (.of (Text.content line.2)) (.ok s₁) ∧ ls.foldlM readLine s₁ = .ok s' := by
  rw [List.foldlM_cons] at h
  cases hstep : readLine s line with
  | error e =>
    rw [hstep] at h
    cases h
  | ok s₁ =>
    rw [hstep] at h
    refine ⟨s₁, ?_, h⟩
    rw [← hstep]
    exact reads_readLine s line.1 line.2

theorem kinds_cons (line : Nat × List Char) (ls : List (Nat × List Char)) :
    kinds (line :: ls) = .of (Text.content line.2) :: kinds ls := rfl

/-- Lines that are accepted write their blocks. Those that go on with an open entry add to what it
holds. -/
theorem entries_of_run (h : ls.foldlM readLine s = .ok s') :
    (s.current = none → s'.entries = s.entries.insertAll (blocks (kinds ls))) ∧
    ∀ name (m : OrderedMap String (List (List String))) terms,
      s.current = some name → s.entries = m.insert name terms →
      s'.entries =
        (m.insert name (terms ++ leadingTerms (kinds ls))).insertAll (blocks (kinds ls)) := by
  -- The open entry is followed as the last one written to a map `m`: a term that is added to it
  -- changes what was written and leaves `m` as it is.
  induction ls generalizing s with
  | nil =>
    cases h
    refine ⟨fun _ => rfl, fun name m terms _ hentries => ?_⟩
    rw [hentries, kinds, List.map_nil, leadingTerms_nil, List.append_nil]
    rfl
  | cons line ls ih =>
    obtain ⟨s₁, hread, hrun⟩ := exists_reads_of_run h
    obtain ⟨hclosed, hopen⟩ := ih hrun
    rw [kinds_cons]
    generalize Line.of (Text.content line.2) = kind at hread
    cases hread with
    | blank =>
      refine ⟨fun _ => hclosed rfl, fun name m terms _ hentries => ?_⟩
      rw [leadingTerms_blank, List.append_nil, ← hentries]
      exact hclosed rfl
    | header name' =>
      have hrest := hopen name' s.entries [] rfl rfl
      refine ⟨fun _ => hrest, fun name m terms _ hentries => ?_⟩
      rw [leadingTerms_header, List.append_nil, ← hentries]
      exact hrest
    | term content hcurrent =>
      refine ⟨fun hnone => ?_, fun name m terms hname hentries => ?_⟩
      · rw [hnone] at hcurrent
        cases hcurrent
      · rw [hname, Option.some.injEq] at hcurrent
        subst hcurrent
        have hadded : s.entries.update name (fun terms => terms.getD [] ++ [spellings content]) =
            m.insert name (terms ++ [spellings content]) := by
          rw [hentries, OrderedMap.update_insert]
          rfl
        have hrest := hopen name m (terms ++ [spellings content]) hname hadded
        rw [hrest, leadingTerms_term, List.append_assoc]
        rfl

/-- Every term of lines that are accepted stands in a block, or behind the header of the open
entry. -/
theorem countP_isTerm_of_run (h : ls.foldlM readLine s = .ok s') :
    (kinds ls).countP Line.isTerm =
      (if s.current.isSome then (leadingTerms (kinds ls)).length else 0) +
        ((blocks (kinds ls)).map (·.2.length)).sum := by
  induction ls generalizing s with
  | nil => simp [kinds]
  | cons line ls ih =>
    obtain ⟨s₁, hread, hrun⟩ := exists_reads_of_run h
    have hrest := ih hrun
    rw [kinds_cons]
    generalize Line.of (Text.content line.2) = kind at hread
    cases hread with
    | blank => simpa [Line.isTerm] using hrest
    | header name' => simpa [Line.isTerm] using hrest
    | term content hcurrent =>
      simp only [hcurrent, Option.isSome_some, if_true] at hrest ⊢
      rw [List.countP_cons_of_pos rfl, hrest, leadingTerms_term, blocks_term, List.length_cons]
      omega

end Reading

section Text

variable {text : String} {keys : KeyFile}

/-- A text that is accepted gives its blocks, one written over another. -/
theorem entries_of_parse (h : parse text = .ok keys) :
    keys.entries = .ofEntries (blocks (linesOf text)) := by
  obtain ⟨s, hrun, hentries⟩ := exists_run_of_parse h
  rw [hentries, (entries_of_run hrun).1 rfl, kinds_numberedLines]
  rfl

/-- The terms of a text that is accepted are those of its blocks. -/
theorem countP_isTerm_of_parse (h : parse text = .ok keys) :
    (linesOf text).countP Line.isTerm = ((blocks (linesOf text)).map (·.2.length)).sum := by
  obtain ⟨s, hrun, -⟩ := exists_run_of_parse h
  have hcount := countP_isTerm_of_run hrun
  rw [kinds_numberedLines] at hcount
  simpa using hcount

end Text

section Overwriting

variable {κ : Type u} {β : Type v} {es : List (κ × List β)}

/-- Where a key is written again there was nothing. -/
def NothingOverwritten (es : List (κ × List β)) : Prop :=
  es.Pairwise fun e e' => e.1 = e'.1 → e.2 = []

theorem nothingOverwritten_concat {e : κ × List β} :
    NothingOverwritten (es ++ [e]) ↔
      NothingOverwritten es ∧ ∀ e' ∈ es, e'.1 = e.1 → e'.2 = [] := by
  unfold NothingOverwritten
  rw [List.pairwise_append]
  simp

variable [DecidableEq κ]

/-- What is written to a key, all together. -/
def writtenTo (es : List (κ × List β)) (k : κ) : List β := (es.filter (·.1 = k)).flatMap Prod.snd

theorem writtenTo_eq_nil_iff {k : κ} : writtenTo es k = [] ↔ ∀ e ∈ es, e.1 = k → e.2 = [] := by
  unfold writtenTo
  rw [List.flatMap_eq_nil_iff]
  simp only [List.mem_filter, decide_eq_true_iff, and_imp]

theorem writtenTo_concat (e : κ × List β) (k : κ) :
    writtenTo (es ++ [e]) k = writtenTo es k ++ if e.1 = k then e.2 else [] := by
  unfold writtenTo
  rw [List.filter_append, List.flatMap_append]
  by_cases hk : e.1 = k <;> simp [hk]

/-- What a key holds, nothing if it is not there. -/
def heldBy (m : OrderedMap κ (List β)) (k : κ) : List β := (m.get? k).getD []

theorem heldBy_ofEntries_concat (e : κ × List β) (k : κ) :
    heldBy (.ofEntries (es ++ [e])) k = if e.1 = k then e.2 else heldBy (.ofEntries es) k := by
  unfold heldBy
  rw [OrderedMap.ofEntries_concat, OrderedMap.insert, OrderedMap.get?_update]
  by_cases hk : e.1 = k <;> simp [hk]

/-- A key holds the end of what was written to it. -/
theorem heldBy_suffix (k : κ) : heldBy (.ofEntries es) k <:+ writtenTo es k := by
  induction es using List.reverseRecOn with
  | nil => exact List.suffix_rfl
  | append_singleton es e ih =>
    rw [heldBy_ofEntries_concat, writtenTo_concat]
    by_cases hk : e.1 = k
    · rw [if_pos hk, if_pos hk]
      exact List.suffix_append _ _
    · rw [if_neg hk, if_neg hk, List.append_nil]
      exact ih

/-- The keys hold all that was written to them exactly if nothing was overwritten. -/
theorem heldBy_eq_writtenTo_iff :
    (∀ k, heldBy (.ofEntries es) k = writtenTo es k) ↔ NothingOverwritten es := by
  induction es using List.reverseRecOn with
  | nil => exact iff_of_true (fun _ => rfl) .nil
  | append_singleton es e ih =>
    rw [nothingOverwritten_concat, ← ih, ← writtenTo_eq_nil_iff]
    constructor
    · intro h
      have hlast : writtenTo es e.1 = [] := by
        have hk := h e.1
        rw [heldBy_ofEntries_concat, writtenTo_concat, if_pos rfl, if_pos rfl] at hk
        exact List.self_eq_append_left.mp hk
      refine ⟨fun k => ?_, hlast⟩
      have hk := h k
      rw [heldBy_ofEntries_concat, writtenTo_concat] at hk
      by_cases heq : e.1 = k
      · -- The new entry hides what its key held before, but that is an end of nothing.
        subst heq
        have hsuffix : heldBy (.ofEntries es) e.1 <:+ writtenTo es e.1 := heldBy_suffix e.1
        rw [hlast, List.suffix_nil] at hsuffix
        rw [hsuffix, hlast]
      · rwa [if_neg heq, if_neg heq, List.append_nil] at hk
    · rintro ⟨hheld, hlast⟩ k
      rw [heldBy_ofEntries_concat, writtenTo_concat]
      by_cases heq : e.1 = k
      · rw [if_pos heq, if_pos heq, ← heq, hlast, List.nil_append]
      · rw [if_neg heq, if_neg heq, List.append_nil, hheld k]

theorem get?_eq_writtenTo_iff :
    (∀ k ∈ (OrderedMap.ofEntries es).keys,
      (OrderedMap.ofEntries es).get? k = some (writtenTo es k)) ↔ NothingOverwritten es := by
  rw [← heldBy_eq_writtenTo_iff]
  constructor
  · intro h k
    unfold heldBy
    by_cases hk : k ∈ (OrderedMap.ofEntries es).keys
    · rw [h k hk, Option.getD_some]
    · have hheld := Option.not_isSome_iff_eq_none.mp (mt OrderedMap.contains_iff.mp hk)
      rw [OrderedMap.keys_ofEntries, List.mem_eraseDups] at hk
      rw [hheld, Option.getD_none, eq_comm, writtenTo_eq_nil_iff]
      intro e he heq
      exact absurd (heq ▸ List.mem_map_of_mem he) hk
  · intro h k hk
    obtain ⟨a, ha⟩ := Option.isSome_iff_exists.mp (OrderedMap.contains_iff.mpr hk)
    rw [← h k, heldBy, ha, Option.getD_some]

/-- How much the keys hold together. -/
def size (m : OrderedMap κ (List β)) : Nat := (m.values.map List.length).sum

theorem sum_put (k : κ) (a : List β) (l : List (κ × List β)) :
    ((OrderedMap.put k (fun _ => a) l).map (·.2.length)).sum +
      ((OrderedMap.find k l).getD []).length = (l.map (·.2.length)).sum + a.length := by
  induction l with
  | nil => simp [OrderedMap.put, OrderedMap.find]
  | cons e l ih =>
    by_cases hk : e.1 = k
    · simp only [OrderedMap.put, OrderedMap.find, if_pos hk, List.map_cons, List.sum_cons,
        Option.getD_some]
      omega
    · simp only [OrderedMap.put, OrderedMap.find, if_neg hk, List.map_cons, List.sum_cons]
      omega

/-- What is written comes in place of what the key held. -/
theorem size_insert (m : OrderedMap κ (List β)) (k : κ) (a : List β) :
    size (m.insert k a) + (heldBy m k).length = size m + a.length := by
  unfold size OrderedMap.values
  rw [List.map_map, List.map_map]
  exact sum_put k a m.toList

/-- The keys never hold more than was written, and as much exactly if nothing was overwritten. -/
theorem size_ofEntries (es : List (κ × List β)) :
    size (.ofEntries es) ≤ (es.map (·.2.length)).sum ∧
      (size (.ofEntries es) = (es.map (·.2.length)).sum ↔ NothingOverwritten es) := by
  induction es using List.reverseRecOn with
  | nil => exact ⟨Nat.le_refl 0, iff_of_true rfl .nil⟩
  | append_singleton es e ih =>
    obtain ⟨hle, hiff⟩ := ih
    have hsize := size_insert (.ofEntries es) e.1 e.2
    rw [← OrderedMap.ofEntries_concat] at hsize
    rw [List.map_append, List.sum_append, List.map_singleton, List.sum_singleton,
      nothingOverwritten_concat, ← writtenTo_eq_nil_iff, ← hiff]
    refine ⟨by omega, ?_⟩
    constructor
    · -- Neither the earlier entries nor the last one may lose anything, as neither can gain.
      intro h
      have hheld : (heldBy (.ofEntries es) e.1).length = 0 := by omega
      have hall : size (.ofEntries es) = (es.map (·.2.length)).sum := by omega
      refine ⟨hall, ?_⟩
      rw [← heldBy_eq_writtenTo_iff.mpr (hiff.mp hall)]
      exact List.eq_nil_of_length_eq_zero hheld
    · rintro ⟨hall, hlast⟩
      rw [← heldBy_eq_writtenTo_iff.mpr (hiff.mp hall)] at hlast
      rw [hlast, List.length_nil] at hsize
      omega

end Overwriting

/-- The entries of a text that is accepted are the names of its headers, in order of their first
block and with the terms of their last one. So all terms of every name are kept, and none is missing
from the number of terms, exactly if all blocks whose name is opened again are empty. -/
theorem terms_kept_iff (text : String) (keys : KeyFile) (h : parse text = .ok keys) :
    keys.entries.keys = ((blocks (linesOf text)).map Prod.fst).eraseDups ∧
    (∀ name terms, keys.entries.get? name = some terms ↔
      ∃ before after, blocks (linesOf text) = before ++ (name, terms) :: after ∧
        name ∉ after.map Prod.fst) ∧
    ((∀ name ∈ keys.entries.keys,
        keys.entries.get? name = some (writtenTo (blocks (linesOf text)) name)) ↔
      NothingOverwritten (blocks (linesOf text))) ∧
    ((keys.entries.values.map List.length).sum = (linesOf text).countP Line.isTerm ↔
      NothingOverwritten (blocks (linesOf text))) := by
  rw [entries_of_parse h, countP_isTerm_of_parse h]
  exact ⟨OrderedMap.keys_ofEntries _, fun name terms => OrderedMap.get?_ofEntries_iff,
    get?_eq_writtenTo_iff, (size_ofEntries _).2⟩

/-- A text that opens a name again after an empty block. -/
def emptyBlockText : String := "+ box # none yet\n\n+ hello\nperson  human\nname\n+ box\ncrate\n"

theorem empty_block_loses_nothing :
    ∃ keys, parse emptyBlockText = .ok keys ∧
      NothingOverwritten (blocks (linesOf emptyBlockText)) ∧
      keys.entries.keys = ["box", "hello"] ∧
      (keys.entries.values.map List.length).sum = 3 := by
  have hblocks : blocks (linesOf emptyBlockText) =
      [("box", []), ("hello", [["person", "human"], ["name"]]), ("box", [["crate"]])] := by
    decide +kernel
  have hnothing : NothingOverwritten (blocks (linesOf emptyBlockText)) := by
    rw [hblocks]
    unfold NothingOverwritten
    decide
  have hentries : (parse emptyBlockText).toOption.map (·.entries.keys) =
      some ["box", "hello"] := by decide +kernel
  obtain ⟨keys, hkeys, horder⟩ := exists_ok_of_toOption hentries
  obtain ⟨-, -, -, hcount⟩ := terms_kept_iff emptyBlockText keys hkeys
  refine ⟨keys, hkeys, hnothing, horder, ?_⟩
  rw [hcount.mpr hnothing]
  decide +kernel

/-- A text that opens a name again after a block with a term. -/
def reopenedText : String := "+ box\ncrate\n\n+ box\nchest\n"

theorem reopened_name_loses_terms :
    ∃ keys, parse reopenedText = .ok keys ∧
      keys.entries.toList = [("box", [["chest"]])] ∧
      ¬ (∀ name ∈ keys.entries.keys,
        keys.entries.get? name = some (writtenTo (blocks (linesOf reopenedText)) name)) ∧
      ¬ (keys.entries.values.map List.length).sum = (linesOf reopenedText).countP Line.isTerm := by
  have hentries : (parse reopenedText).toOption.map (·.entries.toList) =
      some [("box", [["chest"]])] := by decide +kernel
  have hlost : ¬ NothingOverwritten (blocks (linesOf reopenedText)) := by
    have hblocks : blocks (linesOf reopenedText) =
        [("box", [["crate"]]), ("box", [["chest"]])] := by decide +kernel
    rw [hblocks]
    unfold NothingOverwritten
    decide
  obtain ⟨keys, hkeys, hbox⟩ := exists_ok_of_toOption hentries
  refine ⟨keys, hkeys, hbox, ?_, ?_⟩
  · rw [entries_of_parse hkeys, get?_eq_writtenTo_iff]
    exact hlost
  · rw [entries_of_parse hkeys, countP_isTerm_of_parse hkeys]
    exact mt (size_ofEntries _).2.mp hlost

end NameFlow.Vocabulary.KeyFile
