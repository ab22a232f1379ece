import Mathlib.Data.List.Basic
import Mathlib.Data.List.Infix
import Mathlib.Data.List.Nodup
import NameFlow.Proofs.OrderedMap
import NameFlow.Proofs.Vocabulary.Words
import NameFlow.Vocabulary.PhraseSet

/-!
# Phrases and their keys

A candidate is a run of words of an identifier. No run is there twice, and since words hold no
stroke, the words of a phrase can be read off its key. So the phrases of a set have different keys,
which are made of letters, digits and strokes.
-/

namespace NameFlow.Vocabulary

set_option autoImplicit false

section Runs

variable {α : Type} {ws run : List α}

theorem mem_initialRuns : run ∈ initialRuns ws ↔ run ≠ [] ∧ run <+: ws := by
  induction ws generalizing run with
  | nil =>
    simp [initialRuns]
  | cons w ws ih =>
    rw [initialRuns, List.mem_cons, List.mem_map, List.prefix_cons_iff]
    constructor
    · rintro (rfl | ⟨rest, hrest, rfl⟩)
      · exact ⟨List.cons_ne_nil w [], Or.inr ⟨[], rfl, List.nil_prefix⟩⟩
      · exact ⟨List.cons_ne_nil w rest, Or.inr ⟨rest, rfl, (ih.mp hrest).2⟩⟩
    · rintro ⟨hne, rfl | ⟨rest, rfl, hrest⟩⟩
      · exact absurd rfl hne
      · rcases rest with _ | ⟨v, rest⟩
        · exact Or.inl rfl
        · exact Or.inr ⟨v :: rest, ih.mpr ⟨List.cons_ne_nil v rest, hrest⟩, rfl⟩

/-- The runs are the non-empty stretches of a list of words. -/
theorem mem_runs : run ∈ runs ws ↔ run ≠ [] ∧ run <:+: ws := by
  induction ws with
  | nil => simp [runs]
  | cons w ws ih =>
    rw [runs, List.mem_append, mem_initialRuns, ih, List.infix_cons_iff]
    constructor
    · rintro (⟨hne, h⟩ | ⟨hne, h⟩)
      · exact ⟨hne, Or.inl h⟩
      · exact ⟨hne, Or.inr h⟩
    · rintro ⟨hne, h | h⟩
      · exact Or.inl ⟨hne, h⟩
      · exact Or.inr ⟨hne, h⟩

end Runs

section Candidates

/-- The runs of words of identifiers, each with the identifier that holds it. -/
def heldRuns (is : List Identifier) : List (Identifier × List String) :=
  is.flatMap fun i => (runs (splitWords i.name)).map fun run => (i, run)

theorem map_heldRuns (is : List Identifier) :
    (heldRuns is).map Prod.snd = is.flatMap fun i => runs (splitWords i.name) := by
  rw [heldRuns, List.map_flatMap]
  simp only [List.map_map, Function.comp_def, List.map_id']

/-- The candidates are the runs, gathered by their words. -/
theorem candidates_eq (is : List Identifier) :
    candidates is =
      .accumulate Prod.snd (fun d e => ⟨d.identifiers ++ [e.1], d.counts.add e.1.counts⟩)
        ⟨[], .zero⟩ (heldRuns is) := by
  have hadd : ∀ i : Identifier, Candidate.add i = fun d =>
      ⟨(d.getD ⟨[], .zero⟩).identifiers ++ [i], (d.getD ⟨[], .zero⟩).counts.add i.counts⟩ := by
    intro i
    funext d
    cases d <;> rfl
  rw [candidates, OrderedMap.accumulate, heldRuns, List.foldl_flatMap]
  simp only [List.foldl_map, hadd]

theorem mem_keys_candidates {is : List Identifier} {ws : List String} :
    ws ∈ (candidates is).keys ↔ ∃ i ∈ is, ws ∈ runs (splitWords i.name) := by
  rw [candidates_eq, OrderedMap.mem_keys_accumulate, map_heldRuns, List.mem_flatMap]

end Candidates

section Keys

/-- Words as a phrase has them. -/
structure Wordly (ws : List String) : Prop where
  ne_nil : ws ≠ []
  words : ∀ w ∈ ws, IsWord w.toList

/-- The keys of a set's phrases, in their order. -/
def PhraseSet.keys (s : PhraseSet) : List String := s.phrases.map Phrase.key

/-- The characters that keys are made of. -/
def IsKeyChar (c : Char) : Prop := c.isLower = true ∨ c.isDigit = true ∨ c = '/'

variable {ws ws' : List String}

theorem toList_key (p : Phrase) :
    p.key.toList = ['/'].intercalate (p.words.map String.toList) := String.toList_intercalate

theorem Wordly.splits (h : Wordly ws) :
    List.splitOn '/' (['/'].intercalate (ws.map String.toList)) = ws.map String.toList := by
  apply List.splitOn_intercalate
  · intro word hword hmem
    obtain ⟨w, hw, rfl⟩ := List.mem_map.mp hword
    rcases (h.words w hw).letter_or_digit hmem with hc | hc
    · exact absurd hc (by decide)
    · exact absurd hc (by decide)
  · exact fun hnil => h.ne_nil (List.map_eq_nil_iff.mp hnil)

/-- The words can be read off the key. -/
theorem words_eq_of_key_eq {p q : Phrase} (hp : Wordly p.words) (hq : Wordly q.words)
    (h : p.key = q.key) : p.words = q.words := by
  have hsplit := congrArg (fun key : String => List.splitOn '/' key.toList) h
  simp only [toList_key, hp.splits, hq.splits] at hsplit
  exact List.map_injective_iff.mpr (fun _ _ => String.toList_inj.mp) hsplit

theorem mem_of_mem_intercalate {x c : Char} {ls : List (List Char)}
    (h : c ∈ [x].intercalate ls) : c = x ∨ ∃ l ∈ ls, c ∈ l := by
  induction ls with
  | nil => simp at h
  | cons l ls ih =>
    rcases ls with _ | ⟨l', ls⟩
    · exact Or.inr ⟨l, List.mem_singleton_self l, by simpa using h⟩
    · rw [List.intercalate_cons_cons, List.mem_append, List.mem_append, List.mem_singleton] at h
      rcases h with (h | rfl) | h
      · exact Or.inr ⟨l, List.mem_cons_self, h⟩
      · exact Or.inl rfl
      · rcases ih h with rfl | ⟨k, hk, hc⟩
        · exact Or.inl rfl
        · exact Or.inr ⟨k, List.mem_cons_of_mem l hk, hc⟩

theorem isKeyChar_of_mem_key {p : Phrase} (hp : Wordly p.words) {c : Char}
    (hc : c ∈ p.key.toList) : IsKeyChar c := by
  rw [toList_key] at hc
  rcases mem_of_mem_intercalate hc with rfl | ⟨word, hword, hc⟩
  · exact Or.inr (Or.inr rfl)
  · obtain ⟨w, hw, rfl⟩ := List.mem_map.mp hword
    rcases (hp.words w hw).letter_or_digit hc with hc | hc
    · exact Or.inl hc
    · exact Or.inr (Or.inl hc)

theorem toList_key_ne_nil {p : Phrase} (hp : Wordly p.words) : p.key.toList ≠ [] := by
  intro hnil
  have hsplit := hp.splits
  rw [← toList_key, hnil] at hsplit
  obtain ⟨w, ws, hwords⟩ := List.exists_cons_of_ne_nil hp.ne_nil
  have hw := (hp.words w (hwords ▸ List.mem_cons_self)).ne_nil
  rw [hwords, List.map_cons] at hsplit
  exact hw (List.cons.inj hsplit).1.symm

end Keys

section Sets

variable {t : Tally} {p : Phrase}

theorem words_eq_of_phrase? {ws : List String} {c : Candidate}
    (h : PhraseSet.phrase? t ws c = some p) : p.words = ws := by
  unfold PhraseSet.phrase? at h
  split at h
  · rw [← Option.some.inj h]
  · cases h

/-- Survivors keep the order of the candidates. -/
theorem words_sublist (t : Tally) :
    ((PhraseSet.ofTally t).phrases.map (·.words)).Sublist (candidates t.identifierList).keys := by
  unfold PhraseSet.ofTally OrderedMap.keys
  induction (candidates t.identifierList).toList with
  | nil => exact .slnil
  | cons e es ih =>
    obtain ⟨ws, c⟩ := e
    cases hphrase : PhraseSet.phrase? t ws c with
    | none =>
      simp only [List.filterMap_cons, hphrase]
      exact ih.cons ws
    | some p =>
      simp only [List.filterMap_cons, hphrase, List.map_cons, words_eq_of_phrase? hphrase]
      exact ih.cons_cons ws

theorem wordly_of_mem_ofTally (h : p ∈ (PhraseSet.ofTally t).phrases) : Wordly p.words := by
  have hkey := (words_sublist t).mem (List.mem_map_of_mem h)
  obtain ⟨i, -, hrun⟩ := mem_keys_candidates.mp hkey
  obtain ⟨hne, hpart⟩ := mem_runs.mp hrun
  exact ⟨hne, fun w hw => isWord_of_mem_splitWords (hpart.mem hw)⟩

/-- What holds of the phrases of every stream: their words are words, and no key is there twice. -/
structure PhraseSet.WellKeyed (s : PhraseSet) : Prop where
  wordly : ∀ p ∈ s.phrases, Wordly p.words
  nodup : s.keys.Nodup

theorem wellKeyed_ofTally (t : Tally) : (PhraseSet.ofTally t).WellKeyed := by
  have hwords := (candidates t.identifierList).nodup.sublist (words_sublist t)
  refine ⟨fun p => wordly_of_mem_ofTally, List.Nodup.map_on ?_ hwords.of_map⟩
  intro p hp q hq hkey
  have heq := words_eq_of_key_eq (wordly_of_mem_ofTally hp) (wordly_of_mem_ofTally hq) hkey
  exact List.inj_on_of_nodup_map hwords hp hq heq

theorem wellKeyed_ofPairs (map : RoleMap) (tags : List (Char × String)) :
    (PhraseSet.ofPairs map tags).WellKeyed := wellKeyed_ofTally _

end Sets

end NameFlow.Vocabulary
