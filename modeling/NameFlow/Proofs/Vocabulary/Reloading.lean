import NameFlow.Proofs.Vocabulary.FrequencyText
import NameFlow.Vocabulary.Glossary

/-!
# Lists that are written and loaded again

The keys of a list of streams are phrases, or that of the number of streams, so they are legible
like those of a list that was read. Both kinds of lists come back from their text as far as they are
written. The number of streams is an entry like any other there: it is left out below two, and
then the text is no list.
-/

namespace NameFlow.Vocabulary

set_option autoImplicit false

theorem legible_of_solid {key : String} (hne : key.toList ≠ [])
    (h : ∀ c ∈ key.toList, 0x24 ≤ c.toNat ∧ c.toNat ≤ 0x7E) : Legible key := by
  refine ⟨hne, Text.Tight.of_solid fun c hc => ?_, fun hc => ?_, fun hc => ?_⟩
  · obtain ⟨hlow, hhigh⟩ := h c hc
    exact Text.isBlank_of_visible (by omega) hhigh
  · exact absurd (h '#' hc).1 (by decide)
  · exact absurd (h '\n' hc).1 (by decide)

theorem legible_totalKey : Legible totalKey := by
  have hstar : totalKey.toList = ['*'] := rfl
  apply legible_of_solid
  · rw [hstar]
    exact List.cons_ne_nil '*' []
  · rw [hstar, List.forall_mem_singleton]
    decide

theorem legible_key {p : Phrase} (hp : Wordly p.words) : Legible p.key := by
  apply legible_of_solid (toList_key_ne_nil hp)
  intro c hc
  rcases isKeyChar_of_mem_key hp hc with hc | hc | rfl
  · obtain ⟨hlow, hhigh⟩ := isLower_iff.mp hc
    omega
  · obtain ⟨hlow, hhigh⟩ := isDigit_iff.mp hc
    omega
  · decide

namespace FrequencyList

theorem legible_ofSets {sets : List PhraseSet} (hsets : ∀ s ∈ sets, s.WellKeyed) :
    ∀ key ∈ (ofSets sets).counts.keys, Legible key := by
  intro key hkey
  by_cases htotal : key = totalKey
  · rw [htotal]
    exact legible_totalKey
  · have hcount : sets.countP (·.counts key) ≠ 0 := by
      intro hzero
      have hnone := counts_ofSets hsets key
      rw [if_pos ⟨htotal, hzero⟩] at hnone
      rw [← OrderedMap.contains_iff, OrderedMap.contains, hnone] at hkey
      cases hkey
    obtain ⟨s, hs, hcounts⟩ := List.countP_pos_iff.mp (Nat.pos_of_ne_zero hcount)
    have hmem : key ∈ s.keys := by simpa [PhraseSet.counts, htotal] using hcounts
    obtain ⟨p, hp, rfl⟩ := List.mem_map.mp hmem
    exact legible_key ((hsets s hs).wordly p hp)

/-- The list of streams of tags, each with its own roles. -/
def ofStreams (streams : List (RoleMap × List (Char × String))) : FrequencyList :=
  ofSets (streams.map fun s => PhraseSet.ofPairs s.1 s.2)

variable (streams : List (RoleMap × List (Char × String)))

theorem wellKeyed_of_mem_streams :
    ∀ s ∈ streams.map (fun s => PhraseSet.ofPairs s.1 s.2), s.WellKeyed := by
  intro set hset
  obtain ⟨s, -, rfl⟩ := List.mem_map.mp hset
  exact wellKeyed_ofPairs s.1 s.2

theorem total_ofStreams : (ofStreams streams).total = streams.length % Text.countLimit := by
  rw [ofStreams, total_ofSets (wellKeyed_of_mem_streams streams), List.length_map]

theorem legible_ofStreams : ∀ key ∈ (ofStreams streams).counts.keys, Legible key :=
  legible_ofSets (wellKeyed_of_mem_streams streams)

/-- A list holds what is left of another one without what occurred less than twice: by descending
count, and entries of one count in the order of the other list. -/
structure Abridges (l' l : FrequencyList) : Prop where
  kept : l'.entries.Perm (l.entries.filter fun e => 2 ≤ e.2)
  descending : l'.entries.Pairwise fun a b => b.2 ≤ a.2
  ties : ∀ n, 2 ≤ n → l'.entries.filter (·.2 = n) = l.entries.filter (·.2 = n)

theorem abridges_written (l : FrequencyList) : l.written.Abridges l := by
  refine ⟨?_, ?_, fun n hn => ?_⟩
  · rw [entries_written]
    exact l.writtenEntries_perm
  · rw [entries_written]
    exact l.sorted_writtenEntries
  · rw [entries_written]
    exact l.filter_writtenEntries hn

theorem exists_of_render {l : FrequencyList} (hl : ∀ key ∈ l.counts.keys, Legible key)
    (htotal : 2 ≤ l.total) :
    ∃ l', parse l.render = .ok l' ∧ l'.Abridges l ∧ l'.render = l.render := by
  refine ⟨l.written, ?_, l.abridges_written, l.render_written⟩
  rw [parse_render hl, if_pos htotal]

/-- A list of two streams or more comes back from its text with the entries that occurred at least
twice, and they are all that its text holds. This is so for lists that were read, with whatever
phrases and counts, and for lists of streams as long as a word can count these. -/
theorem written_text_restores :
    (∀ text l, parse text = .ok l → 2 ≤ l.total →
      ∃ l', parse l.render = .ok l' ∧ l'.Abridges l ∧ l'.render = l.render) ∧
    ∀ streams : List (RoleMap × List (Char × String)),
      2 ≤ streams.length → streams.length < Text.countLimit →
      ∃ l', parse (ofStreams streams).render = .ok l' ∧ l'.Abridges (ofStreams streams) ∧
        l'.render = (ofStreams streams).render := by
  constructor
  · intro text l hparse htotal
    exact exists_of_render (legible_of_parse hparse) htotal
  · intro streams htwo hlimit
    apply exists_of_render (legible_ofStreams streams)
    rw [total_ofStreams, Nat.mod_eq_of_lt hlimit]
    exact htwo

/-- A text whose phrases hold blanks of several kinds, with signs, zeros and a repeated phrase. -/
def looseText : String :=
  "+03 a\u00a0b  c \r\n2 x\n2 y # twice\n\n007 *\n1 once\n18446744073709551615 a+b\n3 x\n"

/-- A stream with a phrase in every category, and one without any tag. -/
def fullAndEmpty : List (RoleMap × List (Char × String)) :=
  [(default, [('T', "UserName"), ('f', "name"), ('v', "name")]), (default, [])]

theorem loose_text_and_streams_restored :
    (∃ l l', parse looseText = .ok l ∧
      l.entries = [("a\u00a0b  c", 3), ("x", 3), ("y", 2), ("*", 7), ("once", 1),
        ("a+b", 18446744073709551615)] ∧
      2 ≤ l.total ∧ parse l.render = .ok l' ∧ l'.Abridges l ∧ l'.render = l.render) ∧
    2 ≤ fullAndEmpty.length ∧ fullAndEmpty.length < Text.countLimit ∧
    ∃ l', parse (ofStreams fullAndEmpty).render = .ok l' ∧ l'.Abridges (ofStreams fullAndEmpty) ∧
      l'.render = (ofStreams fullAndEmpty).render := by
  have hlimit : fullAndEmpty.length < Text.countLimit := by decide
  refine ⟨?_, Nat.le_refl 2, hlimit, written_text_restores.2 fullAndEmpty (Nat.le_refl 2) hlimit⟩
  have hentries : (parse looseText).toOption.map entries =
      some [("a\u00a0b  c", 3), ("x", 3), ("y", 2), ("*", 7), ("once", 1),
        ("a+b", 18446744073709551615)] := by decide +kernel
  cases hparse : parse looseText with
  | error e =>
    rw [hparse] at hentries
    cases hentries
  | ok l =>
    rw [hparse] at hentries
    have hl := Option.some.inj hentries
    have hget : l.get? totalKey = some 7 := by
      rw [← mem_entries_iff, hl]
      decide
    have htotal : 2 ≤ l.total := by
      rw [total, hget]
      decide
    obtain ⟨l', hl'⟩ := written_text_restores.1 looseText l hparse htotal
    exact ⟨l, l', rfl, hl, htotal, hl'⟩

/-- What the text of a list of streams reads as. -/
theorem parse_render_ofStreams :
    parse (ofStreams streams).render =
      if 2 ≤ streams.length % Text.countLimit then .ok (ofStreams streams).written
      else .error .missingTotal := by
  rw [parse_render (legible_ofStreams streams), total_ofStreams]

theorem exists_ofFrequencies_iff {l : FrequencyList} :
    (∃ g, Glossary.ofFrequencies l = .ok g) ↔ 0 < l.total := by
  unfold Glossary.ofFrequencies
  constructor
  · rintro ⟨g, hg⟩
    split at hg
    · rename_i htotal
      exact htotal
    · cases hg
  · intro h
    rw [dif_pos h]
    exact ⟨_, rfl⟩

/-- The text of a list of streams reads as a list of as many streams, which a glossary takes,
exactly if they are at least two, and few enough for a word to count them. For one stream, or none,
the text has no number of streams. -/
theorem written_streams_load_iff :
    ((∃ l, parse (ofStreams streams).render = .ok l ∧ l.total = streams.length ∧
        ∃ g, Glossary.ofFrequencies l = .ok g) ↔
      2 ≤ streams.length ∧ streams.length < Text.countLimit) ∧
    (parse (ofStreams streams).render = .error .missingTotal ↔
      streams.length % Text.countLimit < 2) := by
  rw [parse_render_ofStreams]
  constructor
  · constructor
    · rintro ⟨l, hl, htotal, -⟩
      split at hl
      · rename_i htwo
        rw [← total_ofStreams] at htwo
        rw [← Except.ok.inj hl, total_written htwo, total_ofStreams] at htotal
        rw [total_ofStreams, htotal] at htwo
        exact ⟨htwo, htotal ▸ Nat.mod_lt _ (by decide)⟩
      · cases hl
    · rintro ⟨htwo, hlimit⟩
      have htotal : (ofStreams streams).total = streams.length := by
        rw [total_ofStreams, Nat.mod_eq_of_lt hlimit]
      have hwritten : (ofStreams streams).written.total = streams.length := by
        rw [total_written (by omega), htotal]
      refine ⟨(ofStreams streams).written, ?_, hwritten, ?_⟩
      · rw [Nat.mod_eq_of_lt hlimit, if_pos htwo]
      · rw [exists_ofFrequencies_iff]
        omega
  · by_cases htwo : 2 ≤ streams.length % Text.countLimit
    · rw [if_pos htwo]
      constructor
      · intro h
        cases h
      · exact fun hfew => absurd hfew (Nat.not_lt.mpr htwo)
    · rw [if_neg htwo]
      exact ⟨fun _ => Nat.lt_of_not_le htwo, fun _ => rfl⟩

/-- The list of one stream is lost when it is written. -/
theorem single_stream_lost :
    ¬ ∃ l, parse (ofStreams [(default, [('T', "Name"), ('f', "name"), ('v', "name")])]).render =
        .ok l ∧ l.total = 1 ∧ ∃ g, Glossary.ofFrequencies l = .ok g := by
  rintro ⟨l, hl, -⟩
  rw [parse_render_ofStreams, if_neg (by decide)] at hl
  cases hl

end FrequencyList

end NameFlow.Vocabulary
