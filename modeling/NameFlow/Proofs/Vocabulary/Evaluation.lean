import Mathlib.Algebra.BigOperators.Group.List.Basic
import Mathlib.Algebra.GroupWithZero.Nat
import Mathlib.Order.Bounds.Basic
import NameFlow.Proofs.FirstFault
import NameFlow.Proofs.Vocabulary.Shares
import NameFlow.Vocabulary.Evaluation

/-!
# Evaluation and the best phrases

A term is looked up spelling by spelling among the first ranks of what the phrases join to, and its
best rank is compared with the threshold. The terms that are hits are those with a spelling among as
many best phrases as the threshold says: two phrases may join to one spelling, and one phrase may be
spelled by several terms. The report counts its entries as it takes them in.
-/

namespace NameFlow.Vocabulary

set_option autoImplicit false

/-- A phrase joins to one of the spellings. -/
def Matches (ranked : List Phrase) (spellings : List String) : Prop :=
  ∃ p ∈ ranked, p.joined ∈ spellings

instance (ranked : List Phrase) (spellings : List String) : Decidable (Matches ranked spellings) :=
  decidable_of_iff (ranked.any fun p => spellings.contains p.joined) (by simp [Matches])

/-- The ranks of the phrases that join to one of the spellings. -/
def matchingRanks (ranked : List Phrase) (spellings : List String) : Set Nat :=
  {r | ∃ p, ranked[r]? = some p ∧ p.joined ∈ spellings}

/-- The index holds the first place at which a phrase joins to the spelling. -/
theorem get?_firstRanks (ranked : List Phrase) (w : String) :
    (firstRanks ranked).get? w = ranked.findIdx? fun p => p.joined = w := by
  -- a key that is present keeps its rank, so the map at hand answers before the rest of the list
  have hfold : ∀ (ps : List Phrase) (k : Nat) (ranks : OrderedMap String Nat),
      ((ps.zipIdx k).foldl (fun ranks e => ranks.update e.1.joined (·.getD e.2)) ranks).get? w =
        (ranks.get? w).or ((ps.findIdx? fun p => p.joined = w).map (· + k)) := by
    intro ps
    induction ps with
    | nil => simp
    | cons p ps ih =>
      intro k ranks
      rw [List.zipIdx_cons, List.foldl_cons, ih, OrderedMap.get?_update, List.findIdx?_cons]
      by_cases hp : p.joined = w
      · cases hw : ranks.get? w <;> simp [hp, hw]
      · cases ranks.get? w <;>
          simp [hp, Function.comp_def, Nat.add_right_comm, Nat.add_assoc]
  refine (hfold ranked 0 ∅).trans ?_
  exact (Option.none_or).trans (by simp)

section Terms

variable {ranked : List Phrase} {spellings : List String}

theorem mem_matchingRanks_of_firstRanks {w : String} (hw : w ∈ spellings) {r : Nat}
    (hr : (firstRanks ranked).get? w = some r) : r ∈ matchingRanks ranked spellings := by
  rw [get?_firstRanks] at hr
  obtain ⟨hlt, hjoined, -⟩ := List.findIdx?_eq_some_iff_getElem.mp hr
  refine ⟨ranked[r], List.getElem?_eq_getElem hlt, ?_⟩
  rw [of_decide_eq_true hjoined]
  exact hw

/-- A spelling stands at its first rank, so no later one is the best of the term. -/
theorem exists_firstRanks_le {r : Nat} (hr : r ∈ matchingRanks ranked spellings) :
    ∃ w ∈ spellings, ∃ q ≤ r, (firstRanks ranked).get? w = some q := by
  obtain ⟨p, hp, hmem⟩ := hr
  refine ⟨p.joined, hmem, ?_⟩
  rw [get?_firstRanks]
  cases hrank : ranked.findIdx? fun q => q.joined = p.joined with
  | none =>
    have hne := List.findIdx?_eq_none_iff.mp hrank p (List.mem_of_getElem? hp)
    simp at hne
  | some q =>
    obtain ⟨hq, -, hfirst⟩ := List.findIdx?_eq_some_iff_getElem.mp hrank
    refine ⟨q, ?_, rfl⟩
    by_contra hlt
    obtain ⟨hr, heq⟩ := List.getElem?_eq_some_iff.mp hp
    apply hfirst r (Nat.lt_of_not_le hlt)
    rw [heq]
    exact decide_eq_true rfl

theorem min?_firstRanks_eq_some_iff {r : Nat} :
    (spellings.filterMap (firstRanks ranked).get?).min? = some r ↔
      IsLeast (matchingRanks ranked spellings) r := by
  rw [List.min?_eq_some_iff]
  constructor
  · rintro ⟨hmem, hle⟩
    obtain ⟨w, hw, hr⟩ := List.mem_filterMap.mp hmem
    -- A later rank of a spelling is not among those compared, but its first one is.
    refine ⟨mem_matchingRanks_of_firstRanks hw hr, fun b hb => ?_⟩
    obtain ⟨v, hv, q, hqb, hq⟩ := exists_firstRanks_le hb
    exact Nat.le_trans (hle q (List.mem_filterMap.mpr ⟨v, hv, hq⟩)) hqb
  · rintro ⟨hmem, hle⟩
    obtain ⟨w, hw, q, hqr, hq⟩ := exists_firstRanks_le hmem
    have hrq := hle (mem_matchingRanks_of_firstRanks hw hq)
    obtain rfl := Nat.le_antisymm hqr hrq
    refine ⟨List.mem_filterMap.mpr ⟨w, hw, hq⟩, fun b hb => ?_⟩
    obtain ⟨v, hv, hb⟩ := List.mem_filterMap.mp hb
    exact hle (mem_matchingRanks_of_firstRanks hv hb)

/-- A term is found at the least rank of any of its spellings, under its first spelling. -/
theorem findTerm_eq_some_iff {f : Nat × String} :
    findTerm (firstRanks ranked) spellings = some f ↔
      IsLeast (matchingRanks ranked spellings) f.1 ∧ spellings.head? = some f.2 := by
  rw [← min?_firstRanks_eq_some_iff, findTerm]
  cases (spellings.filterMap (firstRanks ranked).get?).min? <;> cases spellings.head? <;>
    simp [Prod.ext_iff]

theorem exists_findTerm_le {r : Nat} (hr : r ∈ matchingRanks ranked spellings) :
    ∃ f, findTerm (firstRanks ranked) spellings = some f ∧ f.1 ≤ r := by
  obtain ⟨w, hw, q, -, hq⟩ := exists_firstRanks_le hr
  have hranks : spellings.filterMap (firstRanks ranked).get? ≠ [] :=
    List.ne_nil_of_mem (List.mem_filterMap.mpr ⟨w, hw, hq⟩)
  obtain ⟨best, hbest⟩ := Option.isSome_iff_exists.mp (List.isSome_min?_of_ne_nil hranks)
  have hleast := min?_firstRanks_eq_some_iff.mp hbest
  obtain ⟨first, rest, rfl⟩ := List.exists_cons_of_ne_nil (List.ne_nil_of_mem hw)
  exact ⟨(best, first), findTerm_eq_some_iff.mpr ⟨hleast, rfl⟩, hleast.2 hr⟩

theorem matches_take_iff {n : Nat} :
    Matches (ranked.take n) spellings ↔ ∃ r ∈ matchingRanks ranked spellings, r < n := by
  constructor
  · rintro ⟨p, hp, hmem⟩
    obtain ⟨r, hr⟩ := List.mem_iff_getElem?.mp hp
    rw [List.getElem?_take] at hr
    split at hr
    · rename_i hlt
      exact ⟨r, ⟨p, hr, hmem⟩, hlt⟩
    · cases hr
  · rintro ⟨r, ⟨p, hp, hmem⟩, hlt⟩
    refine ⟨p, List.mem_of_getElem? (i := r) ?_, hmem⟩
    rw [List.getElem?_take_of_lt hlt]
    exact hp

/-- The terms with a spelling among the best phrases are those found below their number. -/
theorem matches_take_iff_findTerm {n : Nat} :
    Matches (ranked.take n) spellings ↔
      ∃ f, findTerm (firstRanks ranked) spellings = some f ∧ f.1 < n := by
  rw [matches_take_iff]
  constructor
  · rintro ⟨r, hr, hlt⟩
    obtain ⟨f, hf, hle⟩ := exists_findTerm_le hr
    exact ⟨f, hf, Nat.lt_of_le_of_lt hle hlt⟩
  · rintro ⟨f, hf, hlt⟩
    exact ⟨f.1, (findTerm_eq_some_iff.mp hf).1.1, hlt⟩

theorem matches_iff_findTerm :
    Matches ranked spellings ↔ ∃ f, findTerm (firstRanks ranked) spellings = some f := by
  constructor
  · rintro ⟨p, hp, hmem⟩
    obtain ⟨r, hr⟩ := List.mem_iff_getElem?.mp hp
    obtain ⟨f, hf, -⟩ := exists_findTerm_le ⟨p, hr, hmem⟩
    exact ⟨f, hf⟩
  · rintro ⟨f, hf⟩
    obtain ⟨p, hp, hmem⟩ := (findTerm_eq_some_iff.mp hf).1.1
    exact ⟨p, List.mem_of_getElem? hp, hmem⟩

end Terms

/-- By rank and then by spelling. -/
def FoundBefore (a b : Nat × String) : Prop := a.1 < b.1 ∨ a.1 = b.1 ∧ a.2 ≤ b.2

theorem foundBefore_iff {a b : Nat × String} : foundBefore a b = true ↔ FoundBefore a b := by
  simp [foundBefore, FoundBefore]

theorem foundBefore_trans (a b c : Nat × String) (hab : foundBefore a b = true)
    (hbc : foundBefore b c = true) : foundBefore a c = true := by
  rw [foundBefore_iff] at hab hbc ⊢
  rcases hab with hab | ⟨hab, hab'⟩
  · left
    rcases hbc with hbc | ⟨hbc, -⟩ <;> omega
  · rcases hbc with hbc | ⟨hbc, hbc'⟩
    · left
      omega
    · exact .inr ⟨hab.trans hbc, String.le_trans hab' hbc'⟩

theorem foundBefore_total (a b : Nat × String) : (foundBefore a b || foundBefore b a) = true := by
  rw [Bool.or_eq_true, foundBefore_iff, foundBefore_iff]
  rcases Nat.lt_trichotomy a.1 b.1 with hlt | heq | hgt
  · exact .inl (.inl hlt)
  · rcases String.le_total a.2 b.2 with hle | hle
    · exact .inl (.inr ⟨heq, hle⟩)
    · exact .inr (.inr ⟨heq.symm, hle⟩)
  · exact .inr (.inl hgt)

theorem forall₂_findTerm (ranked : List Phrase) (terms : List (List String)) :
    List.Forall₂ (fun spellings f => findTerm (firstRanks ranked) spellings = some f)
      (terms.filter (Matches ranked)) (terms.filterMap (findTerm (firstRanks ranked))) := by
  induction terms with
  | nil => exact .nil
  | cons spellings terms ih =>
    cases hf : findTerm (firstRanks ranked) spellings with
    | none =>
      have hnot : ¬ Matches ranked spellings := by
        rw [matches_iff_findTerm, hf]
        rintro ⟨f, hf'⟩
        cases hf'
      rw [List.filter_cons_of_neg (by simpa using hnot), List.filterMap_cons_none hf]
      exact ih
    | some f =>
      have hmatch : Matches ranked spellings := matches_iff_findTerm.mpr ⟨f, hf⟩
      rw [List.filter_cons_of_pos (by simpa using hmatch), List.filterMap_cons_some hf]
      exact .cons hf ih

/-- What the report of an entry says about its terms and the phrases of its stream. -/
structure EntryReport.Describes (e : EntryReport) (g : Glossary) (threshold : Nat) (name : String)
    (terms : List (List String)) (s : PhraseSet) : Prop where
  name_eq : e.name = name
  total_eq : e.total = terms.length
  /-- The hits are the terms with a spelling among the best phrases. -/
  hits_eq : e.hits = terms.countP (Matches (g.top s threshold))
  /-- Each term that matches any phrase is found once, at its least rank. -/
  found_perm : ∃ places,
    List.Forall₂ (fun spellings f =>
        IsLeast (matchingRanks (g.rank s) spellings) f.1 ∧ spellings.head? = some f.2)
      (terms.filter (Matches (g.rank s))) places ∧
    e.found.Perm places
  found_sorted : e.found.Pairwise FoundBefore

section Entry

variable (g : Glossary) (threshold : Nat) (name : String) (terms : List (List String))
  (s : PhraseSet)

theorem found_perm_filterMap : (evaluateEntry g threshold name terms s).found.Perm
    (terms.filterMap (findTerm (firstRanks (g.rank s)))) :=
  List.mergeSort_perm _ _

theorem hits_evaluateEntry : (evaluateEntry g threshold name terms s).hits =
    terms.countP (Matches (g.top s threshold)) := by
  have hcount := (found_perm_filterMap g threshold name terms s).countP_eq
    fun f => decide (f.1 < threshold)
  refine hcount.trans ?_
  rw [List.countP_filterMap]
  apply List.countP_congr
  intro spellings _
  rw [decide_eq_true_iff, Glossary.top, matches_take_iff_findTerm]
  cases findTerm (firstRanks (g.rank s)) spellings <;> simp

theorem describes_evaluateEntry :
    (evaluateEntry g threshold name terms s).Describes g threshold name terms s where
  name_eq := rfl
  total_eq := rfl
  hits_eq := hits_evaluateEntry g threshold name terms s
  found_perm := by
    refine ⟨_, (forall₂_findTerm (g.rank s) terms).imp ?_,
      found_perm_filterMap g threshold name terms s⟩
    exact fun _ _ hf => findTerm_eq_some_iff.mp hf
  found_sorted := by
    have hsorted := List.pairwise_mergeSort foundBefore_trans foundBefore_total
      (terms.filterMap (findTerm (firstRanks (g.rank s))))
    exact hsorted.imp foundBefore_iff.mp

end Entry

/-- A report has the entries that it took in, and counts what they count. -/
theorem foldl_add (es : List EntryReport) (r : Report) :
    es.foldl .add r = ⟨r.entries ++ es, r.hits + (es.map (·.hits)).sum,
      r.total + (es.map (·.total)).sum⟩ := by
  induction es generalizing r with
  | nil => simp
  | cons e es ih =>
    rw [List.foldl_cons, ih]
    simp [Report.add, Nat.add_assoc]

/-- The report takes in the entries of a key file one after another. -/
theorem evaluate_pure {m : Type → Type} [Monad m] [LawfulMonad m] (g : Glossary) (keys : KeyFile)
    (threshold : Nat) (sets : String → PhraseSet) :
    evaluate g keys threshold (fun name => (pure (sets name) : m PhraseSet)) =
      pure ((keys.entries.toList.map fun entry =>
        evaluateEntry g threshold entry.1 entry.2 (sets entry.1)).foldl .add .empty) := by
  unfold evaluate
  simp only [pure_bind]
  rw [List.foldlM_pure, List.foldl_map]

/-- Where every stream loads, the report describes every entry of the key file in order: its hits
are the terms with a spelling among as many best phrases as the threshold says. -/
theorem evaluate_agrees_with_top {m : Type → Type} [Monad m] [LawfulMonad m] (g : Glossary)
    (keys : KeyFile) (threshold : Nat) (sets : String → PhraseSet) :
    ∃ report : Report,
      evaluate g keys threshold (fun name => (pure (sets name) : m PhraseSet)) = pure report ∧
      List.Forall₂ (fun entry e => EntryReport.Describes e g threshold entry.1 entry.2
        (sets entry.1)) keys.entries.toList report.entries ∧
      report.hits = (report.entries.map (·.hits)).sum ∧
      report.total = (report.entries.map (·.total)).sum := by
  refine ⟨_, evaluate_pure g keys threshold sets, ?_⟩
  rw [foldl_add]
  refine ⟨?_, Nat.zero_add _, Nat.zero_add _⟩
  rw [Report.empty, List.nil_append, List.forall₂_map_right_iff, List.forall₂_same]
  exact fun entry _ => describes_evaluateEntry g threshold entry.1 entry.2 (sets entry.1)

section Username

/-- Two terms of the first entry are phrases, and one is spelled by two of them. -/
def usernameKeys : String := "+ box\nlogin username\nuser\nmissing\n\n+ hello\nname\n"

/-- The phrases `user/name` and `username` join to one spelling. -/
def usernameSet : PhraseSet :=
  .ofPairs default [('T', "userName"), ('F', "userName"), ('V', "userName"), ('T', "username"),
    ('F', "username"), ('V', "username")]

def usernameSets (name : String) : PhraseSet :=
  if name = "box" then usernameSet else .ofPairs default []

def usernameGlossary : Glossary := ⟨⟨(∅ : OrderedMap String UInt64).insert totalKey 2⟩, by decide⟩

/-- Every phrase is among the four best. -/
theorem matches_top_username {spellings : List String} :
    Matches (usernameGlossary.top usernameSet 4) spellings ↔
      Matches usernameSet.phrases spellings := by
  have hperm := sortDescending_perm usernameGlossary.weight usernameSet.phrases
  have hlength : (usernameGlossary.rank usernameSet).length = 4 := by
    rw [Glossary.rank, hperm.length_eq]
    decide +kernel
  rw [Glossary.top, List.take_of_length_le hlength.le]
  exact exists_congr fun p => and_congr_left fun _ => hperm.mem_iff

theorem username_terms_evaluated :
    ∃ keys report, KeyFile.parse usernameKeys = .ok keys ∧
      evaluate usernameGlossary keys 4 (fun name => .ok (usernameSets name)) =
        (.ok report : Except Error Report) ∧
      report.entries.map (fun e => (e.name, e.hits, e.total)) =
        [("box", 2, 3), ("hello", 0, 1)] ∧
      report.hits = 2 ∧ report.total = 4 := by
  have hentries : (KeyFile.parse usernameKeys).toOption.map (·.entries.toList) =
      some [("box", [["login", "username"], ["user"], ["missing"]]), ("hello", [["name"]])] := by
    decide +kernel
  obtain ⟨keys, hparse, hkeys⟩ := exists_ok_of_toOption hentries
  obtain ⟨report, hreport, hdescribes, hhits, htotal⟩ :=
    evaluate_agrees_with_top (m := Except Error) usernameGlossary keys 4 usernameSets
  rw [hkeys] at hdescribes
  obtain ⟨box, rest, hbox, hrest, heq⟩ := List.forall₂_cons_left_iff.mp hdescribes
  obtain ⟨hello, _, hhello, hnil, rfl⟩ := List.forall₂_cons_left_iff.mp hrest
  obtain rfl := List.forall₂_nil_left_iff.mp hnil
  have hbest : box.hits = 2 := by
    have hsame : [["login", "username"], ["user"], ["missing"]].countP
        (Matches (usernameGlossary.top usernameSet 4)) =
        [["login", "username"], ["user"], ["missing"]].countP (Matches usernameSet.phrases) :=
      List.countP_congr fun spellings _ => by simp only [matches_top_username]
    exact (hbox.hits_eq.trans hsame).trans (by decide +kernel)
  have hnone : hello.hits = 0 := by
    rw [hhello.hits_eq]
    decide +kernel
  refine ⟨keys, report, hparse, hreport, ?_, ?_, ?_⟩
  · simp [heq, hbox.name_eq, hhello.name_eq, hbest, hnone, hbox.total_eq, hhello.total_eq]
  · simp [hhits, heq, hbest, hnone]
  · simp [htotal, heq, hbox.total_eq, hhello.total_eq]

end Username

end NameFlow.Vocabulary
