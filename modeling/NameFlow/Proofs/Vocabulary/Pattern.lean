import NameFlow.Proofs.Vocabulary.Words

/-!
# Words as matches of a pattern

Read from its end, an identifier is searched for digits with small letters and at most one capital
behind them, or else with capitals behind them. Its words are the matches found one after another,
each as long as it can be. The reading takes each character once and never goes back, while a match
may try digits and then fail: it fails at each of these digits, so both leave them out.
-/

namespace NameFlow.Vocabulary

set_option autoImplicit false

/-- Patterns of texts, in which a repetition takes as much as it can. -/
inductive Pattern
  | empty
  | char (p : Char → Bool)
  | many (p : Char → Bool)
  | seq (first second : Pattern)
  | alt (first second : Pattern)

namespace Pattern

def plus (p : Char → Bool) : Pattern := .seq (.char p) (.many p)

def optional (p : Char → Bool) : Pattern := .alt (.char p) .empty

def charWays (p : Char → Bool) : List Char → List (List Char × List Char)
  | [] => []
  | c :: cs => if p c then [([c], cs)] else []

def manyWays (p : Char → Bool) : List Char → List (List Char × List Char)
  | [] => [([], [])]
  | c :: cs =>
    if p c then (manyWays p cs).map (fun way => (c :: way.1, way.2)) ++ [([], c :: cs)]
    else [([], c :: cs)]

/-- The ways to match the beginning of a text, the preferred ones first: what is matched, and what
is left. -/
def ways : Pattern → List Char → List (List Char × List Char)
  | .empty, cs => [([], cs)]
  | .char p, cs => charWays p cs
  | .many p, cs => manyWays p cs
  | .seq first second, cs => (first.ways cs).flatMap fun way =>
      (second.ways way.2).map fun next => (way.1 ++ next.1, next.2)
  | .alt first second, cs => first.ways cs ++ second.ways cs

def match? (p : Pattern) (cs : List Char) : Option (List Char × List Char) := (p.ways cs).head?

/-- The matches that begin behind the given number of characters, each behind the one before. A
match of nothing does not count. -/
def matchesFrom (p : Pattern) : Nat → List Char → List (List Char)
  | _, [] => []
  | skip + 1, _ :: cs => matchesFrom p skip cs
  | 0, c :: cs =>
    match p.match? (c :: cs) with
    | some (d :: found, _) => (d :: found) :: matchesFrom p found.length cs
    | _ => matchesFrom p 0 cs

/-- The successive matches in a text. -/
def successive (p : Pattern) (cs : List Char) : List (List Char) := p.matchesFrom 0 cs

section Ways

variable {p : Char → Bool} {first second : Pattern} {cs : List Char} {c : Char}

theorem append_of_mem_charWays {way : List Char × List Char} (h : way ∈ charWays p cs) :
    way.1 ++ way.2 = cs := by
  cases cs with
  | nil => exact absurd h List.not_mem_nil
  | cons c cs =>
    rw [charWays] at h
    split at h
    · rw [List.mem_singleton.mp h]
      rfl
    · exact absurd h List.not_mem_nil

theorem append_of_mem_manyWays {way : List Char × List Char} (h : way ∈ manyWays p cs) :
    way.1 ++ way.2 = cs := by
  induction cs generalizing way with
  | nil =>
    rw [List.mem_singleton.mp h]
    rfl
  | cons c cs ih =>
    rw [manyWays] at h
    split at h
    · rcases List.mem_append.mp h with h | h
      · obtain ⟨way, hway, rfl⟩ := List.mem_map.mp h
        exact congrArg (c :: ·) (ih hway)
      · rw [List.mem_singleton.mp h]
        rfl
    · rw [List.mem_singleton.mp h]
      rfl

/-- What is matched and what is left are the text. -/
theorem append_of_mem_ways {p : Pattern} {way : List Char × List Char} (h : way ∈ p.ways cs) :
    way.1 ++ way.2 = cs := by
  induction p generalizing cs way with
  | empty =>
    rw [List.mem_singleton.mp h]
    rfl
  | char p => exact append_of_mem_charWays h
  | many p => exact append_of_mem_manyWays h
  | seq first second ihfirst ihsecond =>
    obtain ⟨start, hstart, hway⟩ := List.mem_flatMap.mp h
    obtain ⟨next, hnext, rfl⟩ := List.mem_map.mp hway
    rw [List.append_assoc, ihsecond hnext, ihfirst hstart]
  | alt first second ihfirst ihsecond =>
    rcases List.mem_append.mp h with h | h
    · exact ihfirst h
    · exact ihsecond h

/-- A repetition prefers all it can take. In any other way it leaves something it could take. -/
theorem manyWays_eq (p : Char → Bool) (cs : List Char) :
    ∃ others, manyWays p cs = (cs.takeWhile p, cs.dropWhile p) :: others ∧
      ∀ way ∈ others, ∃ c left, way.2 = c :: left ∧ p c = true := by
  induction cs with
  | nil => exact ⟨[], rfl, by simp⟩
  | cons c cs ih =>
    by_cases hc : p c = true
    · obtain ⟨others, heq, hothers⟩ := ih
      rw [manyWays, if_pos hc, heq, List.takeWhile_cons_of_pos hc, List.dropWhile_cons_of_pos hc]
      refine ⟨_, rfl, fun way hway => ?_⟩
      rcases List.mem_append.mp hway with hway | hway
      · obtain ⟨way, hmem, rfl⟩ := List.mem_map.mp hway
        exact hothers way hmem
      · rw [List.mem_singleton.mp hway]
        exact ⟨c, cs, rfl, hc⟩
    · rw [manyWays, if_neg hc, List.takeWhile_cons_of_neg hc, List.dropWhile_cons_of_neg hc]
      exact ⟨[], rfl, by simp⟩

/-- Before what cannot begin with any of its characters, a repetition takes all that it can. -/
theorem ways_seq_many (h : ∀ c left, p c = true → second.ways (c :: left) = []) (cs : List Char) :
    (seq (.many p) second).ways cs =
      (second.ways (cs.dropWhile p)).map fun next => (cs.takeWhile p ++ next.1, next.2) := by
  obtain ⟨others, heq, hothers⟩ := manyWays_eq p cs
  have hnone : (others.flatMap fun way =>
      (second.ways way.2).map fun next => (way.1 ++ next.1, next.2)) = [] := by
    rw [List.flatMap_eq_nil_iff]
    intro way hway
    obtain ⟨c, left, hleft, hc⟩ := hothers way hway
    rw [hleft, h c left hc, List.map_nil]
  rw [ways, ways, heq, List.flatMap_cons, hnone, List.append_nil]

theorem match?_seq {way next : List Char × List Char} (hfirst : first.match? cs = some way)
    (hsecond : second.match? way.2 = some next) :
    (seq first second).match? cs = some (way.1 ++ next.1, next.2) := by
  obtain ⟨ways', hways⟩ := List.head?_eq_some_iff.mp hfirst
  obtain ⟨nexts, hnexts⟩ := List.head?_eq_some_iff.mp hsecond
  rw [match?, ways, hways, List.flatMap_cons, hnexts]
  rfl

theorem ways_seq_of_nil (h : first.ways cs = []) : (seq first second).ways cs = [] := by
  rw [ways, h, List.flatMap_nil]

theorem match?_alt_of_some {way : List Char × List Char} (h : first.match? cs = some way) :
    (alt first second).match? cs = some way := by
  obtain ⟨ways', hways⟩ := List.head?_eq_some_iff.mp h
  rw [match?, ways, hways]
  rfl

theorem match?_alt_of_nil (h : first.ways cs = []) :
    (alt first second).match? cs = second.match? cs := by
  rw [match?, ways, h, List.nil_append]
  rfl

theorem match?_many (p : Char → Bool) (cs : List Char) :
    (many p).match? cs = some (cs.takeWhile p, cs.dropWhile p) := by
  obtain ⟨others, heq, _⟩ := manyWays_eq p cs
  rw [match?, ways, heq]
  rfl

theorem match?_plus (hc : p c = true) (cs : List Char) :
    (plus p).match? (c :: cs) = some (c :: cs.takeWhile p, cs.dropWhile p) := by
  have hchar : (char p).match? (c :: cs) = some ([c], cs) := by
    rw [match?, ways, charWays, if_pos hc]
    rfl
  exact match?_seq hchar (match?_many p cs)

theorem ways_char_of_neg (h : ∀ c ∈ cs.head?, ¬ p c = true) : (char p).ways cs = [] := by
  cases cs with
  | nil => rfl
  | cons c cs => rw [ways, charWays, if_neg (h c rfl)]

theorem ways_plus_of_neg (h : ∀ c ∈ cs.head?, ¬ p c = true) : (plus p).ways cs = [] :=
  ways_seq_of_nil (ways_char_of_neg h)

theorem match?_optional_of_pos (hc : p c = true) (cs : List Char) :
    (optional p).match? (c :: cs) = some ([c], cs) := by
  apply match?_alt_of_some
  rw [match?, ways, charWays, if_pos hc]
  rfl

theorem match?_optional_of_neg (h : ∀ c ∈ cs.head?, ¬ p c = true) :
    (optional p).match? cs = some ([], cs) := match?_alt_of_nil (ways_char_of_neg h)

theorem exists_match?_optional (p : Char → Bool) (cs : List Char) :
    ∃ next, (optional p).match? cs = some next := by
  by_cases h : ∀ c ∈ cs.head?, ¬ p c = true
  · exact ⟨_, match?_optional_of_neg h⟩
  · push Not at h
    obtain ⟨c, hhead, hc⟩ := h
    obtain ⟨rest, rfl⟩ := List.head?_eq_some_iff.mp hhead
    exact ⟨_, match?_optional_of_pos hc rest⟩

end Ways

section Successive

variable {p : Pattern} {c d : Char} {cs found rest : List Char}

theorem matchesFrom_eq (p : Pattern) (skip : Nat) (cs : List Char) :
    p.matchesFrom skip cs = p.successive (cs.drop skip) := by
  induction cs generalizing skip with
  | nil =>
    rw [List.drop_nil, successive, matchesFrom, matchesFrom]
  | cons c cs ih =>
    cases skip with
    | zero => rfl
    | succ skip =>
      rw [matchesFrom, List.drop_succ_cons]
      exact ih skip

/-- The search goes on behind a match. -/
theorem successive_of_match (h : p.match? cs = some (d :: found, rest)) :
    p.successive cs = (d :: found) :: p.successive rest := by
  have happend : d :: found ++ rest = cs := append_of_mem_ways (List.mem_of_head? h)
  subst happend
  rw [successive, List.cons_append, matchesFrom, ← List.cons_append, h]
  dsimp only
  rw [matchesFrom_eq, List.drop_left]

/-- Where nothing matches, the search goes on behind the next character. -/
theorem successive_cons_of_none (h : p.match? (c :: cs) = none) :
    p.successive (c :: cs) = p.successive cs := by
  rw [successive, matchesFrom, h]
  rfl

end Successive

end Pattern

/-- A word, read from its end. -/
def wordPattern : Pattern :=
  .alt (.seq (.many Char.isDigit) (.seq (.plus Char.isLower) (.optional Char.isUpper)))
    (.seq (.many Char.isDigit) (.plus Char.isUpper))

section Words

open Pattern

variable {ds cs : List Char} {c : Char}

theorem not_isLower_of_isDigit (h : c.isDigit = true) : ¬ c.isLower = true := by
  have halpha := not_isAlpha_of_isDigit h
  rw [isAlpha_eq, Bool.or_eq_true, not_or] at halpha
  exact halpha.2

theorem not_isUpper_of_isDigit (h : c.isDigit = true) : ¬ c.isUpper = true := by
  have halpha := not_isAlpha_of_isDigit h
  rw [isAlpha_eq, Bool.or_eq_true, not_or] at halpha
  exact halpha.1

theorem not_isAlphanum_iff :
    ¬ c.isAlphanum = true ↔ ¬ c.isLower = true ∧ ¬ c.isUpper = true ∧ ¬ c.isDigit = true := by
  have heq : c.isAlphanum = (c.isUpper || c.isLower || c.isDigit) := rfl
  rw [heq, Bool.or_eq_true, Bool.or_eq_true, not_or, not_or, and_comm (a := ¬ c.isUpper = true),
    and_assoc]

/-- Digits are taken as a whole if what follows them begins with none. -/
theorem ways_seq_digits {second : Pattern}
    (hsecond : ∀ c left, c.isDigit = true → second.ways (c :: left) = [])
    (hds : ∀ d ∈ ds, d.isDigit = true) (hcs : ∀ c ∈ cs.head?, ¬ c.isDigit = true) :
    (seq (.many Char.isDigit) second).ways (ds ++ cs) =
      (second.ways cs).map fun next => (ds ++ next.1, next.2) := by
  have hend : cs.takeWhile Char.isDigit = [] ∧ cs.dropWhile Char.isDigit = cs := by
    cases cs with
    | nil => exact ⟨rfl, rfl⟩
    | cons c cs =>
      exact ⟨List.takeWhile_cons_of_neg (hcs c rfl), List.dropWhile_cons_of_neg (hcs c rfl)⟩
  rw [ways_seq_many hsecond, List.takeWhile_append_of_pos hds, List.dropWhile_append_of_pos hds,
    hend.1, hend.2, List.append_nil]

section Matches

variable (hds : ∀ d ∈ ds, d.isDigit = true)

include hds

theorem ways_small (hcs : ∀ c ∈ cs.head?, ¬ c.isDigit = true) :
    (seq (.many Char.isDigit) (seq (.plus Char.isLower) (.optional Char.isUpper))).ways (ds ++ cs) =
      ((seq (.plus Char.isLower) (.optional Char.isUpper)).ways cs).map
        fun next => (ds ++ next.1, next.2) := by
  refine ways_seq_digits (fun c left hc => ways_seq_of_nil (ways_plus_of_neg ?_)) hds hcs
  rintro d ⟨⟩
  exact not_isLower_of_isDigit hc

theorem ways_capital (hcs : ∀ c ∈ cs.head?, ¬ c.isDigit = true) :
    (seq (.many Char.isDigit) (.plus Char.isUpper)).ways (ds ++ cs) =
      ((plus Char.isUpper).ways cs).map fun next => (ds ++ next.1, next.2) := by
  refine ways_seq_digits (fun c left hc => ways_plus_of_neg ?_) hds hcs
  rintro d ⟨⟩
  exact not_isUpper_of_isDigit hc

/-- Digits with small letters behind them are matched with all these letters and a capital. -/
theorem match?_word_small (hc : c.isLower = true) {next : List Char × List Char}
    (hnext : (optional Char.isUpper).match? (cs.dropWhile Char.isLower) = some next) :
    wordPattern.match? (ds ++ c :: cs) =
      some (ds ++ c :: (cs.takeWhile Char.isLower ++ next.1), next.2) := by
  have hdigit : ∀ d ∈ (c :: cs).head?, ¬ d.isDigit = true := by
    rintro d ⟨⟩ hd
    exact not_isLower_of_isDigit hd hc
  apply match?_alt_of_some
  rw [match?, ways_small hds hdigit, List.head?_map]
  exact congrArg (Option.map _) (match?_seq (match?_plus hc cs) hnext)

/-- Digits with capitals behind them are matched with all of these. -/
theorem match?_word_capital (hc : c.isUpper = true) (cs : List Char) :
    wordPattern.match? (ds ++ c :: cs) =
      some (ds ++ c :: cs.takeWhile Char.isUpper, cs.dropWhile Char.isUpper) := by
  have hdigit : ∀ d ∈ (c :: cs).head?, ¬ d.isDigit = true := by
    rintro d ⟨⟩ hd
    exact not_isUpper_of_isDigit hd hc
  have hlower : ∀ d ∈ (c :: cs).head?, ¬ d.isLower = true := by
    rintro d ⟨⟩ hd
    exact not_isUpper_of_isLower hd hc
  have hsmall := ways_small hds hdigit
  rw [ways_seq_of_nil (ways_plus_of_neg hlower)] at hsmall
  refine (match?_alt_of_nil hsmall).trans ?_
  rw [match?, ways_capital hds hdigit, List.head?_map]
  exact congrArg (Option.map _) (match?_plus hc cs)

/-- Digits with no letter behind them are not matched. -/
theorem match?_word_none (hcs : ∀ c ∈ cs.head?, ¬ c.isAlphanum = true) :
    wordPattern.match? (ds ++ cs) = none := by
  have hlower : ∀ c ∈ cs.head?, ¬ c.isLower = true :=
    fun c hc => (not_isAlphanum_iff.mp (hcs c hc)).1
  have hupper : ∀ c ∈ cs.head?, ¬ c.isUpper = true :=
    fun c hc => (not_isAlphanum_iff.mp (hcs c hc)).2.1
  have hdigit : ∀ c ∈ cs.head?, ¬ c.isDigit = true :=
    fun c hc => (not_isAlphanum_iff.mp (hcs c hc)).2.2
  have hsmall := ways_small hds hdigit
  rw [ways_seq_of_nil (ways_plus_of_neg hlower)] at hsmall
  refine (match?_alt_of_nil hsmall).trans ?_
  rw [match?, ways_capital hds hdigit, ways_plus_of_neg hupper]
  rfl

end Matches

/-- A match, turned around and in lower case. -/
def spelled (found : List Char) : List Char := found.reverse.map Char.toLower

theorem spelled_append (as bs : List Char) : spelled (as ++ bs) = spelled bs ++ spelled as := by
  unfold spelled
  rw [List.reverse_append, List.map_append]

theorem spelled_cons (c : Char) (cs : List Char) : spelled (c :: cs) = spelled cs ++ [c.toLower] :=
  spelled_append [c] cs

theorem spelled_digits (hds : ∀ d ∈ ds, d.isDigit = true) : spelled ds.reverse = ds := by
  unfold spelled
  rw [List.reverse_reverse]
  refine (List.map_congr_left fun d hd => ?_).trans (List.map_id ds)
  exact toLower_eq_self (not_isUpper_of_isDigit (hds d hd))

/-- The words found in a text that is turned around, in their order in the identifier. -/
def foundWords (cs : List Char) : List (List Char) :=
  ((wordPattern.successive cs).map spelled).reverse

theorem foundWords_of_match {found rest : List Char}
    (h : wordPattern.match? cs = some (found, rest)) (hne : found ≠ []) :
    foundWords cs = foundWords rest ++ [spelled found] := by
  obtain ⟨d, found, rfl⟩ := List.exists_cons_of_ne_nil hne
  unfold foundWords
  rw [successive_of_match h, List.map_cons, List.reverse_cons]

/-- Digits are passed over one by one, and so is what separates words. -/
theorem foundWords_of_none (hds : ∀ d ∈ ds, d.isDigit = true)
    (hcs : ∀ c ∈ cs.head?, ¬ c.isAlphanum = true) :
    foundWords (ds ++ cs) = foundWords cs.tail := by
  unfold foundWords
  induction ds with
  | nil =>
    cases cs with
    | nil => rfl
    | cons c cs =>
      rw [List.nil_append, successive_cons_of_none (match?_word_none hds hcs), List.tail_cons]
  | cons d ds ih =>
    have hnone : wordPattern.match? (d :: (ds ++ cs)) = none := match?_word_none hds hcs
    rw [List.cons_append, successive_cons_of_none hnone]
    exact ih (List.forall_mem_cons.mp hds).2

/-- The words after the characters of a text have been taken in one by one. -/
def readOn (r : Reading) (cs : List Char) : List (List Char) :=
  (cs.foldl (fun r c => Reading.take c r) r).finish

theorem readOn_cons (r : Reading) (c : Char) (cs : List Char) :
    readOn r (c :: cs) = readOn (Reading.take c r) cs := rfl

/-- From each reading the rest of a text is read to what is matched there: pending digits are
matched once more, and what is pending with letters is a match that goes on. -/
structure ReadsMatches (cs : List Char) : Prop where
  digits : ∀ ds ws, (∀ d ∈ ds, d.isDigit = true) →
    readOn ⟨.digits ds, ws⟩ cs = foundWords (ds.reverse ++ cs) ++ ws
  small : ∀ w ws next, (optional Char.isUpper).match? (cs.dropWhile Char.isLower) = some next →
    readOn ⟨.small w, ws⟩ cs =
      foundWords next.2 ++ (spelled (cs.takeWhile Char.isLower ++ next.1) ++ w) :: ws
  capital : ∀ w ws, readOn ⟨.capital w, ws⟩ cs =
    foundWords (cs.dropWhile Char.isUpper) ++ (spelled (cs.takeWhile Char.isUpper) ++ w) :: ws

namespace ReadsMatches

theorem nil : ReadsMatches [] where
  digits ds ws hds := by
    have hnone : foundWords (ds.reverse ++ []) = foundWords [] :=
      foundWords_of_none (by simpa using hds) (by simp)
    rw [hnone]
    rfl
  small w ws next hnext := by
    cases hnext
    rfl
  capital w ws := rfl

variable (h : ReadsMatches cs)

include h

theorem digits_cons (c : Char) (ds : List Char) (ws : List (List Char))
    (hds : ∀ d ∈ ds, d.isDigit = true) :
    readOn ⟨.digits ds, ws⟩ (c :: cs) = foundWords (ds.reverse ++ c :: cs) ++ ws := by
  have hreverse : ∀ d ∈ ds.reverse, d.isDigit = true := by simpa using hds
  rw [readOn_cons, Reading.take]
  by_cases hlower : c.isLower = true
  · obtain ⟨next, hnext⟩ := exists_match?_optional Char.isUpper (cs.dropWhile Char.isLower)
    rw [if_pos hlower, h.small _ _ _ hnext,
      foundWords_of_match (match?_word_small hreverse hlower hnext) (by simp),
      spelled_append ds.reverse, spelled_cons, spelled_digits hds,
      toLower_eq_self (not_isUpper_of_isLower hlower)]
    simp
  rw [if_neg hlower]
  by_cases hupper : c.isUpper = true
  · rw [if_pos hupper, h.capital,
      foundWords_of_match (match?_word_capital hreverse hupper cs) (by simp), spelled_append,
      spelled_cons, spelled_digits hds]
    simp
  rw [if_neg hupper]
  by_cases hdigit : c.isDigit = true
  · rw [if_pos hdigit, h.digits _ _ (List.forall_mem_cons.mpr ⟨hdigit, hds⟩)]
    simp
  · have hother : ∀ d ∈ (c :: cs).head?, ¬ d.isAlphanum = true := by
      rintro d ⟨⟩
      exact not_isAlphanum_iff.mpr ⟨hlower, hupper, hdigit⟩
    rw [if_neg hdigit, h.digits [] _ (by simp), foundWords_of_none hreverse hother]
    rfl

/-- A word with letters ends before what is no letter, and the search begins anew there. -/
theorem digits_of_not_alpha {c : Char} (hlower : ¬ c.isLower = true) (hupper : ¬ c.isUpper = true)
    (ws : List (List Char)) :
    readOn (if c.isDigit then ⟨.digits [c], ws⟩ else ⟨.digits [], ws⟩) cs =
      foundWords (c :: cs) ++ ws := by
  by_cases hdigit : c.isDigit = true
  · rw [if_pos hdigit, h.digits [c] ws (by simpa using hdigit)]
    rfl
  · have hother : ∀ d ∈ (c :: cs).head?, ¬ d.isAlphanum = true := by
      rintro d ⟨⟩
      exact not_isAlphanum_iff.mpr ⟨hlower, hupper, hdigit⟩
    have hskip : foundWords (c :: cs) = foundWords cs :=
      foundWords_of_none (List.forall_mem_nil _) hother
    rw [if_neg hdigit, h.digits [] ws (by simp), hskip]
    rfl

theorem small_cons (c : Char) (w : List Char) (ws : List (List Char)) (next : List Char × List Char)
    (hnext : (optional Char.isUpper).match? ((c :: cs).dropWhile Char.isLower) = some next) :
    readOn ⟨.small w, ws⟩ (c :: cs) =
      foundWords next.2 ++ (spelled ((c :: cs).takeWhile Char.isLower ++ next.1) ++ w) :: ws := by
  rw [readOn_cons, Reading.take]
  by_cases hlower : c.isLower = true
  · rw [List.dropWhile_cons_of_pos hlower] at hnext
    rw [if_pos hlower, h.small _ _ _ hnext, List.takeWhile_cons_of_pos hlower, List.cons_append,
      spelled_cons, toLower_eq_self (not_isUpper_of_isLower hlower)]
    simp
  rw [List.dropWhile_cons_of_neg hlower] at hnext
  rw [if_neg hlower, List.takeWhile_cons_of_neg hlower]
  by_cases hupper : c.isUpper = true
  · rw [match?_optional_of_pos hupper] at hnext
    cases hnext
    rw [if_pos hupper, h.digits [] _ (by simp)]
    simp [spelled]
  · have hnone : ∀ d ∈ (c :: cs).head?, ¬ d.isUpper = true := by
      rintro d ⟨⟩
      exact hupper
    rw [match?_optional_of_neg hnone] at hnext
    cases hnext
    rw [if_neg hupper]
    exact h.digits_of_not_alpha hlower hupper (w :: ws)

theorem capital_cons (c : Char) (w : List Char) (ws : List (List Char)) :
    readOn ⟨.capital w, ws⟩ (c :: cs) =
      foundWords ((c :: cs).dropWhile Char.isUpper) ++
        (spelled ((c :: cs).takeWhile Char.isUpper) ++ w) :: ws := by
  rw [readOn_cons, Reading.take]
  by_cases hupper : c.isUpper = true
  · have hlower : ¬ c.isLower = true := fun h => not_isUpper_of_isLower h hupper
    rw [if_neg hlower, if_pos hupper, h.capital, List.takeWhile_cons_of_pos hupper,
      List.dropWhile_cons_of_pos hupper, spelled_cons]
    simp
  rw [List.takeWhile_cons_of_neg hupper, List.dropWhile_cons_of_neg hupper]
  by_cases hlower : c.isLower = true
  · -- A small letter begins a match of its own, with nothing pending.
    have hfresh := h.digits_cons c [] (w :: ws) (by simp)
    rw [readOn_cons, Reading.take, if_pos hlower] at hfresh
    rw [if_pos hlower]
    exact hfresh
  · rw [if_neg hlower, if_neg hupper]
    exact h.digits_of_not_alpha hlower hupper (w :: ws)

omit h in
theorem all (cs : List Char) : ReadsMatches cs := by
  induction cs with
  | nil => exact nil
  | cons c cs ih => exact ⟨ih.digits_cons c, ih.small_cons c, ih.capital_cons c⟩

end ReadsMatches

/-- The words of an identifier are the successive matches in it, read from its end. -/
theorem splitChars_eq_matches (cs : List Char) :
    splitChars cs =
      ((wordPattern.successive cs.reverse).map
        fun found => found.reverse.map Char.toLower).reverse := by
  have hread := (ReadsMatches.all cs.reverse).digits [] [] (by simp)
  rw [List.reverse_nil, List.nil_append, List.append_nil, readOn, List.foldl_reverse] at hread
  exact hread

example : wordPattern.successive "2esnopseRPTTHteg".toList =
    ["2esnopseR".toList, "PTTH".toList, "teg".toList] := by decide

end Words

end NameFlow.Vocabulary
