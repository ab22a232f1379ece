import Mathlib.Data.List.Infix
import NameFlow.Proofs.OrderedMap
import NameFlow.Proofs.Vocabulary.PhraseKey

/-!
# Where runs of words stand

A run may stand at several places: in several lists of words, and in one list several times. The
runs of lists are enumerated by the list they stand in, then by where they start, then by length,
and listed without repetition they come in the order of their first places.
-/

namespace NameFlow.Vocabulary

set_option autoImplicit false

/-- A stretch of a list of words. -/
structure Place where
  /-- Which of several lists it is in. -/
  source : Nat
  start : Nat
  length : Nat
deriving DecidableEq, Repr

/-- By the list, then by the start, then by the length. -/
def Place.Before (p q : Place) : Prop :=
  p.source < q.source ∨ p.source = q.source ∧
    (p.start < q.start ∨ p.start = q.start ∧ p.length < q.length)

variable {α : Type} {ws run : List α} {texts : List (List α)} {p : Place}

/-- The run is what stands at the place, and it is not empty. -/
structure StandsAt (texts : List (List α)) (run : List α) (p : Place) : Prop where
  ne_nil : run ≠ []
  length_eq : p.length = run.length
  stands : ∃ ws, texts[p.source]? = some ws ∧ run <+: ws.drop p.start

/-- The first place of one run is before every place of another. -/
def FirstBefore (texts : List (List α)) (v w : List α) : Prop :=
  ∃ p, StandsAt texts v p ∧ ∀ q, StandsAt texts w q → p.Before q

/-- The runs of a list of words with their places, if the list starts at `start`. -/
def placesFrom (source start : Nat) : List α → List (Place × List α)
  | [] => []
  | w :: ws =>
    (initialRuns (w :: ws)).map (fun run => (⟨source, start, run.length⟩, run)) ++
      placesFrom source (start + 1) ws

/-- The runs of lists with their places, if the first list has the number `source`. -/
def places (source : Nat) : List (List α) → List (Place × List α)
  | [] => []
  | ws :: texts => placesFrom source 0 ws ++ places (source + 1) texts

section Enumeration

theorem map_placesFrom (source start : Nat) (ws : List α) :
    (placesFrom source start ws).map Prod.snd = runs ws := by
  induction ws generalizing start with
  | nil => rfl
  | cons w ws ih =>
    rw [placesFrom, List.map_append, List.map_map, ih, runs]
    exact congrArg (· ++ runs ws) (List.map_id _)

theorem map_places (source : Nat) (texts : List (List α)) :
    (places source texts).map Prod.snd = texts.flatMap runs := by
  induction texts generalizing source with
  | nil => rfl
  | cons ws texts ih => rw [places, List.map_append, map_placesFrom, ih, List.flatMap_cons]

theorem mem_placesFrom {source start : Nat} :
    (p, run) ∈ placesFrom source start ws ↔
      run ≠ [] ∧ p.length = run.length ∧ p.source = source ∧ start ≤ p.start ∧
        run <+: ws.drop (p.start - start) := by
  induction ws generalizing start with
  | nil => simp +contextual [placesFrom]
  | cons w ws ih =>
    rw [placesFrom, List.mem_append, List.mem_map, ih]
    constructor
    · rintro (⟨run', hrun, heq⟩ | ⟨hne, hlength, hsource, hstart, hrun⟩)
      · obtain ⟨rfl, rfl⟩ := Prod.mk.inj heq
        obtain ⟨hne, hprefix⟩ := mem_initialRuns.mp hrun
        refine ⟨hne, rfl, rfl, Nat.le_refl _, ?_⟩
        rw [Nat.sub_self]
        exact hprefix
      · have hdrop : p.start - start = p.start - (start + 1) + 1 := by omega
        refine ⟨hne, hlength, hsource, by omega, ?_⟩
        rw [hdrop]
        exact hrun
    · rintro ⟨hne, hlength, hsource, hstart, hrun⟩
      by_cases heq : p.start = start
      · rw [heq, Nat.sub_self] at hrun
        refine Or.inl ⟨run, mem_initialRuns.mpr ⟨hne, hrun⟩, ?_⟩
        obtain ⟨source', start', length⟩ := p
        subst hsource heq hlength
        rfl
      · have hdrop : p.start - start = p.start - (start + 1) + 1 := by omega
        rw [hdrop] at hrun
        exact Or.inr ⟨hne, hlength, hsource, by omega, hrun⟩

theorem mem_places {source : Nat} :
    (p, run) ∈ places source texts ↔
      source ≤ p.source ∧ StandsAt texts run ⟨p.source - source, p.start, p.length⟩ := by
  induction texts generalizing source with
  | nil =>
    constructor
    · intro h
      exact absurd h List.not_mem_nil
    · rintro ⟨-, h⟩
      obtain ⟨ws, hws, -⟩ := h.stands
      cases hws
  | cons ws texts ih =>
    rw [places, List.mem_append, mem_placesFrom, ih]
    constructor
    · rintro (⟨hne, hlength, hsource, -, hrun⟩ | ⟨hsource, hne, hlength, ws', hws, hrun⟩)
      · have hindex : p.source - source = 0 := by omega
        refine ⟨by omega, hne, hlength, ws, ?_, hrun⟩
        rw [hindex, List.getElem?_cons_zero]
      · have hindex : p.source - source = p.source - (source + 1) + 1 := by omega
        refine ⟨by omega, hne, hlength, ws', ?_, hrun⟩
        rw [hindex, List.getElem?_cons_succ]
        exact hws
    · rintro ⟨hsource, hne, hlength, ws', hws, hrun⟩
      by_cases heq : p.source = source
      · rw [heq, Nat.sub_self, List.getElem?_cons_zero] at hws
        obtain rfl := Option.some.inj hws
        exact Or.inl ⟨hne, hlength, heq, Nat.zero_le _, hrun⟩
      · have hindex : p.source - source = p.source - (source + 1) + 1 := by omega
        rw [hindex, List.getElem?_cons_succ] at hws
        exact Or.inr ⟨by omega, hne, hlength, ws', hws, hrun⟩

/-- All places are enumerated. -/
theorem mem_places_zero : (p, run) ∈ places 0 texts ↔ StandsAt texts run p := by
  rw [mem_places, Nat.sub_zero]
  exact ⟨fun h => h.2, fun h => ⟨Nat.zero_le _, h⟩⟩

end Enumeration

section Order

theorem pairwise_initialRuns (ws : List α) :
    (initialRuns ws).Pairwise fun v w => v.length < w.length := by
  induction ws with
  | nil => exact .nil
  | cons w ws ih =>
    rw [initialRuns, List.pairwise_cons, List.pairwise_map]
    constructor
    · intro run hrun
      obtain ⟨rest, hrest, rfl⟩ := List.mem_map.mp hrun
      have hpos := List.length_pos_iff.mpr (mem_initialRuns.mp hrest).1
      simp only [List.length_cons, List.length_nil]
      omega
    · apply ih.imp
      intro v w hlt
      simp only [List.length_cons]
      omega

theorem pairwise_placesFrom (source start : Nat) (ws : List α) :
    (placesFrom source start ws).Pairwise fun a b => a.1.Before b.1 := by
  induction ws generalizing start with
  | nil => exact .nil
  | cons w ws ih =>
    rw [placesFrom, List.pairwise_append, List.pairwise_map]
    refine ⟨?_, ih (start + 1), ?_⟩
    · apply (pairwise_initialRuns (w :: ws)).imp
      intro v w hlt
      exact Or.inr ⟨rfl, Or.inr ⟨rfl, hlt⟩⟩
    · intro a ha b hb
      obtain ⟨run, -, rfl⟩ := List.mem_map.mp ha
      obtain ⟨-, -, hsource, hstart, -⟩ := mem_placesFrom.mp hb
      exact Or.inr ⟨hsource.symm, Or.inl hstart⟩

theorem pairwise_places (source : Nat) (texts : List (List α)) :
    (places source texts).Pairwise fun a b => a.1.Before b.1 := by
  induction texts generalizing source with
  | nil => exact .nil
  | cons ws texts ih =>
    rw [places, List.pairwise_append]
    refine ⟨pairwise_placesFrom source 0 ws, ih (source + 1), ?_⟩
    intro a ha b hb
    obtain ⟨-, -, hsource, -⟩ := mem_placesFrom.mp ha
    obtain ⟨hlt, -⟩ := mem_places.mp hb
    exact Or.inl (by omega)

/-- What occurs in an ordered list comes, without repetition, in the order of first occurrences. -/
theorem pairwise_eraseDups {β κ : Type} [DecidableEq κ] {R : β → β → Prop} {l : List (β × κ)}
    (h : l.Pairwise fun a b => R a.1 b.1) :
    (l.map Prod.snd).eraseDups.Pairwise fun v w => ∃ b, (b, v) ∈ l ∧ ∀ c, (c, w) ∈ l → R b c := by
  induction l using List.reverseRecOn with
  | nil => exact .nil
  | append_singleton l e ih =>
    rw [List.pairwise_append] at h
    obtain ⟨hl, -, hlast⟩ := h
    rw [List.map_append, List.map_singleton, OrderedMap.eraseDups_concat]
    have hold : (l.map Prod.snd).eraseDups.Pairwise fun v w =>
        ∃ b, (b, v) ∈ l ++ [e] ∧ ∀ c, (c, w) ∈ l ++ [e] → R b c := by
      apply (ih hl).imp
      rintro v w ⟨b, hb, hbefore⟩
      refine ⟨b, List.mem_append_left _ hb, fun c hc => ?_⟩
      rcases List.mem_append.mp hc with hc | hc
      · exact hbefore c hc
      · exact hlast _ hb _ hc
    split
    · exact hold
    · rename_i hnew
      rw [List.pairwise_append]
      refine ⟨hold, List.pairwise_singleton _ _, ?_⟩
      intro v hv w hw
      obtain rfl := List.mem_singleton.mp hw
      obtain ⟨a, ha, rfl⟩ := List.mem_map.mp (List.mem_eraseDups.mp hv)
      refine ⟨a.1, List.mem_append_left _ ha, fun c hc => ?_⟩
      rcases List.mem_append.mp hc with hc | hc
      · exact absurd (List.mem_map_of_mem hc) hnew
      · exact hlast _ ha _ hc

theorem firstBefore_iff {v w : List α} :
    FirstBefore texts v w ↔
      ∃ p, (p, v) ∈ places 0 texts ∧ ∀ q, (q, w) ∈ places 0 texts → p.Before q := by
  simp only [mem_places_zero]
  rfl

end Order

end NameFlow.Vocabulary
