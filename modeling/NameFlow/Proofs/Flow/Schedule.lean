import NameFlow.Proofs.Flow.Declaration

/-!
# Any order of resolutions leads to the same table

Resolutions of single modules may follow each other in any order and any number. What they
reach stays below every table that no resolution changes any more, so that two schedules that
have both come to rest have found the same values.
-/

namespace NameFlow.Flow

set_option autoImplicit false

open Python

/-- Functions declared under one path and name are declared in scopes of one kind. -/
def KindsAgree (ms : List SourceModule) : Prop :=
  ∀ f ∈ ms.flatMap declaredFunctions, ∀ g ∈ ms.flatMap declaredFunctions,
    f.scopePath = g.scopePath → f.name = g.name → f.scopeKind = g.scopeKind

instance (ms : List SourceModule) : Decidable (KindsAgree ms) :=
  inferInstanceAs (Decidable (∀ f ∈ _, ∀ g ∈ _, _ → _ → _))

/-- Functions declared under one path and name are all methods, or none of them is. -/
def MethodsAgree (ms : List SourceModule) : Prop :=
  ∀ f ∈ ms.flatMap declaredFunctions, ∀ g ∈ ms.flatMap declaredFunctions,
    f.scopePath = g.scopePath → f.name = g.name → f.isMethod = g.isMethod

instance (ms : List SourceModule) : Decidable (MethodsAgree ms) :=
  inferInstanceAs (Decidable (∀ f ∈ _, ∀ g ∈ _, _ → _ → _))

theorem KindsAgree.methodsAgree {ms : List SourceModule} (h : KindsAgree ms) : MethodsAgree ms := by
  intro f hf g hg hpath hname
  unfold FunctionValue.isMethod
  rw [h f hf g hg hpath hname]

theorem MethodsAgree.coherent {ms : List SourceModule} (h : MethodsAgree ms) :
    Coherent (OneOf (ms.flatMap declaredFunctions)) := fun f g hf hg => h f hf g hg

/-- Resolves modules one after another. -/
def resolveAll (t : Table) (schedule : List SourceModule) : Table :=
  schedule.foldl (fun t m => (resolve t m).1) t

/-- No module's resolution changes the table. -/
def Settled (ms : List SourceModule) (t : Table) : Prop := ∀ m ∈ ms, (resolve t m).1 = t

theorem settled_iff_unchanged {ms : List SourceModule} {t : Table} :
    Settled ms t ↔ ∀ m ∈ ms, (resolve t m).2.2 = false :=
  forall₂_congr fun m _ => (resolve_changed_eq_false_iff t m).symm

theorem Settled.satisfies {ms : List SourceModule} {t : Table} (h : Settled ms t) :
    ∀ m ∈ ms, Satisfies t m := fun m hm =>
  (resolve_unchanged_iff t m).mp ((resolve_changed_eq_false_iff t m).mpr (h m hm))

section Schedules

variable {t u : Table} {D : Value → Prop}

theorem resolveAll_grows (t : Table) (schedule : List SourceModule) :
    t.Grows (resolveAll t schedule) := by
  induction schedule generalizing t with
  | nil => exact .refl t
  | cons m ms ih => exact (resolve_grows t m).trans (ih (resolve t m).1)

theorem resolveAll_all (h : t.All D) (schedule : List SourceModule) :
    (resolveAll t schedule).All D := by
  induction schedule generalizing t with
  | nil => exact h
  | cons m ms ih => exact ih (resolve_all h m)

theorem resolveAll_below (hD : Coherent D) {schedule : List SourceModule} (h : t.Below D u)
    (hu : ∀ m ∈ schedule, Satisfies u m) : (resolveAll t schedule).Below D u := by
  induction schedule generalizing t with
  | nil => exact h
  | cons m ms ih =>
    rw [List.forall_mem_cons] at hu
    exact ih (resolve_below hD h hu.1) hu.2

end Schedules

section Definitions

variable {ms : List SourceModule}

theorem definitionRound_declared (ms : List SourceModule) :
    Entered (ms.flatMap declaredFunctions) ∅ (definitionRound ∅ ms).1
      (ms.flatMap declaredFunctions) :=
  definitionRound_entered (fun m hm _ hf => List.mem_flatMap.mpr ⟨m, hm, hf⟩) (Table.all_empty _)

theorem definitionRound_signed {f : FunctionValue} (hf : f ∈ ms.flatMap declaredFunctions) :
    (definitionRound ∅ ms).1.signaturesOf f ≠ [] :=
  List.ne_nil_of_mem
    (((definitionRound_declared ms).signatures f f.params).mpr (Or.inr ⟨f, hf, rfl, rfl⟩))

/-- The definitions are below whatever a schedule makes of them. -/
theorem definitionRound_below (ms schedule : List SourceModule) :
    (definitionRound ∅ ms).1.Below (OneOf (ms.flatMap declaredFunctions))
      (resolveAll (definitionRound ∅ ms).1 schedule) := by
  have hgrows := resolveAll_grows (definitionRound ∅ ms).1 schedule
  have hvalues := (definitionRound_declared ms).values
  refine ⟨hgrows.le, fun key => (hgrows.shape.contains key).symm, fun f => ?_,
    fun f hf => definitionRound_signed hf, hvalues, resolveAll_all hvalues schedule⟩
  rw [hgrows.shape.signaturesOf]
  exact fun _ h => h

end Definitions

/-- Two schedules that start on the definitions and come to rest have found the same values. -/
theorem schedules_include_each_other {ms s s' : List SourceModule} (hk : KindsAgree ms)
    (hs : ∀ m ∈ s, m ∈ ms) (hs' : ∀ m ∈ s', m ∈ ms)
    (hend : Settled ms (resolveAll (definitionRound ∅ ms).1 s))
    (hend' : Settled ms (resolveAll (definitionRound ∅ ms).1 s')) :
    (resolveAll (definitionRound ∅ ms).1 s).includes (resolveAll (definitionRound ∅ ms).1 s') ∧
      (resolveAll (definitionRound ∅ ms).1 s').includes
        (resolveAll (definitionRound ∅ ms).1 s) := by
  have hD := hk.methodsAgree.coherent
  have hle : ∀ {a b : List SourceModule}, (∀ m ∈ a, m ∈ ms) →
      Settled ms (resolveAll (definitionRound ∅ ms).1 b) →
      resolveAll (definitionRound ∅ ms).1 a ≤ resolveAll (definitionRound ∅ ms).1 b := by
    intro a b ha hb
    have hsat := hb.satisfies
    exact (resolveAll_below hD (definitionRound_below ms b) fun m hm => hsat m (ha m hm)).le
  exact ⟨Table.includes_iff.mpr (hle hs' hend), Table.includes_iff.mpr (hle hs hend')⟩

/-- A class whose constructor keeps its argument, and a function that hands its own on. -/
def keeping : SourceModule :=
  ⟨"store.py", "store",
    [.classDef "Store" []
      [.functionDef "__init__" ⟨[⟨"self", none, none⟩, ⟨"item", none, none⟩], none, [], none⟩ none
        [.assign [.attribute (.name "self") "item"] (.name "item")]],
     .functionDef "pass_on" ⟨[⟨"x", none, none⟩], none, [], none⟩ none [.return (some (.name "x"))],
     .assign [.name "kept"] (.call (.name "pass_on") [.call (.name "Store") [.name "Item"] []] []),
     .classDef "Item" [] []]⟩

/-- A class of the same name, with a method that reads the attribute. -/
def reading : SourceModule :=
  ⟨"read.py", "read",
    [.classDef "Store" []
      [.functionDef "get" ⟨[⟨"self", none, none⟩], none, [], none⟩ none
        [.return (some (.attribute (.name "self") "item"))]],
     .assign [.name "got"] (.call (.attribute (.call (.name "Store") [] []) "get") [] [])]⟩

theorem keeping_and_reading_schedules :
    KindsAgree [keeping, reading] ∧
    (resolveAll (definitionRound ∅ [keeping, reading]).1
        [reading, keeping, keeping, keeping, reading, reading]).includes
      (resolveAll (definitionRound ∅ [keeping, reading]).1
        [keeping, reading, keeping, reading, keeping, reading]) := by
  have hk : KindsAgree [keeping, reading] := by decide
  refine ⟨hk, (schedules_include_each_other hk ?_ ?_ ?_ ?_).1⟩
  · simp
  · simp
  · exact settled_iff_unchanged.mpr (by decide +kernel)
  · exact settled_iff_unchanged.mpr (by decide +kernel)

end NameFlow.Flow
