import Mathlib.Data.List.Perm.Subperm
import NameFlow.Proofs.Flow.Convergence
import NameFlow.Proofs.Flow.Emission
import NameFlow.Proofs.Flow.Separation

/-!
# Tags accumulate

A later round meets each step of a module with a larger table and with operands that know at least
as much. Sets may list their values in another order by then, so that the stream of tags is no
prolongation of the earlier one; but each single step emits at least the tags that it has emitted
before, in whatever order, and so does the round.
-/

namespace NameFlow

set_option autoImplicit false

section Lists

variable {α β κ γ : Type}

/-- Elements with different keys go to different counterparts. -/
theorem subperm_flatMap {l : List α} {l' : List β} (key : α → κ) (key' : β → κ)
    {F : α → List γ} {G : β → List γ} (hnodup : (l.map key).Nodup)
    (h : ∀ a ∈ l, ∃ b ∈ l', key' b = key a ∧ (F a).Subperm (G b)) :
    (l.flatMap F).Subperm (l'.flatMap G) := by
  induction l generalizing l' with
  | nil => exact List.nil_subperm
  | cons a l ih =>
    rw [List.map_cons, List.nodup_cons] at hnodup
    rw [List.forall_mem_cons] at h
    obtain ⟨⟨b, hb, hkey, hsub⟩, hrest⟩ := h
    obtain ⟨before, after, rfl⟩ := List.append_of_mem hb
    have hperm : (before ++ b :: after).Perm (b :: (before ++ after)) := List.perm_middle
    have hl : (l.flatMap F).Subperm ((before ++ after).flatMap G) := by
      apply ih hnodup.2
      intro a' ha'
      obtain ⟨b', hb', hkey', hsub'⟩ := hrest a' ha'
      refine ⟨b', ?_, hkey', hsub'⟩
      rcases List.mem_cons.mp (hperm.mem_iff.mp hb') with rfl | hb'
      · exact absurd (List.mem_map.mpr ⟨a', ha', hkey'.symm.trans hkey⟩) hnodup.1
      · exact hb'
    rw [(hperm.flatMap_right G).subperm_left]
    exact hsub.append hl

theorem subperm_flatMap_of_forall₂ {l : List α} {l' : List β} {F : α → List γ} {G : β → List γ}
    (h : List.Forall₂ (fun a b => (F a).Subperm (G b)) l l') :
    (l.flatMap F).Subperm (l'.flatMap G) := by
  induction h with
  | nil => exact List.nil_subperm
  | cons hab _ ih => exact hab.append ih

end Lists

namespace ValueSet

theorem nodup_types (s : ValueSet) : s.types.Nodup := by
  have hsub : ∀ vs : List Value,
      ((vs.filterMap Value.typeName?).map Identity.type).Sublist (vs.map Value.identity) := by
    intro vs
    induction vs with
    | nil => exact .slnil
    | cons v vs ih =>
      cases v with
      | type name => exact ih.cons_cons _
      | function f => exact ih.cons _
  exact (s.nodup.sublist (hsub s.toList)).of_map

theorem nodup_functions (s : ValueSet) :
    (s.functions.map fun f => (f.scopePath, f.name)).Nodup := by
  have hsub : ∀ vs : List Value,
      ((vs.filterMap Value.function?).map fun f => (Value.function f).identity).Sublist
        (vs.map Value.identity) := by
    intro vs
    induction vs with
    | nil => exact .slnil
    | cons v vs ih =>
      cases v with
      | type name => exact ih.cons _
      | function f => exact ih.cons_cons _
  have hnodup := s.nodup.sublist (hsub s.toList)
  have hmap : ((s.functions.map fun f => (f.scopePath, f.name)).map
      fun p => Identity.function p.1 p.2) =
        (s.toList.filterMap Value.function?).map fun f => (Value.function f).identity :=
    List.map_map
  rw [← hmap] at hnodup
  exact hnodup.of_map

end ValueSet

namespace Table

theorem SameShape.symm {t u : Table} (h : t.SameShape u) : u.SameShape t :=
  ⟨h.keys.symm, h.signatures.symm⟩

/-- A table below another one of the same shape. -/
structure Beneath (D : Value → Prop) (t u : Table) : Prop where
  below : t.Below D u
  shape : t.SameShape u

open Flow.Resolution in
/-- What two tables receive keeps one beneath the other, if each inflow has a counterpart. -/
theorem Beneath.absorbs {D : Value → Prop} {s s' q q' : State} {fs gs : List Inflow}
    (h : s.table.Beneath D q.table) (hs : Absorbs s fs s') (hq : Absorbs q gs q')
    (hd : Dominated fs gs) (ha : ∀ f ∈ fs, s.table.Admits f)
    (hf : ∀ f ∈ fs, AllKnown D (some f.values)) (hg : ∀ g ∈ gs, AllKnown D (some g.values)) :
    s'.table.Beneath D q'.table := by
  have hbelow : s.table.Below D q'.table := by
    refine ⟨?_, fun key => ?_, fun f => ?_, h.below.signed, h.below.lower, ?_⟩
    · rw [hq.table]
      exact le_trans h.below.le (le_receiveAll q.table gs)
    · rw [h.below.keys, hq.shape.contains]
    · rw [hq.shape.signaturesOf]
      exact h.below.signatures f
    · rw [hq.table]
      exact h.below.upper.receiveAll hg
  refine ⟨hbelow.absorbs hs hd ?_ ha hf, (hs.shape.symm.trans h.shape).trans hq.shape⟩
  intro g hmem
  rw [hq.table]
  exact (arrived_receiveAll q.table gs hmem).2

end Table

namespace Flow

open Python

namespace Resolution

section Tags

variable {D : Value → Prop} {t u : Table}

theorem argumentTags_subperm (h : t.SameShape u) (key name : String) {v w : Option ValueSet}
    (hv : Lesser D v w) : (argumentTags t key name v).Subperm (argumentTags u key name w) := by
  cases v with
  | none => exact List.nil_subperm
  | some a =>
    obtain ⟨b, rfl, _⟩ := hv.some_right
    rw [argumentTags_congr h]
    exact .refl _

theorem positionalTags_subperm (h : t.SameShape u) (params : List String)
    {args args' : List (Option ValueSet)} (ha : List.Forall₂ (Lesser D) args args') :
    (positionalTags t params args).Subperm (positionalTags u params args') := by
  apply subperm_flatMap_of_forall₂
  refine (forall₂_named params ha).imp ?_
  rintro ⟨key, v⟩ ⟨_, w⟩ ⟨rfl, hv⟩
  exact argumentTags_subperm h key (basename key) hv

theorem keywordTags_subperm (h : t.SameShape u) (params : List String)
    {named named' : List (String × Option ValueSet)}
    (hn : List.Forall₂ (NamedRel (Lesser D)) named named') :
    (keywordTags t params named).Subperm (keywordTags u params named') := by
  apply subperm_flatMap_of_forall₂
  refine hn.imp ?_
  rintro ⟨name, v⟩ ⟨_, w⟩ ⟨rfl, hv⟩
  dsimp only
  cases params.find? (fun key => basename key = name) with
  | none => exact .refl _
  | some key => exact argumentTags_subperm h key name hv

/-- Values of one function are tagged alike: they have one key, one name and one form. -/
theorem functionTags_subperm (hD : Coherent D) (h : t.Beneath D u) {f g : FunctionValue}
    (hf : D (.function f)) (hg : D (.function g)) (hpath : g.scopePath = f.scopePath)
    (hname : g.name = f.name) {args args' : List (Option ValueSet)}
    {named named' : List (String × Option ValueSet)} (ha : List.Forall₂ (Lesser D) args args')
    (hn : List.Forall₂ (NamedRel (Lesser D)) named named') :
    (functionTags t args named f).Subperm (functionTags u args' named' g) := by
  have hreceiving : g.receiving = f.receiving := by
    funext params
    unfold FunctionValue.receiving
    rw [hD g f hg hf hpath hname]
  have hkey : g.key = f.key := by
    unfold FunctionValue.key
    rw [hpath, hname]
  have hsignatures : signatures u g = signatures t f := by
    have hlists : u.signaturesOf g = t.signaturesOf f := by
      rw [h.shape.signaturesOf]
      unfold Table.signaturesOf
      rw [hkey]
    have hsigned := h.below.signed f hf
    rw [signatures_eq hsigned, signatures_eq (hlists ▸ hsigned), hlists]
  unfold functionTags
  rw [hname, hsignatures, hreceiving, List.subperm_cons]
  apply subperm_flatMap_of_forall₂
  rw [List.forall₂_same]
  intro params _
  exact (positionalTags_subperm h.shape _ ha).append (keywordTags_subperm h.shape _ hn)

theorem callTags_subperm (hD : Coherent D) (h : t.Beneath D u) {callee callee' : Option ValueSet}
    {args args' : List (Option ValueSet)} {named named' : List (String × Option ValueSet)}
    (hc : Lesser D callee callee') (ha : List.Forall₂ (Lesser D) args args')
    (hn : List.Forall₂ (NamedRel (Lesser D)) named named') :
    (callTags t callee args named).Subperm (callTags u callee' args' named') := by
  apply List.Subperm.append
  · rw [List.map_eq_flatMap, List.map_eq_flatMap]
    apply subperm_flatMap id id
    · rw [List.map_id]
      exact ValueSet.nodup_types _
    · exact fun type htype => ⟨type, ValueSet.types_subset hc.subset htype, rfl, .refl _⟩
  · apply subperm_flatMap _ (fun g => (g.scopePath, g.name)) (ValueSet.nodup_functions _)
    intro f hf
    obtain ⟨g, hg, hpath, hname⟩ :=
      ValueSet.functions_subset (callTargets_subset h.below.le hc.subset) hf
    have hfD := all_callTargets h.below.lower hc.left _ (ValueSet.mem_functions_iff.mp hf)
    have hgD := all_callTargets h.below.upper hc.right _ (ValueSet.mem_functions_iff.mp hg)
    exact ⟨g, hg, Prod.ext hpath hname, functionTags_subperm hD h hfD hgD hpath hname ha hn⟩

theorem memberTags_subperm (h : t.SameShape u) (role : Role) (name : String)
    {o o' : Option ValueSet} (ho : Lesser D o o') :
    (memberTags t role o name).Subperm (memberTags u role o' name) := by
  apply subperm_flatMap id id
  · rw [List.map_id]
    exact ValueSet.nodup_types _
  · intro type htype
    refine ⟨type, ValueSet.types_subset ho.subset htype, rfl, ?_⟩
    rw [h.contains]

theorem lexicalTags_congr (h : t.SameShape u) : lexicalTags u = lexicalTags t := by
  funext role scopes name
  unfold lexicalTags
  rw [funext h.contains]

theorem bindTags_subperm {scopes : ScopeChain} {name : String} {site site' : Site}
    (hsite : (siteTags t .assigned scopes name site).Subperm
      (siteTags u .assigned scopes name site')) {v w : Option ValueSet} (hv : Lesser D v w) :
    (bindTags t scopes name site v).Subperm (bindTags u scopes name site' w) := by
  cases v with
  | none => exact List.nil_subperm
  | some a =>
    obtain ⟨b, rfl, _⟩ := hv.some_right
    exact hsite

end Tags

/-- One of two resolutions of a module has a table beneath that of the other and has emitted no
tag more often. -/
structure Behind (D : Value → Prop) (s q : State) : Prop where
  table : s.table.Beneath D q.table
  features : s.features.toList.Subperm q.features.toList

/-- A step of both resolutions, whose inflows and tags have counterparts. -/
theorem Behind.step {D : Value → Prop} {s s' q q' : State} {fs gs : List Inflow}
    {tags tags' : List Feature} (h : Behind D s q) (hs : Absorbs s fs s') (hq : Absorbs q gs q')
    (hse : Emits s tags s') (hqe : Emits q tags' q') (hd : Dominated fs gs)
    (htags : tags.Subperm tags') (ha : ∀ f ∈ fs, s.table.Admits f)
    (hf : ∀ f ∈ fs, AllKnown D (some f.values)) (hg : ∀ g ∈ gs, AllKnown D (some g.values)) :
    Behind D s' q' := by
  refine ⟨h.table.absorbs hs hq hd ha hf hg, ?_⟩
  rw [hse.features, hqe.features]
  exact h.features.append htags

/-- A step that sends nothing. -/
theorem Behind.silent {D : Value → Prop} {s s' q q' : State} {tags tags' : List Feature}
    (h : Behind D s q) (hs : Absorbs s [] s') (hq : Absorbs q [] q') (hse : Emits s tags s')
    (hqe : Emits q tags' q') (htags : tags.Subperm tags') : Behind D s' q' := by
  apply h.step hs hq hse hqe (.nil []) htags
  · exact fun f hf => absurd hf List.not_mem_nil
  · exact fun f hf => absurd hf List.not_mem_nil
  · exact fun g hg => absurd hg List.not_mem_nil

end Resolution

open Resolution

theorem behind_simulation {D : Value → Prop} (hD : Coherent D) :
    Simulation (fun _ _ => True) resolution resolution (Behind D) (Lesser D) (fun _ _ => True) where
  unknown := lesser_none D
  join := Lesser.join
  guard := fun _ _ _ _ => trivial
  declareType := fun _ h _ => h
  enterFunction := fun _ h _ => h
  declareFunction := by
    intro c n r r' ps s q _ h hr _
    apply h.step (absorbs_declareFunction s c.leave n r ps)
      (absorbs_declareFunction q c.leave n r' ps) (emits_declareFunction s c.leave n r ps)
      (emits_declareFunction q c.leave n r' ps) (dominated_returnInflows c.leave n hr) (.refl _)
    · exact fun f hf => admits_of_mem_returnInflows hr.informative hf
    · exact fun f hf => (mem_returnInflows hf).2 ▸ hr.left
    · exact fun g hg => (mem_returnInflows hg).2 ▸ hr.right
  useType := fun _ h _ => h.silent (.emit _ _) (.emit _ _) (.emit _ _) (.emit _ _) (.refl _)
  bind := by
    intro c n v v' s q _ h hv _
    have htags : (siteTags s.table .assigned c n .lexical).Subperm
        (siteTags q.table .assigned c n .lexical) := by
      unfold siteTags
      rw [lexicalTags_congr h.table.shape]
    apply h.step (absorbs_bindVariable s c n .lexical v) (absorbs_bindVariable q c n .lexical v')
      (emits_bindVariable s c n .lexical v) (emits_bindVariable q c n .lexical v')
      (dominated_bindInflows h.table.below.keys c n hv) (bindTags_subperm htags hv)
    · exact fun f hf => admits_of_mem_bindInflows hf
    · exact fun f hf => carried_bindInflows hf ▸ hv.left
    · exact fun g hg => carried_bindInflows hg ▸ hv.right
  bindAttribute := by
    intro c n o o' v v' s q _ h ho hv _
    have htags : (siteTags s.table .assigned c n (.attribute o)).Subperm
        (siteTags q.table .assigned c n (.attribute o')) :=
      memberTags_subperm h.table.shape .assigned n ho
    apply h.step (absorbs_bindVariable s c n (.attribute o) v)
      (absorbs_bindVariable q c n (.attribute o') v') (emits_bindVariable s c n (.attribute o) v)
      (emits_bindVariable q c n (.attribute o') v')
      (dominated_bindAttribute h.table.below.keys c n ho hv) (bindTags_subperm htags hv)
    · exact fun f hf => admits_of_mem_bindInflows hf
    · exact fun f hf => carried_bindInflows hf ▸ hv.left
    · exact fun g hg => carried_bindInflows hg ▸ hv.right
  parameter := fun _ h _ => ⟨rfl, h⟩
  read := by
    intro c n s q _ h _
    constructor
    · show Lesser D (readVariable c n .lexical s).1 (readVariable c n .lexical q).1
      rw [readVariable_value, readVariable_value]
      exact lesser_readLexical h.table.below c n
    · apply h.silent (absorbs_readVariable s c n .lexical) (absorbs_readVariable q c n .lexical)
        (emits_readVariable s c n .lexical) (emits_readVariable q c n .lexical)
      unfold siteTags
      rw [lexicalTags_congr h.table.shape]
  readAttribute := by
    intro c n o o' s q _ h ho _
    constructor
    · show Lesser D (readVariable c n (.attribute o) s).1 (readVariable c n (.attribute o') q).1
      rw [readVariable_value, readVariable_value]
      exact lesser_readAttribute h.table.below c n ho
    · apply h.silent (absorbs_readVariable s c n (.attribute o))
        (absorbs_readVariable q c n (.attribute o')) (emits_readVariable s c n (.attribute o))
        (emits_readVariable q c n (.attribute o'))
      exact memberTags_subperm h.table.shape .variableUsed n ho
  call := by
    intro c k ns f f' args args' named named' s q _ h hf hargs hnamed _
    constructor
    · show Lesser D (call f args named s).1 (call f' args' named' q).1
      rw [call_value, call_value]
      exact lesser_callValue h.table.below hf
    · apply h.step (absorbs_call s f args named) (absorbs_call q f' args' named')
        (emits_call s f args named) (emits_call q f' args' named')
        (dominated_callInflows hD h.table.below hf hargs hnamed)
        (callTags_subperm hD h.table hf hargs hnamed)
      · exact fun g hg => admits_of_mem_callInflows hg
      · refine fun g hg => known_of_mem_callInflows (fun a ha => ?_) (fun a ha => ?_) hg
        · obtain ⟨_, _, hlt⟩ := exists_of_forall₂ hargs ha
          exact hlt.left
        · obtain ⟨_, _, _, hlt⟩ := exists_of_forall₂ hnamed ha
          exact hlt.left
      · refine fun g hg => known_of_mem_callInflows (fun a ha => ?_) (fun a ha => ?_) hg
        · obtain ⟨_, _, hlt⟩ := exists_of_forall₂ hargs.flip ha
          exact hlt.right
        · obtain ⟨_, _, _, hlt⟩ := exists_of_forall₂ hnamed.flip ha
          exact hlt.right

/-- A module's resolution on a table beneath another one emits no tag more often, and leaves the
table beneath the other. -/
theorem resolve_behind {D : Value → Prop} (hD : Coherent D) {t u : Table} (h : t.Beneath D u)
    (m : SourceModule) :
    (resolve t m).1.Beneath D (resolve u m).1 ∧ (resolve t m).2.1.Subperm (resolve u m).2.1 := by
  have hrun := (behind_simulation hD).runModule_related (m := m) (a := ⟨t, #[], false⟩)
    (b := ⟨u, #[], false⟩) (fun _ _ => trivial) ⟨h, .refl _⟩ trivial
  exact ⟨hrun.table, hrun.features⟩

theorem resolutionRound_behind {D : Value → Prop} (hD : Coherent D) {t u : Table}
    (h : t.Beneath D u) (ms : List SourceModule) :
    List.Forall₂ List.Subperm (resolutionRound t ms).2.features
      (resolutionRound u ms).2.features := by
  induction ms generalizing t u with
  | nil => exact .nil
  | cons m ms ih =>
    obtain ⟨htable, hfeatures⟩ := resolve_behind hD h m
    exact .cons hfeatures (ih htable)

section Rounds

variable {ms : List SourceModule}

theorem afterRounds_beneath (ms : List SourceModule) {j k : Nat} (h : j ≤ k) :
    (afterRounds ms (definitionRound ∅ ms).1 j).Beneath (OneOf (ms.flatMap declaredFunctions))
      (afterRounds ms (definitionRound ∅ ms).1 k) := by
  have hall : ∀ k, (afterRounds ms (definitionRound ∅ ms).1 k).All
      (OneOf (ms.flatMap declaredFunctions)) := by
    intro k
    obtain ⟨schedule, _, hrounds⟩ := afterRounds_schedule ms (definitionRound ∅ ms).1 k
    rw [hrounds]
    exact resolveAll_all (definitionRound_declared ms).values schedule
  have hstart := afterRounds_grows ms (definitionRound ∅ ms).1 (Nat.zero_le j)
  have hgrows := afterRounds_grows ms (definitionRound ∅ ms).1 h
  refine ⟨⟨hgrows.le, fun key => (hgrows.shape.contains key).symm, fun f => ?_, fun f hf => ?_,
    hall j, hall k⟩, hgrows.shape⟩
  · rw [hgrows.shape.signaturesOf]
    exact fun _ hparams => hparams
  · rw [hstart.shape.signaturesOf]
    exact definitionRound_signed hf

theorem nthRound_behind (hkinds : KindsAgree ms) {j k : Nat} (h : j ≤ k) :
    List.Forall₂ List.Subperm (nthRound ms (definitionRound ∅ ms).1 j).features
      (nthRound ms (definitionRound ∅ ms).1 k).features :=
  resolutionRound_behind hkinds.methodsAgree.coherent (afterRounds_beneath ms h) ms

/-- The same file, in which no tag of a resolution has become less frequent. -/
structure Accumulates (a b : FileFeatures) : Prop where
  path : b.path = a.path
  root : b.root = a.root
  definitions : b.definitions = a.definitions
  resolutions : ∀ tag, a.resolutions.count tag ≤ b.resolutions.count tag

theorem fileFeatures_accumulate {ress ress' : List (List Feature)}
    (h : List.Forall₂ List.Subperm ress ress') (ms : List SourceModule)
    (defs : List (List Feature)) :
    List.Forall₂ Accumulates (fileFeatures ms defs ress) (fileFeatures ms defs ress') := by
  induction h generalizing ms defs with
  | nil =>
    unfold fileFeatures
    rw [List.zip_nil_right, List.zip_nil_right]
    exact .nil
  | cons hres _ ih =>
    cases ms with
    | nil => exact .nil
    | cons m ms =>
      cases defs with
      | nil => exact .nil
      | cons d defs => exact .cons ⟨rfl, rfl, rfl, hres.count_le⟩ (ih ms defs)

/-- From one round to the next, and from a budget to a larger one, no tag of a module becomes less
frequent. -/
theorem tags_accumulate (hkinds : KindsAgree ms) :
    (∀ k, (nthRound ms (definitionRound ∅ ms).1 k).features.length = ms.length ∧
      List.Forall₂ (fun earlier later => ∀ tag, List.count tag earlier ≤ List.count tag later)
        (nthRound ms (definitionRound ∅ ms).1 k).features
        (nthRound ms (definitionRound ∅ ms).1 (k + 1)).features) ∧
    ∀ n m, 1 ≤ n → n ≤ m → (analyze n ms).files.length = ms.length ∧
      List.Forall₂ Accumulates (analyze n ms).files (analyze m ms).files := by
  constructor
  · intro k
    refine ⟨length_resolutionRound _ ms, ?_⟩
    exact (nthRound_behind hkinds (Nat.le_succ k)).imp fun _ _ h => h.count_le
  · intro n m hn hm
    refine ⟨length_files n ms, ?_⟩
    obtain ⟨j, rfl⟩ := Nat.exists_eq_add_of_le' hn
    obtain ⟨k, rfl⟩ := Nat.exists_eq_add_of_le' (hn.trans hm)
    apply fileFeatures_accumulate
    rw [fixpoint_resolutions, fixpoint_resolutions]
    exact nthRound_behind hkinds (Nat.le_of_succ_le_succ hm)

theorem keeping_and_reading_accumulate :
    KindsAgree [keeping, reading] ∧
      List.Forall₂ Accumulates (analyze 1 [keeping, reading]).files
        (analyze 2 [keeping, reading]).files ∧
      (analyze 1 [keeping, reading]).files.map (·.resolutions.count ⟨.assigned, "item"⟩) = [1, 0] ∧
      (analyze 2 [keeping, reading]).files.map (·.resolutions.count ⟨.assigned, "item"⟩) =
        [2, 0] := by
  have hk : KindsAgree [keeping, reading] := by decide
  refine ⟨hk, ?_, by decide +kernel, by decide +kernel⟩
  exact ((tags_accumulate hk).2 1 2 (by decide) (by decide)).2

end Rounds

end Flow

end NameFlow
