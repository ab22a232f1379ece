import NameFlow.Flow.Analysis
import NameFlow.Proofs.Flow.Locality
import NameFlow.Proofs.Flow.Rounds
import NameFlow.Proofs.Scope

/-!
# Unrelated files

A module's scopes give keys under its root and, for the members of classes, under the classes'
names. If no key can belong to both of two groups of modules, either group owns a part of the
table, and the analysis of both together goes on in the two parts side by side. Rounds that only
the other group needs change neither a group's table nor what is found in its files.
-/

namespace NameFlow.Flow

set_option autoImplicit false

open Python

section Keys

/-- The key starts with the root and a dot. -/
def Under (root key : String) : Prop := (root ++ ".").toList <+: key.toList

instance (root key : String) : Decidable (Under root key) :=
  inferInstanceAs (Decidable (_ <+: _))

theorem under_append (root name : String) : Under root (root ++ "." ++ name) :=
  toList_prefix_append (root ++ ".") name

theorem under_memberKey (type name : String) : Under ("+" ++ type) (memberKey type name) :=
  under_append ("+" ++ type) name

theorem under_or_under {r r' key : String} (h : Under r key) (h' : Under r' key) :
    Under r (r' ++ ".") ∨ Under r' (r ++ ".") := List.prefix_or_prefix_of_prefix h h'

theorem Rooted.exists_nested {root : String} {c : ScopeChain} (h : Rooted root c) :
    ∃ opened, c = .nested root opened := by
  obtain ⟨inner, hinner⟩ := h
  refine ⟨inner.reverse, ScopeChain.eq_of_scopes ?_⟩
  rw [ScopeChain.scopes_nested, List.reverse_reverse, hinner]

theorem under_of_mem_lexicalKeys {root name key : String} {c : ScopeChain} (h : Rooted root c)
    (hk : key ∈ c.lexicalKeys name) : Under root key := by
  obtain ⟨opened, rfl⟩ := h.exists_nested
  exact ScopeChain.root_dot_prefix_lexicalKey hk

theorem toList_member (type : String) :
    ("+" ++ type ++ ".").toList = ('+' :: type.toList) ++ ['.'] := by
  rw [String.toList_append, String.toList_append]
  rfl

/-- A root that does not start with a plus sign has no member keys under it. -/
theorem not_under_of_member {root type key : String} (hroot : root.toList.head? ≠ some '+')
    (hkey : Under ("+" ++ type) key) : ¬ Under root key := by
  intro h
  unfold Under at h hkey
  rw [toList_member] at hkey
  obtain ⟨rest, hrest⟩ := hkey
  rw [← hrest] at h
  exact not_prefix_plus hroot _ h

theorem takeWhile_dotless {a l : List Char} (ha : '.' ∉ a) (h : a ++ ['.'] <+: l) :
    l.takeWhile (· != '.') = a := by
  obtain ⟨rest, rfl⟩ := h
  have hall : ∀ c ∈ a, (c != '.') = true := by
    intro c hc
    rw [bne_iff_ne]
    rintro rfl
    exact ha hc
  rw [List.append_assoc, List.takeWhile_append_of_pos hall]
  exact List.append_nil a

/-- Two names without a dot that have a member key in common are the same. -/
theorem eq_of_under_members {type type' key : String} (ht : '.' ∉ type.toList)
    (ht' : '.' ∉ type'.toList) (h : Under ("+" ++ type) key) (h' : Under ("+" ++ type') key) :
    type = type' := by
  unfold Under at h h'
  rw [toList_member] at h h'
  have hdot : ∀ {name : String}, '.' ∉ name.toList → '.' ∉ '+' :: name.toList := by
    intro name hname hmem
    rcases List.mem_cons.mp hmem with heq | hmem
    · exact absurd heq (by decide)
    · exact hname hmem
  have hsame := (takeWhile_dotless (hdot ht) h).symm.trans (takeWhile_dotless (hdot ht') h')
  exact String.toList_injective (List.cons.inj hsame).2

end Keys

section Groups

/-- A key under the root of one of the modules, or a member key of a class that one of them
declares. -/
def owned (ms : List SourceModule) (key : String) : Bool :=
  decide ((∃ m ∈ ms, Under m.root key) ∨
    ∃ name ∈ ms.flatMap declaredClasses, Under ("+" ++ name) key)

/-- No key can belong to both groups of modules. Whose a key is can be told from the root or the
class that it starts with, so that of the names in the trees only those of classes need to have
no dot. -/
structure Apart (ms₁ ms₂ : List SourceModule) : Prop where
  dotless : ∀ name ∈ (ms₁ ++ ms₂).flatMap declaredClasses, '.' ∉ name.toList
  plain : ∀ m ∈ ms₁ ++ ms₂, m.root.toList.head? ≠ some '+'
  roots : ∀ m₁ ∈ ms₁, ∀ m₂ ∈ ms₂,
    ¬ Under m₁.root (m₂.root ++ ".") ∧ ¬ Under m₂.root (m₁.root ++ ".")
  classes : ∀ name ∈ ms₁.flatMap declaredClasses, name ∉ ms₂.flatMap declaredClasses

instance (ms₁ ms₂ : List SourceModule) : Decidable (Apart ms₁ ms₂) :=
  decidable_of_iff (_ ∧ _ ∧ _ ∧ _)
    ⟨fun ⟨hdotless, hplain, hroots, hclasses⟩ => ⟨hdotless, hplain, hroots, hclasses⟩,
      fun h => ⟨h.dotless, h.plain, h.roots, h.classes⟩⟩

variable {ms ms₁ ms₂ : List SourceModule} {key : String}

theorem Apart.symm (h : Apart ms₁ ms₂) : Apart ms₂ ms₁ where
  dotless := by
    intro name hname
    rw [List.flatMap_append, List.mem_append, or_comm, ← List.mem_append,
      ← List.flatMap_append] at hname
    exact h.dotless name hname
  plain := by
    intro m hm
    rw [List.mem_append, or_comm, ← List.mem_append] at hm
    exact h.plain m hm
  roots := fun m₂ hm₂ m₁ hm₁ => (h.roots m₁ hm₁ m₂ hm₂).symm
  classes := fun name hname hname' => h.classes name hname' hname

theorem Apart.disjoint (h : Apart ms₁ ms₂) (key : String) (hkey : owned ms₁ key = true) :
    owned ms₂ key = false := by
  have hplain₁ := fun m hm => h.plain m (List.mem_append_left ms₂ hm)
  have hplain₂ := fun m hm => h.plain m (List.mem_append_right ms₁ hm)
  have hdotless := h.dotless
  rw [List.flatMap_append] at hdotless
  refine decide_eq_false ?_
  rcases of_decide_eq_true hkey with ⟨m₁, hm₁, hu₁⟩ | ⟨name₁, hn₁, hu₁⟩
  · rintro (⟨m₂, hm₂, hu₂⟩ | ⟨name₂, hn₂, hu₂⟩)
    · rcases under_or_under hu₁ hu₂ with hu | hu
      · exact (h.roots m₁ hm₁ m₂ hm₂).1 hu
      · exact (h.roots m₁ hm₁ m₂ hm₂).2 hu
    · exact not_under_of_member (hplain₁ m₁ hm₁) hu₂ hu₁
  · rintro (⟨m₂, hm₂, hu₂⟩ | ⟨name₂, hn₂, hu₂⟩)
    · exact not_under_of_member (hplain₂ m₂ hm₂) hu₁ hu₂
    · obtain rfl := eq_of_under_members (hdotless name₁ (List.mem_append_left _ hn₁))
        (hdotless name₂ (List.mem_append_right _ hn₂)) hu₁ hu₂
      exact h.classes name₁ hn₁ hn₂

theorem owned_memberKey {type : String} (h : type ∈ ms.flatMap declaredClasses) (name : String) :
    owned ms (memberKey type name) = true :=
  decide_eq_true (Or.inr ⟨type, h, under_memberKey type name⟩)

theorem owns_of_mem_moduleVisits {m : SourceModule} (hm : m ∈ ms) :
    ∀ v ∈ moduleVisits m, Owns (owned ms) v.1 := by
  intro v hv
  refine ⟨fun name key hkey => ?_, fun s hs hkind name => ?_⟩
  · have hrooted := rooted_of_mem_moduleVisits v hv
    exact decide_eq_true (Or.inl ⟨m, hm, under_of_mem_lexicalKeys hrooted hkey⟩)
  · have hclass := classesIn_of_mem_moduleVisits v hv s hs hkind
    exact owned_memberKey (List.mem_flatMap.mpr ⟨m, hm, hclass⟩) name

theorem owned_of_declared {f : FunctionValue} (hf : f ∈ ms.flatMap declaredFunctions) :
    owned ms f.key = true ∧ ∀ key ∈ f.params, owned ms key = true := by
  obtain ⟨m, hm, hf⟩ := List.mem_flatMap.mp hf
  obtain ⟨⟨c, n, hvisit, hvalue⟩, hparams⟩ := visits_of_declared hf
  constructor
  · rw [hvalue]
    exact (owns_of_mem_moduleVisits hm _ hvisit).leave.key n
  · intro key hkey
    obtain ⟨c, n, hvisit, rfl⟩ := hparams key hkey
    exact (owns_of_mem_moduleVisits hm _ hvisit).key n

/-- What modules define leads to their own keys only. -/
theorem confined_definitionRound (ms : List SourceModule) :
    Confined (owned ms) (definitionRound ∅ ms).1 where
  values := by
    intro slot v hv
    cases v with
    | type name => exact owned_memberKey (definitionRound_types ms slot _ hv)
    | function f => exact owned_of_declared ((definitionRound_declared ms).values slot _ hv)
  signatures := by
    intro f params hparams
    rcases ((definitionRound_declared ms).signatures f params).mp hparams with h | ⟨g, hg, _, rfl⟩
    · exact absurd h List.not_mem_nil
    · exact (owned_of_declared hg).2

end Groups

section Rounds

variable {p q : String → Bool} {ms : List SourceModule}

theorem definitionRound_restrict {classes : List String}
    (hd : ∀ key, p key = true → q key = false)
    (hp : ∀ n ∈ classes, ∀ name, p (memberKey n name) = true)
    (hms : ∀ m ∈ ms, ∀ v ∈ moduleVisits m, Owns p v.1)
    (hn : ∀ m ∈ ms, ∀ n ∈ declaredClasses m, n ∈ classes) {t : Table}
    (ht : (t.restrict p).All (ClassOf classes)) :
    definitionRound (t.restrict p) ms =
        ((definitionRound t ms).1.restrict p, (definitionRound t ms).2) ∧
      (definitionRound t ms).1.restrict q = t.restrict q := by
  induction ms generalizing t with
  | nil => exact ⟨rfl, rfl⟩
  | cons m ms ih =>
    rw [List.forall_mem_cons] at hms hn
    obtain ⟨hm, hother⟩ := define_restrict hd hp hms.1 hn.1 ht
    have hclasses := define_classes hn.1 ht
    rw [hm] at hclasses
    obtain ⟨hrest, hother'⟩ := ih hms.2 hn.2 hclasses
    refine ⟨?_, hother'.trans hother⟩
    unfold definitionRound
    rw [hm]
    dsimp only
    rw [hrest]

theorem resolutionRound_restrict (hd : ∀ key, p key = true → q key = false)
    (hms : ∀ m ∈ ms, ∀ v ∈ moduleVisits m, Owns p v.1) {t : Table}
    (ht : Confined p (t.restrict p)) :
    resolutionRound (t.restrict p) ms =
        ((resolutionRound t ms).1.restrict p, (resolutionRound t ms).2) ∧
      (resolutionRound t ms).1.restrict q = t.restrict q := by
  induction ms generalizing t with
  | nil => exact ⟨rfl, rfl⟩
  | cons m ms ih =>
    rw [List.forall_mem_cons] at hms
    obtain ⟨hm, hother⟩ := resolve_restrict hd hms.1 ht
    have hconfined := ht.resolve m
    rw [hm] at hconfined
    obtain ⟨hrest, hother'⟩ := ih hms.2 hconfined
    refine ⟨?_, hother'.trans hother⟩
    unfold resolutionRound
    rw [hm]
    dsimp only
    rw [hrest]

theorem definitionRound_append (t : Table) (ms₁ ms₂ : List SourceModule) :
    definitionRound t (ms₁ ++ ms₂) =
      ((definitionRound (definitionRound t ms₁).1 ms₂).1,
        (definitionRound t ms₁).2 ++ (definitionRound (definitionRound t ms₁).1 ms₂).2) := by
  induction ms₁ generalizing t with
  | nil => rfl
  | cons m ms₁ ih =>
    rw [List.cons_append, definitionRound, definitionRound]
    dsimp only
    rw [ih (define t m).1]
    rfl

theorem resolutionRound_append (t : Table) (ms₁ ms₂ : List SourceModule) :
    (resolutionRound t (ms₁ ++ ms₂)).1 = (resolutionRound (resolutionRound t ms₁).1 ms₂).1 ∧
      (resolutionRound t (ms₁ ++ ms₂)).2.features =
        (resolutionRound t ms₁).2.features ++
          (resolutionRound (resolutionRound t ms₁).1 ms₂).2.features := by
  induction ms₁ generalizing t with
  | nil => exact ⟨rfl, rfl⟩
  | cons m ms₁ ih =>
    obtain ⟨htable, hfeatures⟩ := ih (resolve t m).1
    exact ⟨htable, congrArg (List.cons (resolve t m).2.1) hfeatures⟩

theorem Confined.resolutionRound {t : Table} (h : Confined p t) (ms : List SourceModule) :
    Confined p (resolutionRound t ms).1 := by
  induction ms generalizing t with
  | nil => exact h
  | cons m ms ih => exact ih (h.resolve m)

theorem Confined.afterRounds {t : Table} (h : Confined p t) (ms : List SourceModule) (k : Nat) :
    Confined p (afterRounds ms t k) := by
  induction k with
  | zero => exact h
  | succ k ih => exact ih.resolutionRound ms

end Rounds

section Joint

variable {ms ms₁ ms₂ : List SourceModule} {q : String → Bool} {t : Table}

theorem definitionRound_owned (hd : ∀ key, owned ms key = true → q key = false)
    (ht : t.restrict (owned ms) = ∅) :
    definitionRound ∅ ms =
        ((definitionRound t ms).1.restrict (owned ms), (definitionRound t ms).2) ∧
      (definitionRound t ms).1.restrict q = t.restrict q := by
  have hempty : (t.restrict (owned ms)).All (ClassOf (ms.flatMap declaredClasses)) := by
    rw [ht]
    exact Table.all_empty _
  have hround := definitionRound_restrict hd (fun _ => owned_memberKey)
    (fun _ hm => owns_of_mem_moduleVisits hm)
    (fun m hm n hn => List.mem_flatMap.mpr ⟨m, hm, hn⟩) hempty
  rwa [ht] at hround

/-- The definitions of both groups are those of either one under its own keys. -/
theorem Apart.definitionRound (h : Apart ms₁ ms₂) :
    (definitionRound ∅ (ms₁ ++ ms₂)).1.restrict (owned ms₁) = (definitionRound ∅ ms₁).1 ∧
      (definitionRound ∅ (ms₁ ++ ms₂)).1.restrict (owned ms₂) = (definitionRound ∅ ms₂).1 ∧
      (definitionRound ∅ (ms₁ ++ ms₂)).2 =
        (definitionRound ∅ ms₁).2 ++ (definitionRound ∅ ms₂).2 := by
  obtain ⟨hfirst, hnone⟩ := definitionRound_owned h.disjoint (t := ∅) rfl
  obtain ⟨hsecond, hkept⟩ := definitionRound_owned h.symm.disjoint hnone
  rw [definitionRound_append]
  refine ⟨?_, ?_, ?_⟩
  · exact hkept.trans (congrArg Prod.fst hfirst).symm
  · exact (congrArg Prod.fst hsecond).symm
  · exact congrArg (_ ++ ·) (congrArg Prod.snd hsecond).symm

/-- A round over both groups is a round over either one under its own keys. -/
theorem Apart.resolutionRound (h : Apart ms₁ ms₂)
    (h₁ : Confined (owned ms₁) (t.restrict (owned ms₁)))
    (h₂ : Confined (owned ms₂) (t.restrict (owned ms₂))) :
    (resolutionRound t (ms₁ ++ ms₂)).1.restrict (owned ms₁) =
        (resolutionRound (t.restrict (owned ms₁)) ms₁).1 ∧
      (resolutionRound t (ms₁ ++ ms₂)).1.restrict (owned ms₂) =
        (resolutionRound (t.restrict (owned ms₂)) ms₂).1 ∧
      (resolutionRound t (ms₁ ++ ms₂)).2.features =
        (resolutionRound (t.restrict (owned ms₁)) ms₁).2.features ++
          (resolutionRound (t.restrict (owned ms₂)) ms₂).2.features := by
  obtain ⟨hfirst, hkept⟩ := resolutionRound_restrict h.disjoint
    (fun _ hm => owns_of_mem_moduleVisits hm) h₁
  rw [← hkept] at h₂
  obtain ⟨hsecond, hkept'⟩ := resolutionRound_restrict h.symm.disjoint
    (fun _ hm => owns_of_mem_moduleVisits hm) h₂
  obtain ⟨htable, hfeatures⟩ := resolutionRound_append t ms₁ ms₂
  rw [hkept] at hsecond
  rw [htable, hfeatures, hfirst, hsecond]
  exact ⟨hkept', rfl, rfl⟩

theorem Apart.afterRounds (h : Apart ms₁ ms₂)
    (h₁ : Confined (owned ms₁) (t.restrict (owned ms₁)))
    (h₂ : Confined (owned ms₂) (t.restrict (owned ms₂))) (k : Nat) :
    (afterRounds (ms₁ ++ ms₂) t k).restrict (owned ms₁) =
        afterRounds ms₁ (t.restrict (owned ms₁)) k ∧
      (afterRounds (ms₁ ++ ms₂) t k).restrict (owned ms₂) =
        afterRounds ms₂ (t.restrict (owned ms₂)) k := by
  induction k with
  | zero => exact ⟨rfl, rfl⟩
  | succ k ih =>
    have hround := h.resolutionRound (ih.1 ▸ h₁.afterRounds ms₁ k) (ih.2 ▸ h₂.afterRounds ms₂ k)
    rw [ih.1, ih.2] at hround
    exact ⟨hround.1, hround.2.1⟩

theorem Apart.features_nthRound (h : Apart ms₁ ms₂)
    (h₁ : Confined (owned ms₁) (t.restrict (owned ms₁)))
    (h₂ : Confined (owned ms₂) (t.restrict (owned ms₂))) (k : Nat) :
    (nthRound (ms₁ ++ ms₂) t k).features =
      (nthRound ms₁ (t.restrict (owned ms₁)) k).features ++
        (nthRound ms₂ (t.restrict (owned ms₂)) k).features := by
  obtain ⟨hfirst, hsecond⟩ := h.afterRounds h₁ h₂ k
  have hround := h.resolutionRound (hfirst ▸ h₁.afterRounds ms₁ k) (hsecond ▸ h₂.afterRounds ms₂ k)
  rw [hfirst, hsecond] at hround
  exact hround.2.2

end Joint

section Files

variable {ms₁ ms₂ : List SourceModule}

theorem length_definitionRound (t : Table) (ms : List SourceModule) :
    (definitionRound t ms).2.length = ms.length := by
  induction ms generalizing t with
  | nil => rfl
  | cons m ms ih => exact congrArg (· + 1) (ih (define t m).1)

theorem length_resolutionRound (t : Table) (ms : List SourceModule) :
    (resolutionRound t ms).2.features.length = ms.length := by
  induction ms generalizing t with
  | nil => rfl
  | cons m ms ih => exact congrArg (· + 1) (ih (resolve t m).1)

theorem length_resolutions (n : Nat) (t : Table) (ms : List SourceModule) :
    (fixpoint n t ms).resolutions.length = ms.length := by
  cases n with
  | zero => exact List.length_map _
  | succ n =>
    rw [fixpoint_resolutions]
    exact length_resolutionRound _ ms

theorem length_files (n : Nat) (ms : List SourceModule) :
    (analyze n ms).files.length = ms.length := by
  have hdefinitions := length_definitionRound ∅ ms
  have hresolutions := length_resolutions n (definitionRound ∅ ms).1 ms
  show (fileFeatures ms (definitionRound ∅ ms).2 _).length = ms.length
  unfold fileFeatures
  rw [List.length_map, List.length_zip, List.length_zip, hdefinitions, hresolutions, Nat.min_self,
    Nat.min_self]

theorem fileFeatures_append {defs₁ defs₂ ress₁ ress₂ : List (List Feature)}
    (hdefs : defs₁.length = ms₁.length) (hress : ress₁.length = ms₁.length) :
    fileFeatures (ms₁ ++ ms₂) (defs₁ ++ defs₂) (ress₁ ++ ress₂) =
      fileFeatures ms₁ defs₁ ress₁ ++ fileFeatures ms₂ defs₂ ress₂ := by
  have hzip : ms₁.length = (defs₁.zip ress₁).length := by
    rw [List.length_zip]
    omega
  unfold fileFeatures
  rw [List.zip_append (hdefs.trans hress.symm), List.zip_append hzip, List.map_append]

theorem Apart.resolutions (h : Apart ms₁ ms₂) {t : Table}
    (h₁ : Confined (owned ms₁) (t.restrict (owned ms₁)))
    (h₂ : Confined (owned ms₂) (t.restrict (owned ms₂))) (n : Nat) :
    (fixpoint n t (ms₁ ++ ms₂)).resolutions =
      (fixpoint n (t.restrict (owned ms₁)) ms₁).resolutions ++
        (fixpoint n (t.restrict (owned ms₂)) ms₂).resolutions := by
  cases n with
  | zero => exact List.map_append
  | succ n =>
    rw [fixpoint_resolutions, fixpoint_resolutions, fixpoint_resolutions]
    exact h.features_nthRound h₁ h₂ n

end Files

/-- Groups of modules that are apart do not influence each other: together they are analyzed as
each of them is alone, whatever the budget. -/
theorem analyze_append_of_apart (n : Nat) {ms₁ ms₂ : List SourceModule} (h : Apart ms₁ ms₂) :
    (analyze n (ms₁ ++ ms₂)).files = (analyze n ms₁).files ++ (analyze n ms₂).files ∧
      (analyze n (ms₁ ++ ms₂)).table.restrict (owned ms₁) = (analyze n ms₁).table ∧
      (analyze n (ms₁ ++ ms₂)).table.restrict (owned ms₂) = (analyze n ms₂).table := by
  obtain ⟨hfirst, hsecond, hdefinitions⟩ := h.definitionRound
  have h₁ := confined_definitionRound ms₁
  have h₂ := confined_definitionRound ms₂
  rw [← hfirst] at h₁
  rw [← hsecond] at h₂
  have hresolutions := h.resolutions h₁ h₂ n
  have hafter := h.afterRounds h₁ h₂ n
  rw [hfirst, hsecond] at hresolutions hafter
  refine ⟨?_, ?_, ?_⟩
  · show fileFeatures _ (definitionRound ∅ (ms₁ ++ ms₂)).2 (fixpoint n _ _).resolutions = _
    rw [hdefinitions, hresolutions]
    exact fileFeatures_append (length_definitionRound ∅ ms₁) (length_resolutions n _ ms₁)
  · show (fixpoint n (definitionRound ∅ (ms₁ ++ ms₂)).1 (ms₁ ++ ms₂)).table.restrict _ =
      (fixpoint n (definitionRound ∅ ms₁).1 ms₁).table
    rw [fixpoint_table, fixpoint_table, hafter.1]
  · show (fixpoint n (definitionRound ∅ (ms₁ ++ ms₂)).1 (ms₁ ++ ms₂)).table.restrict _ =
      (fixpoint n (definitionRound ∅ ms₂).1 ms₂).table
    rw [fixpoint_table, fixpoint_table, hafter.2]

/-- A class whose method gives its argument back, and a call of that method. -/
def echoing : SourceModule :=
  ⟨"echo.py", "echo",
    [.classDef "Echo" []
      [.functionDef "say" ⟨[⟨"self", none, none⟩, ⟨"item", none, none⟩], none, [], none⟩ none
        [.return (some (.name "item"))]],
     .assign [.name "kept"]
      (.call (.attribute (.call (.name "Echo") [] []) "say") [.name "Echo"] [])]⟩

theorem keeping_and_echoing_apart :
    Apart [keeping] [echoing] ∧
      (analyze 2 ([keeping] ++ [echoing])).files =
        (analyze 2 [keeping]).files ++ (analyze 2 [echoing]).files ∧
      (analyze 2 ([keeping] ++ [echoing])).table.restrict (owned [keeping]) =
        (analyze 2 [keeping]).table ∧
      (analyze 2 ([keeping] ++ [echoing])).table.restrict (owned [echoing]) =
        (analyze 2 [echoing]).table := by
  have h : Apart [keeping] [echoing] := by decide +kernel
  exact ⟨h, analyze_append_of_apart 2 h⟩

end NameFlow.Flow
