import Mathlib.Data.List.Forall2
import NameFlow.Flow.Run

/-!
# Running two interpretations side by side

The scopes of a run depend on the code alone, so that two interpretations of one code take
every step in the same scopes. If their states stay related at every step that the code takes,
so do the operands, the frames and the ends of the runs. A guard on the pair of states, which
no step can make true again, lets the argument stop once one of the runs leaves the other
behind.
-/

namespace NameFlow.Flow

set_option autoImplicit false

open List (Forall₂)

universe u v

variable {σ : Type u} {τ : Type v}

/-- The scopes after a step taken in the given ones. -/
def scopesAfter (c : ScopeChain) : Step → ScopeChain
  | .enterType name => c.push name .type
  | .enterFunction name => c.push name .function
  | .leaveType => c.leave
  | .leaveFunction _ => c.leave
  | _ => c

/-- The steps of a code, each with the scopes that it is taken in. -/
def visits (c : ScopeChain) : List Step → List (ScopeChain × Step)
  | [] => []
  | x :: code => (c, x) :: visits (scopesAfter c x) code

/-- The steps of a module. -/
def moduleVisits (m : Python.SourceModule) : List (ScopeChain × Step) :=
  visits (.root m.root) (blockCode m.body)

theorem step_scopes (i : Interpretation σ) (s : State σ) (x : Step) :
    (step i s x).scopes = scopesAfter s.scopes x := by
  cases x <;> rfl

/-- Operands of two runs. -/
abbrev OperandRel := Option ValueSet → Option ValueSet → Prop

structure FrameRel (Q : OperandRel) (a b : Frame) : Prop where
  returns : Q a.returns b.returns
  params : a.params = b.params

structure Related (I : σ → τ → Prop) (Q : OperandRel) (s : State σ) (q : State τ) : Prop where
  scopes : s.scopes = q.scopes
  frame : FrameRel Q s.frame q.frame
  outerFrames : Forall₂ (FrameRel Q) s.outerFrames q.outerFrames
  operands : Forall₂ Q s.operands q.operands
  inner : I s.inner q.inner

/-- Named operands with the same names. -/
abbrev NamedRel (Q : OperandRel) (a b : String × Option ValueSet) : Prop := a.1 = b.1 ∧ Q a.2 b.2

/-- Two interpretations that keep their states related at the visited steps `V`, as long as the
guard `G` holds after the step. -/
structure Simulation (V : ScopeChain → Step → Prop) (i : Interpretation σ) (j : Interpretation τ)
    (I : σ → τ → Prop) (Q : OperandRel) (G : σ → τ → Prop) : Prop where
  unknown : Q none none
  join : ∀ {a b a' b'}, Q a b → Q a' b' → Q (joinKnown a a') (joinKnown b b')
  guard : ∀ (s : State σ) (q : State τ) (x : Step),
    G (step i s x).inner (step j q x).inner → G s.inner q.inner
  declareType : ∀ {c n s t}, V c (.declareType n) → I s t →
    G (i.declareType c n s) (j.declareType c n t) →
    I (i.declareType c n s) (j.declareType c n t)
  enterFunction : ∀ {c n s t}, V c (.enterFunction n) → I s t →
    G (i.enterFunction c n s) (j.enterFunction c n t) →
    I (i.enterFunction c n s) (j.enterFunction c n t)
  declareFunction : ∀ {c n r r' ps s t}, V c (.leaveFunction n) → I s t → Q r r' →
    G (i.declareFunction c.leave n r ps s) (j.declareFunction c.leave n r' ps t) →
    I (i.declareFunction c.leave n r ps s) (j.declareFunction c.leave n r' ps t)
  useType : ∀ {c n s t}, V c (.useType n) → I s t →
    G (i.useType c n s) (j.useType c n t) → I (i.useType c n s) (j.useType c n t)
  bind : ∀ {c n v v' s t}, V c (.bind n) → I s t → Q v v' →
    G (i.bindVariable c n .lexical v s).2 (j.bindVariable c n .lexical v' t).2 →
    I (i.bindVariable c n .lexical v s).2 (j.bindVariable c n .lexical v' t).2
  bindAttribute : ∀ {c n o o' v v' s t}, V c (.bindAttribute n) → I s t → Q o o' → Q v v' →
    G (i.bindVariable c n (.attribute o) v s).2 (j.bindVariable c n (.attribute o') v' t).2 →
    I (i.bindVariable c n (.attribute o) v s).2 (j.bindVariable c n (.attribute o') v' t).2
  parameter : ∀ {c n s t}, V c (.parameter n) → I s t →
    G (i.bindVariable c n .lexical none s).2 (j.bindVariable c n .lexical none t).2 →
    (i.bindVariable c n .lexical none s).1 = (j.bindVariable c n .lexical none t).1 ∧
      I (i.bindVariable c n .lexical none s).2 (j.bindVariable c n .lexical none t).2
  read : ∀ {c n s t}, V c (.read n) → I s t →
    G (i.readVariable c n .lexical s).2 (j.readVariable c n .lexical t).2 →
    Q (i.readVariable c n .lexical s).1 (j.readVariable c n .lexical t).1 ∧
      I (i.readVariable c n .lexical s).2 (j.readVariable c n .lexical t).2
  readAttribute : ∀ {c n o o' s t}, V c (.readAttribute n) → I s t → Q o o' →
    G (i.readVariable c n (.attribute o) s).2 (j.readVariable c n (.attribute o') t).2 →
    Q (i.readVariable c n (.attribute o) s).1 (j.readVariable c n (.attribute o') t).1 ∧
      I (i.readVariable c n (.attribute o) s).2 (j.readVariable c n (.attribute o') t).2
  call : ∀ {c k ns f f' args args' named named' s t}, V c (.call k ns) → I s t → Q f f' →
    Forall₂ Q args args' → Forall₂ (NamedRel Q) named named' →
    G (i.call c f args named s).2 (j.call c f' args' named' t).2 →
    Q (i.call c f args named s).1 (j.call c f' args' named' t).1 ∧
      I (i.call c f args named s).2 (j.call c f' args' named' t).2

theorem forall₂_tail {α : Type u} {β : Type v} {R : α → β → Prop} {l : List α} {m : List β}
    (h : Forall₂ R l m) : Forall₂ R l.tail m.tail := by
  cases h with
  | nil => exact .nil
  | cons _ hs => exact hs

namespace Related

variable {I : σ → τ → Prop} {Q : OperandRel} {s : State σ} {q : State τ}

theorem head (hn : Q none none) {vs ws : List (Option ValueSet)} (h : Forall₂ Q vs ws) :
    Q vs.head?.join ws.head?.join := by
  cases h with
  | nil => exact hn
  | cons hv _ => exact hv

theorem headFrame (hn : Q none none) {fs gs : List Frame} (h : Forall₂ (FrameRel Q) fs gs) :
    FrameRel Q (fs.headD .start) (gs.headD .start) := by
  cases h with
  | nil => exact ⟨hn, rfl⟩
  | cons hf _ => exact hf

theorem top (hn : Q none none) (h : Related I Q s q) : Q s.top q.top := head hn h.operands

theorem put {v v' : Option ValueSet} (h : Related I Q s q) (hv : Q v v') :
    Related I Q (s.put v) (q.put v') :=
  { h with operands := .cons hv h.operands }

theorem pop (h : Related I Q s q) : Related I Q s.pop q.pop where
  scopes := h.scopes
  frame := h.frame
  outerFrames := h.outerFrames
  operands := forall₂_tail h.operands
  inner := h.inner

theorem withInner {x : σ} {y : τ} (h : Related I Q s q) (hi : I x y) :
    Related I Q { s with inner := x } { q with inner := y } :=
  { h with inner := hi }

theorem enter (hn : Q none none) (h : Related I Q s q) (name : String) (kind : ScopeKind) :
    Related I Q (s.enter name kind) (q.enter name kind) where
  scopes := congrArg (·.push name kind) h.scopes
  frame := ⟨hn, rfl⟩
  outerFrames := .cons h.frame h.outerFrames
  operands := h.operands
  inner := h.inner

theorem leave (hn : Q none none) (h : Related I Q s q) : Related I Q s.leave q.leave where
  scopes := congrArg ScopeChain.leave h.scopes
  frame := headFrame hn h.outerFrames
  outerFrames := forall₂_tail h.outerFrames
  operands := h.operands
  inner := h.inner

end Related

theorem forall₂_named {Q : OperandRel} (names : List String) {vs ws : List (Option ValueSet)}
    (h : Forall₂ Q vs ws) : Forall₂ (NamedRel Q) (names.zip vs) (names.zip ws) := by
  induction h generalizing names with
  | nil => simp
  | cons hv _ ih =>
    cases names with
    | nil => exact .nil
    | cons n names => exact .cons ⟨rfl, hv⟩ (ih names)

namespace Simulation

variable {V : ScopeChain → Step → Prop} {i : Interpretation σ} {j : Interpretation τ}
  {I : σ → τ → Prop} {Q : OperandRel} {G : σ → τ → Prop}

theorem step_related (sim : Simulation V i j I Q G) {s : State σ} {q : State τ} {x : Step}
    (hx : V s.scopes x) (h : Related I Q s q)
    (hg : G (step i s x).inner (step j q x).inner) :
    Related I Q (step i s x) (step j q x) := by
  obtain ⟨c, frame, outer, operands, inner⟩ := s
  obtain ⟨c', frame', outer', operands', inner'⟩ := q
  obtain rfl : c = c' := h.scopes
  have hn := sim.unknown
  have htop := h.top hn
  have hpop := h.pop.top hn
  cases x with
  | unknown => exact h.put hn
  | drop => exact h.pop
  | copy => exact h.put htop
  | join => exact h.pop.pop.put (sim.join hpop htop)
  | read name =>
    obtain ⟨hv, hi⟩ := sim.read hx h.inner hg
    exact (h.withInner hi).put hv
  | readAttribute name =>
    obtain ⟨hv, hi⟩ := sim.readAttribute hx h.inner htop hg
    exact (h.pop.withInner hi).put hv
  | useType name => exact h.withInner (sim.useType hx h.inner hg)
  | bind name => exact h.pop.withInner (sim.bind hx h.inner htop hg)
  | bindAttribute name =>
    exact h.pop.pop.withInner (sim.bindAttribute hx h.inner htop hpop hg)
  | parameter name =>
    obtain ⟨hk, hi⟩ := sim.parameter hx h.inner hg
    have hp : frame.params = frame'.params := h.frame.params
    exact { h with
      frame := ⟨h.frame.returns, congrArg₂ (fun ps k => ps ++ Option.toList k) hp hk⟩
      inner := hi }
  | call arity names =>
    have hnamed := List.rel_reverse (List.forall₂_take names.length h.operands)
    have hrest := List.forall₂_drop names.length h.operands
    have hargs := List.rel_reverse (List.forall₂_take arity hrest)
    have hbelow := List.forall₂_drop arity hrest
    obtain ⟨hv, hi⟩ := sim.call hx h.inner (Related.head hn hbelow) hargs
      (forall₂_named names hnamed) hg
    exact { h with operands := .cons hv (forall₂_tail hbelow), inner := hi }
  | giveBack => exact { h.pop with frame := ⟨sim.join h.frame.returns htop, h.frame.params⟩ }
  | declareType name => exact h.withInner (sim.declareType hx h.inner hg)
  | enterType name => exact h.enter hn name .type
  | leaveType => exact h.leave hn
  | enterFunction name =>
    exact (h.withInner (sim.enterFunction hx h.inner hg)).enter hn name .function
  | leaveFunction name =>
    obtain ⟨returns, params⟩ := frame
    obtain ⟨returns', params'⟩ := frame'
    obtain rfl : params = params' := h.frame.params
    exact (h.leave hn).withInner (sim.declareFunction hx h.inner h.frame.returns hg)

theorem guard_run (sim : Simulation V i j I Q G) (code : List Step) {s : State σ} {q : State τ}
    (hg : G (run i code s).inner (run j code q).inner) : G s.inner q.inner := by
  induction code generalizing s q with
  | nil => exact hg
  | cons x code ih => exact sim.guard s q x (ih hg)

/-- Runs of one code stay related if every step is among the visits that the simulation covers
and the guard holds at the end. -/
theorem run_related (sim : Simulation V i j I Q G) {code : List Step} {s : State σ} {q : State τ}
    (hv : ∀ x ∈ visits s.scopes code, V x.1 x.2) (h : Related I Q s q)
    (hg : G (run i code s).inner (run j code q).inner) :
    Related I Q (run i code s) (run j code q) := by
  induction code generalizing s q with
  | nil => exact h
  | cons x code ih =>
    have hx : V s.scopes x := hv (s.scopes, x) List.mem_cons_self
    have hrest : ∀ y ∈ visits (step i s x).scopes code, V y.1 y.2 := by
      rw [step_scopes]
      exact fun y hy => hv y (List.mem_cons_of_mem _ hy)
    exact ih hrest (sim.step_related hx h (sim.guard_run code hg)) hg

theorem runModule_related (sim : Simulation V i j I Q G) {m : Python.SourceModule} {a : σ} {b : τ}
    (hv : ∀ x ∈ moduleVisits m, V x.1 x.2) (h : I a b) (hg : G (runModule i m a) (runModule j m b)) :
    I (runModule i m a) (runModule j m b) := by
  have hstart : Related I Q (State.start m.root a) (State.start m.root b) :=
    ⟨rfl, ⟨sim.unknown, rfl⟩, .nil, .nil, h⟩
  exact (sim.run_related (s := .start m.root a) hv hstart hg).inner

end Simulation

/-- A property of the state and one of the operands that an interpretation keeps at the visited
steps. -/
structure Invariant (V : ScopeChain → Step → Prop) (i : Interpretation σ) (Inv : σ → Prop)
    (P : Option ValueSet → Prop) : Prop where
  unknown : P none
  join : ∀ {a b}, P a → P b → P (joinKnown a b)
  declareType : ∀ {c n s}, V c (.declareType n) → Inv s → Inv (i.declareType c n s)
  enterFunction : ∀ {c n s}, V c (.enterFunction n) → Inv s → Inv (i.enterFunction c n s)
  declareFunction : ∀ {c n r ps s}, V c (.leaveFunction n) → Inv s → P r →
    Inv (i.declareFunction c.leave n r ps s)
  useType : ∀ {c n s}, V c (.useType n) → Inv s → Inv (i.useType c n s)
  bind : ∀ {c n v s}, V c (.bind n) → Inv s → P v → Inv (i.bindVariable c n .lexical v s).2
  bindAttribute : ∀ {c n o v s}, V c (.bindAttribute n) → Inv s → P o → P v →
    Inv (i.bindVariable c n (.attribute o) v s).2
  parameter : ∀ {c n s}, V c (.parameter n) → Inv s → Inv (i.bindVariable c n .lexical none s).2
  read : ∀ {c n s}, V c (.read n) → Inv s →
    P (i.readVariable c n .lexical s).1 ∧ Inv (i.readVariable c n .lexical s).2
  readAttribute : ∀ {c n o s}, V c (.readAttribute n) → Inv s → P o →
    P (i.readVariable c n (.attribute o) s).1 ∧ Inv (i.readVariable c n (.attribute o) s).2
  call : ∀ {c k ns f args named s}, V c (.call k ns) → Inv s → P f → (∀ a ∈ args, P a) →
    (∀ a ∈ named, P a.2) → P (i.call c f args named s).1 ∧ Inv (i.call c f args named s).2

namespace Invariant

variable {V : ScopeChain → Step → Prop} {i : Interpretation σ} {Inv : σ → Prop}
  {P : Option ValueSet → Prop}

theorem forall₂_diagonal {α : Type u} {R : α → α → Prop} {A : α → Prop}
    (hR : ∀ {a b}, R a b → a = b ∧ A a) {l m : List α} (h : Forall₂ R l m) :
    l = m ∧ ∀ a ∈ l, A a := by
  induction h with
  | nil => exact ⟨rfl, nofun⟩
  | cons hab _ ih =>
    obtain ⟨rfl, ha⟩ := hR hab
    obtain ⟨rfl, hl⟩ := ih
    exact ⟨rfl, List.forall_mem_cons.mpr ⟨ha, hl⟩⟩

/-- An invariant is a simulation of an interpretation by itself. -/
theorem diagonal (inv : Invariant V i Inv P) :
    Simulation V i i (fun s t => s = t ∧ Inv s) (fun a b => a = b ∧ P a) (fun _ _ => True) where
  unknown := ⟨rfl, inv.unknown⟩
  join := by
    rintro a _ a' _ ⟨rfl, ha⟩ ⟨rfl, ha'⟩
    exact ⟨rfl, inv.join ha ha'⟩
  guard := fun _ _ _ _ => trivial
  declareType := by
    rintro c n s _ hx ⟨rfl, hs⟩ _
    exact ⟨rfl, inv.declareType hx hs⟩
  enterFunction := by
    rintro c n s _ hx ⟨rfl, hs⟩ _
    exact ⟨rfl, inv.enterFunction hx hs⟩
  declareFunction := by
    rintro c n r _ ps s _ hx ⟨rfl, hs⟩ ⟨rfl, hr⟩ _
    exact ⟨rfl, inv.declareFunction hx hs hr⟩
  useType := by
    rintro c n s _ hx ⟨rfl, hs⟩ _
    exact ⟨rfl, inv.useType hx hs⟩
  bind := by
    rintro c n v _ s _ hx ⟨rfl, hs⟩ ⟨rfl, hv⟩ _
    exact ⟨rfl, inv.bind hx hs hv⟩
  bindAttribute := by
    rintro c n o _ v _ s _ hx ⟨rfl, hs⟩ ⟨rfl, ho⟩ ⟨rfl, hv⟩ _
    exact ⟨rfl, inv.bindAttribute hx hs ho hv⟩
  parameter := by
    rintro c n s _ hx ⟨rfl, hs⟩ _
    exact ⟨rfl, rfl, inv.parameter hx hs⟩
  read := by
    rintro c n s _ hx ⟨rfl, hs⟩ _
    exact ⟨⟨rfl, (inv.read hx hs).1⟩, rfl, (inv.read hx hs).2⟩
  readAttribute := by
    rintro c n o _ s _ hx ⟨rfl, hs⟩ ⟨rfl, ho⟩ _
    exact ⟨⟨rfl, (inv.readAttribute hx hs ho).1⟩, rfl, (inv.readAttribute hx hs ho).2⟩
  call := by
    rintro c k ns f _ args args' named named' s _ hx ⟨rfl, hs⟩ ⟨rfl, hf⟩ hargs hnamed _
    obtain ⟨rfl, ha⟩ := forall₂_diagonal id hargs
    obtain ⟨rfl, hn⟩ := forall₂_diagonal (A := fun a => P a.2)
      (fun h => ⟨Prod.ext h.1 h.2.1, h.2.2⟩) hnamed
    have hcall := inv.call hx hs hf ha hn
    exact ⟨⟨rfl, hcall.1⟩, rfl, hcall.2⟩

theorem runModule (inv : Invariant V i Inv P) {m : Python.SourceModule} {a : σ}
    (hv : ∀ x ∈ moduleVisits m, V x.1 x.2) (h : Inv a) : Inv (Flow.runModule i m a) :=
  (inv.diagonal.runModule_related hv ⟨rfl, h⟩ trivial).2

end Invariant

end NameFlow.Flow
