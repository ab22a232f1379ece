import NameFlow.Proofs.Flow.Convergence
import NameFlow.Proofs.Flow.Skeleton
import NameFlow.Proofs.Scope

/-!
# The receiver of a method

The first parameter of a method, if it has the conventional name, is known to be an instance of the
method's class. Where nothing else is bound to that name, no resolution adds to what is known: an
assignment goes to keys that end in another name, a member key has one dot only, and arguments of
calls never reach the first parameter of a method. The last of these depends on the functions of
one key being all methods, or none of them.
-/

namespace NameFlow

set_option autoImplicit false

theorem ValueSet.toList_eq_singleton {s : ValueSet} {v : Value} (hmem : v.identity ∈ s)
    (hall : ∀ w ∈ s.toList, w = v) : s.toList = [v] := by
  obtain ⟨values, hnodup⟩ := s
  cases values with
  | nil => exact absurd hmem List.not_mem_nil
  | cons w rest =>
    obtain rfl := hall w List.mem_cons_self
    cases rest with
    | nil => rfl
    | cons w' rest =>
      obtain rfl := hall w' (List.mem_cons_of_mem _ List.mem_cons_self)
      exact absurd List.mem_cons_self (List.nodup_cons.mp hnodup).1

/-- Values that go elsewhere leave a slot as it is. -/
theorem Table.held_receiveAll_of_ne {t : Table} {fs : List Inflow} {slot : Slot}
    (h : ∀ f ∈ fs, f.slot ≠ slot) : (t.receiveAll fs).held slot = t.held slot := by
  induction fs generalizing t with
  | nil => rfl
  | cons f fs ih =>
    rw [List.forall_mem_cons] at h
    rw [receiveAll_cons, ih h.2, held_receive, if_neg h.1]

namespace Flow

open Python

section Keys

theorem eq_of_mem_lexicalKeys {c : ScopeChain} {n key : String} (h : key ∈ c.lexicalKeys n) :
    ∃ path, key = path ++ "." ++ n := by
  unfold ScopeChain.lexicalKeys at h
  generalize c.scopes = scopes at h
  induction scopes with
  | nil => exact absurd h List.not_mem_nil
  | cons s rest ih =>
    rcases List.mem_cons.mp h with rfl | h
    · exact ⟨_, rfl⟩
    · exact ih h

theorem path_eq_leave {c : ScopeChain} (h : c.outer ≠ []) :
    c.path = c.leave.path ++ "." ++ c.current.name := by
  obtain ⟨current, outer⟩ := c
  cases outer with
  | nil => exact absurd rfl h
  | cons s rest => rfl

/-- A member key has no dot before its name. -/
theorem memberKey_ne {type n path f name : String} (htype : '.' ∉ type.toList)
    (hn : '.' ∉ n.toList) (hname : '.' ∉ name.toList) :
    memberKey type n ≠ path ++ "." ++ f ++ "." ++ name := by
  intro h
  obtain ⟨hpath, _⟩ := eq_of_dotted hn hname h
  have hdot : '.' ∈ ("+" ++ type).toList := by
    rw [hpath]
    simp
  rw [String.toList_append] at hdot
  rcases List.mem_append.mp hdot with hplus | hdot
  · revert hplus
    decide
  · exact htype hdot

end Keys

section Programs

/-- The names that a binding introduces. -/
def Binding.identifiers : Binding → List String
  | .type _ n => [n]
  | .function _ n params => n :: boundNames params
  | .name _ n => [n]
  | .attribute _ _ n => [n]

/-- No name that is bound has a dot in it. This asks nothing of the names of lambdas. -/
def Dotless (ms : List SourceModule) : Prop :=
  ∀ b ∈ ms.flatMap moduleBindings, ∀ n ∈ b.identifiers, '.' ∉ n.toList

instance (ms : List SourceModule) : Decidable (Dotless ms) :=
  inferInstanceAs (Decidable (∀ b ∈ _, ∀ n ∈ _, _))

/-- The parameters but for the first of the positional ones. -/
def furtherNames (params : Parameters Expr) : List String :=
  params.positional.tail.map (·.name) ++ params.vararg.toList ++
    params.keywordOnly.map (·.name) ++ params.kwarg.toList

def firstName? (params : Parameters Expr) : Option String := params.positional.head?.map (·.name)

/-- The receiver's name is introduced, if at all, as the first parameter of a method. -/
def Binding.KeepsReceiver : Binding → Prop
  | .type _ n => n ≠ receiverName
  | .function c n params =>
    n ≠ receiverName ∧ receiverName ∉ furtherNames params ∧
      (firstName? params = some receiverName → c.current.kind = .type)
  | .name _ n => n ≠ receiverName
  | .attribute _ _ _ => True

instance (b : Binding) : Decidable b.KeepsReceiver := by
  cases b <;> unfold Binding.KeepsReceiver <;> infer_instance

def ReceiverKept (ms : List SourceModule) : Prop :=
  ∀ b ∈ ms.flatMap moduleBindings, b.KeepsReceiver

instance (ms : List SourceModule) : Decidable (ReceiverKept ms) :=
  inferInstanceAs (Decidable (∀ b ∈ _, _))

theorem mem_boundNames {params : Parameters Expr} {n : String} :
    n ∈ boundNames params ↔ firstName? params = some n ∨ n ∈ furtherNames params := by
  obtain ⟨positional, vararg, keywordOnly, kwarg⟩ := params
  unfold boundNames firstName? furtherNames
  cases positional with
  | nil => simp
  | cons p ps => simp [eq_comm]

end Programs

section Scopes

/-- A class of the name is among the bindings. -/
def BindsType (n : String) (bs : List Binding) : Prop := ∃ c, .type c n ∈ bs

variable {n : String} {bs bs' : List Binding}

theorem BindsType.before (h : BindsType n bs) (bs' : List Binding) : BindsType n (bs ++ bs') := by
  obtain ⟨c, hc⟩ := h
  exact ⟨c, List.mem_append_left bs' hc⟩

theorem BindsType.after (h : BindsType n bs') (bs : List Binding) : BindsType n (bs ++ bs') := by
  obtain ⟨c, hc⟩ := h
  exact ⟨c, List.mem_append_right bs hc⟩

theorem bindsType_append {ns ns' : List String} (hns : n ∈ ns → BindsType n bs)
    (hns' : n ∈ ns' → BindsType n bs') (h : n ∈ ns ++ ns') : BindsType n (bs ++ bs') := by
  rcases List.mem_append.mp h with h | h
  · exact (hns h).before bs'
  · exact (hns' h).after bs

/-- Every class of a clause is among its bindings. -/
theorem Clause.bindsType (q : Clause) : ∀ c, n ∈ q.classes → BindsType n (q.bindings c) := by
  have h := q.built
  induction h with
  | @functionDef name _ _ _ _ ih =>
    intro c h
    exact (((ih (c.push name .function) h).after _).before _).after _
  | @classDef name _ _ _ ih =>
    intro c h
    rcases List.mem_cons.mp h with rfl | h
    · exact ⟨c, List.mem_cons_self⟩
    · exact ((ih (c.push name .type) h).after _).after [_]
  | forStmt _ _ ih ih' | whileStmt _ _ ih ih' | ifStmt _ _ ih ih' | handlersCons _ _ ih ih' =>
    intro c h
    exact bindsType_append (fun h => (ih c h).after _) (ih' c) h
  | withStmt _ ih =>
    intro c h
    exact (ih c h).after _
  | tryStmt _ _ _ _ ih ih' ih'' ih3 =>
    intro c h
    exact bindsType_append (bindsType_append (bindsType_append (ih c) (ih' c)) (ih'' c)) (ih3 c) h
  | blockCons _ _ ih ih' =>
    intro c h
    exact bindsType_append (ih c) (ih' c) h
  | _ =>
    intro c h
    exact absurd h List.not_mem_nil

/-- The classes around a function are classes of its module. -/
theorem scopes_of_function {m : SourceModule} {c : ScopeChain} {n : String}
    {params : Parameters Expr} (h : .function c n params ∈ moduleBindings m) :
    Rooted m.root c ∧ ClassesIn (declaredClasses m) c := by
  obtain ⟨⟨returns, x, hcall⟩, _⟩ := (hookCalls_accounts declaring m []).complete _ h
  have hout := List.mem_map_of_mem (f := HookCall.outline) hcall
  rw [outline_hookCalls] at hout
  obtain ⟨⟨around, y⟩, hvisit, hy⟩ := List.mem_filterMap.mp hout
  cases y with
  | leaveFunction n' =>
    obtain ⟨rfl, rfl⟩ := Outline.declareFunction.inj (Option.some.inj hy)
    refine ⟨(rooted_of_mem_moduleVisits _ hvisit).leave, ?_⟩
    intro s hs
    exact classesIn_of_mem_moduleVisits _ hvisit s (mem_scopes_leave hs)
  | _ => cases hy

/-- A class body is not the root scope. -/
theorem Rooted.outer_ne_nil {root : String} {c : ScopeChain} (h : Rooted root c)
    (hkind : c.current.kind = .type) : c.outer ≠ [] := by
  intro houter
  obtain ⟨current, outer⟩ := c
  obtain ⟨inner, hinner⟩ := h
  obtain rfl : outer = [] := houter
  cases inner with
  | nil =>
    rw [(List.cons.inj hinner).1] at hkind
    cases hkind
  | cons s inner =>
    have hlength := congrArg List.length hinner
    simp [ScopeChain.scopes] at hlength

end Scopes

section Facts

variable {ms : List SourceModule}

theorem Dotless.classes (h : Dotless ms) :
    ∀ n ∈ ms.flatMap declaredClasses, '.' ∉ n.toList := by
  intro n hn
  obtain ⟨m, hm, hn⟩ := List.mem_flatMap.mp hn
  obtain ⟨c, hc⟩ := Clause.bindsType (.block m.body) (.root m.root) hn
  exact h _ (List.mem_flatMap.mpr ⟨m, hm, hc⟩) n (List.mem_singleton_self n)

/-- The path of a class body tells the class. -/
theorem Dotless.type_of_path (h : Dotless ms) {c c' : ScopeChain} {n n' type type' : String}
    {params params' : Parameters Expr} (hf : .function c n params ∈ ms.flatMap moduleBindings)
    (hf' : .function c' n' params' ∈ ms.flatMap moduleBindings)
    (hc : c.current = ⟨type, .type⟩) (hc' : c'.current = ⟨type', .type⟩)
    (hpath : c.path = c'.path) : type = type' := by
  have hscope : ∀ {c : ScopeChain} {n type : String} {params : Parameters Expr},
      .function c n params ∈ ms.flatMap moduleBindings → c.current = ⟨type, .type⟩ →
      c.path = c.leave.path ++ "." ++ type ∧ '.' ∉ type.toList := by
    intro c n type params hf hc
    obtain ⟨m, hm, hf⟩ := List.mem_flatMap.mp hf
    obtain ⟨hrooted, hclasses⟩ := scopes_of_function hf
    constructor
    · have hout := path_eq_leave (hrooted.outer_ne_nil (by rw [hc]))
      rwa [hc] at hout
    · have hmem := hclasses c.current List.mem_cons_self (by rw [hc])
      rw [hc] at hmem
      exact h.classes type (List.mem_flatMap.mpr ⟨m, hm, hmem⟩)
  obtain ⟨hsplit, htype⟩ := hscope hf hc
  obtain ⟨hsplit', htype'⟩ := hscope hf' hc'
  rw [hsplit, hsplit'] at hpath
  exact (eq_of_dotted htype htype' hpath).2

theorem folds_declaring :
    Folds declaring id (fun fs (call : HookCall) => fs ++ call.function?.toList) where
  declareType := fun _ _ fs => (List.append_nil fs).symm
  enterFunction := fun _ _ fs => (List.append_nil fs).symm
  declareFunction := fun _ _ _ _ _ => rfl
  bindVariable := fun _ _ _ _ fs => (List.append_nil fs).symm
  useType := fun _ _ fs => (List.append_nil fs).symm
  call := fun _ _ _ _ fs => (List.append_nil fs).symm
  readVariable := fun _ _ _ fs => (List.append_nil fs).symm

theorem mem_collected {calls : List HookCall} {fs : List FunctionValue} {f : FunctionValue}
    (h : f ∈ calls.foldl (fun fs call => fs ++ call.function?.toList) fs) :
    f ∈ fs ∨ ∃ call ∈ calls, call.function? = some f := by
  induction calls generalizing fs with
  | nil => exact Or.inl h
  | cons call calls ih =>
    rcases ih h with h | ⟨call', hcall', hf⟩
    · rcases List.mem_append.mp h with h | h
      · exact Or.inl h
      · exact Or.inr ⟨call, List.mem_cons_self, Option.mem_toList.mp h⟩
    · exact Or.inr ⟨call', List.mem_cons_of_mem call hcall', hf⟩

/-- The functions that are declared are those that are bound. -/
theorem binding_of_declared {m : SourceModule} {f : FunctionValue}
    (hf : f ∈ declaredFunctions m) :
    ∃ c n params, .function c n params ∈ moduleBindings m ∧ f = boundFunction c n params := by
  have hcollected : f ∈ id (runModule declaring m []) := hf
  rw [folds_declaring.runModule] at hcollected
  rcases mem_collected hcollected with hnone | ⟨call, hcall, hfunction⟩
  · exact absurd hnone List.not_mem_nil
  cases call with
  | declareFunction c n returns keys =>
    obtain ⟨b, hb, hreal⟩ := (hookCalls_accounts declaring m []).sound _ hcall rfl
    cases hreal with
    | function _ _ params _ x =>
      refine ⟨c, n, params, hb, ?_⟩
      rw [← Option.some.inj hfunction, walkNames_keys declaring (fun _ _ _ => rfl)]
      rfl
  | _ => cases hfunction

end Facts

section Definitions

theorem dotless_receiverName : '.' ∉ receiverName.toList := by decide

variable {ms : List SourceModule} {c : ScopeChain} {f type : String} {params : Parameters Expr}

/-- Only its class is placed under the key of a receiver. -/
theorem eq_type_of_placed (hdot : Dotless ms) (hkept : ReceiverKept ms)
    (hf : .function c f params ∈ ms.flatMap moduleBindings) (hc : c.current = ⟨type, .type⟩)
    {key : String} (hkey : key = (c.push f .function).key receiverName) {v : Value}
    (h : Placed (ms.flatMap moduleBindings) key v) : v = .type type := by
  have hname : ∀ {path n : String}, '.' ∉ n.toList →
      path ++ "." ++ n = (c.push f .function).key receiverName → n = receiverName :=
    fun hn heq => (eq_of_dotted hn dotless_receiverName heq).2
  cases h with
  | @type c' n' hb =>
    exact absurd (hname (hdot _ hb n' List.mem_cons_self) hkey) (hkept _ hb)
  | @function c' n' params' hb =>
    exact absurd (hname (hdot _ hb n' List.mem_cons_self) hkey) (hkept _ hb).1
  | @method c' n' type' params' hb _ =>
    exact absurd (hname (hdot _ hb n' List.mem_cons_self) hkey) (hkept _ hb).1
  | @receiver c' n' type' params' hb _ hc' =>
    obtain ⟨hscope, _⟩ := eq_of_dotted dotless_receiverName dotless_receiverName hkey
    have hn' := hdot _ hb n' List.mem_cons_self
    have hn := hdot _ hf f List.mem_cons_self
    obtain ⟨hpath, _⟩ := eq_of_dotted hn' hn hscope
    rw [hdot.type_of_path hb hf hc' hc hpath]
  | @rebound c' type' hb _ _ => exact absurd rfl (hkept _ hb)

/-- After the definitions the receiver is known to be of its class, and nothing else is. -/
theorem definitionRound_receiver (hdot : Dotless ms) (hkept : ReceiverKept ms)
    (hf : .function c f params ∈ ms.flatMap moduleBindings) (hc : c.current = ⟨type, .type⟩)
    (hfirst : firstName? params = some receiverName) :
    ((definitionRound ∅ ms).1.held (.entry ((c.push f .function).key receiverName))).toList =
      [.type type] := by
  rw [definitionRound_eq_enter]
  have hskeleton := skeleton_entered ms
  have hplaced : Placed (ms.flatMap moduleBindings) ((c.push f .function).key receiverName)
      (.type type) := .receiver hf (mem_boundNames.mpr (Or.inl hfirst)) hc
  apply ValueSet.toList_eq_singleton
  · exact (hskeleton.identities _ _).mpr ⟨_, hplaced, rfl⟩
  · intro v hv
    exact eq_type_of_placed hdot hkept hf hc rfl (hskeleton.values _ v hv)

end Definitions

section Resolutions

/-- What a run knows of the owner of an attribute satisfies the predicate. -/
def Site.Known (D : Value → Prop) : Site → Prop
  | .lexical => True
  | .attribute owner => AllKnown D owner

/-- A key that no request of a resolution sends anything to, if it binds what is permitted. -/
structure Sealed (D : Value → Prop) (start : Table) (key : String) (permitted : HookCall → Prop) :
    Prop where
  bind : ∀ {t : Table} {c n site v}, permitted (.bindVariable c n site v) → site.Known D →
    ∀ f ∈ Resolution.bindInflows t c n site v, f.slot ≠ .entry key
  call : ∀ {t : Table} {callee args named}, start.SameShape t → t.All D → AllKnown D callee →
    ∀ f ∈ Resolution.callInflows t callee args named, f.slot ≠ .entry key

/-- A resolution has left a key as it was, provided that it has bound what is permitted. -/
structure Untouched (D : Value → Prop) (start : Table) (key : String)
    (permitted : HookCall → Prop) (p : Resolution.State × List HookCall) : Prop where
  values : p.1.table.All D
  shape : start.SameShape p.1.table
  held : (∀ call ∈ p.2, permitted call) → p.1.table.held (.entry key) = start.held (.entry key)

variable {D : Value → Prop} {start : Table} {key : String} {permitted : HookCall → Prop}

theorem Untouched.absorbs {p : Resolution.State × List HookCall} {s : Resolution.State}
    {fs : List Inflow} {call : HookCall} (h : Untouched D start key permitted p)
    (habsorbs : Resolution.Absorbs p.1 fs s) (hvalues : s.table.All D)
    (hfree : permitted call → ∀ f ∈ fs, f.slot ≠ .entry key) :
    Untouched D start key permitted (s, p.2 ++ [call]) := by
  refine ⟨hvalues, h.shape.trans habsorbs.shape, ?_⟩
  intro hall
  rw [List.forall_mem_append] at hall
  have hcall := hfree (hall.2 call (List.mem_singleton_self call))
  rw [habsorbs.table, Table.held_receiveAll_of_ne hcall]
  exact h.held hall.1

/-- A request that sends nothing. -/
theorem Untouched.silent {p : Resolution.State × List HookCall} {s : Resolution.State}
    {call : HookCall} (h : Untouched D start key permitted p)
    (habsorbs : Resolution.Absorbs p.1 [] s) :
    Untouched D start key permitted (s, p.2 ++ [call]) := by
  apply h.absorbs habsorbs
  · rw [habsorbs.table]
    exact h.values
  · intro _ f hf
    exact absurd hf List.not_mem_nil

open Resolution in
theorem untouched_invariant (hsealed : Sealed D start key permitted) :
    Invariant (fun _ _ => True) resolution.recording (Untouched D start key permitted)
      (AllKnown D) where
  unknown := allKnown_none D
  join := allKnown_joinKnown
  declareType := fun _ h => h.silent (.of_eq rfl rfl)
  enterFunction := fun _ h => h.silent (.of_eq rfl rfl)
  declareFunction := by
    intro c n r ps p hx h hr
    apply h.absorbs (absorbs_declareFunction p.1 c.leave n r ps)
    · exact (values_invariant D).declareFunction hx h.values hr
    · intro _ f hf
      rw [(mem_returnInflows hf).1]
      exact Slot.noConfusion
  useType := fun _ h => h.silent (.emit _ _)
  bind := by
    intro c n v p hx h hv
    apply h.absorbs (absorbs_bindVariable p.1 c n .lexical v)
    · exact (values_invariant D).bind hx h.values hv
    · exact fun hpermitted => hsealed.bind hpermitted trivial
  bindAttribute := by
    intro c n o v p hx h ho hv
    apply h.absorbs (absorbs_bindVariable p.1 c n (.attribute o) v)
    · exact (values_invariant D).bindAttribute hx h.values ho hv
    · exact fun hpermitted => hsealed.bind hpermitted ho
  parameter := by
    intro c n p _ h
    exact h.silent (absorbs_bindVariable p.1 c n .lexical none)
  read := by
    intro c n p hx h
    refine ⟨((values_invariant D).read hx h.values).1, ?_⟩
    exact h.silent (absorbs_readVariable p.1 c n .lexical)
  readAttribute := by
    intro c n o p hx h ho
    refine ⟨((values_invariant D).readAttribute (c := c) hx h.values ho).1, ?_⟩
    exact h.silent (absorbs_readVariable p.1 c n (.attribute o))
  call := by
    intro c k ns callee args named p hx h hcallee hargs hnamed
    have hcall := @Invariant.call _ _ _ _ _ (values_invariant D) c k ns callee args named p.1 hx
      h.values hcallee hargs hnamed
    refine ⟨hcall.1, h.absorbs (absorbs_call p.1 callee args named) hcall.2 ?_⟩
    exact fun _ => hsealed.call h.shape h.values hcallee

/-- The requests of a resolution that bind are those of the given bindings. -/
def Bound (bs : List Binding) (call : HookCall) : Prop :=
  call.binds = true → ∃ b ∈ bs, Realizes resolution (fun _ => True) b call

theorem resolveAll_untouched {bs : List Binding} {schedule : List SourceModule}
    (hsealed : Sealed D start key (Bound bs))
    (hbs : ∀ m ∈ schedule, ∀ b ∈ moduleBindings m, b ∈ bs) (hvalues : start.All D) :
    (resolveAll start schedule).held (.entry key) = start.held (.entry key) := by
  have hrun : ∀ (schedule : List SourceModule) (t : Table),
      (∀ m ∈ schedule, ∀ b ∈ moduleBindings m, b ∈ bs) → t.All D → start.SameShape t →
      t.held (.entry key) = start.held (.entry key) →
      (resolveAll t schedule).held (.entry key) = start.held (.entry key) := by
    intro schedule
    induction schedule with
    | nil => exact fun t _ _ _ h => h
    | cons m schedule ih =>
      intro t hbs ht hshape hheld
      rw [List.forall_mem_cons] at hbs
      have hend := (untouched_invariant hsealed).runModule (m := m) (a := (⟨t, #[], false⟩, []))
        (fun _ _ => trivial) ⟨ht, hshape, fun _ => hheld⟩
      have hbound : ∀ call ∈ hookCalls resolution m ⟨t, #[], false⟩, Bound bs call := by
        intro call hcall hbinds
        obtain ⟨b, hb, hreal⟩ :=
          (hookCalls_accounts resolution m ⟨t, #[], false⟩).sound call hcall hbinds
        exact ⟨b, hbs.1 b hb, hreal.mono fun _ _ _ => trivial⟩
      have htable : (runModule resolution.recording m (⟨t, #[], false⟩, [])).1.table =
          (resolve t m).1 := by
        rw [runModule_recording]
        rfl
      have hsame := hend.held hbound
      have hafter := hend.values
      have hgrown := hend.shape
      rw [htable] at hsame hafter hgrown
      exact ih (resolve t m).1 hbs.2 hafter hgrown hsame
  exact hrun schedule start hbs hvalues (.refl start) rfl

end Resolutions

section Receivers

/-- A key that ends in another name than the receiver's. -/
def EndsElsewhere (key : String) : Prop :=
  ∃ path n, key = path ++ "." ++ n ∧ '.' ∉ n.toList ∧ n ≠ receiverName

theorem EndsElsewhere.ne {key : String} (h : EndsElsewhere key) (c : ScopeChain) :
    key ≠ c.key receiverName := by
  obtain ⟨path, n, rfl, hn, hne⟩ := h
  intro heq
  exact hne (eq_of_dotted hn dotless_receiverName heq).2

theorem mem_furtherNames_of_mem_tail {params : Parameters Expr} {p : Parameter Expr}
    (h : p ∈ (params.positional ++ params.keywordOnly).tail) : p.name ∈ furtherNames params := by
  obtain ⟨positional, vararg, keywordOnly, kwarg⟩ := params
  have hmem : p ∈ positional.tail ∨ p ∈ keywordOnly := by
    cases positional with
    | nil => exact Or.inr (List.mem_of_mem_tail h)
    | cons q positional => exact List.mem_append.mp h
  unfold furtherNames
  rcases hmem with hp | hp
  · apply List.mem_append_left
    exact List.mem_append_left _ (List.mem_append_left _ (List.mem_map_of_mem hp))
  · apply List.mem_append_left
    exact List.mem_append_right _ (List.mem_map_of_mem hp)

theorem mem_boundNames_of_mem {params : Parameters Expr} {p : Parameter Expr}
    (h : p ∈ params.positional ++ params.keywordOnly) : p.name ∈ boundNames params := by
  unfold boundNames
  rcases List.mem_append.mp h with hp | hp
  · apply List.mem_append_left
    exact List.mem_append_left _ (List.mem_append_left _ (List.mem_map_of_mem hp))
  · apply List.mem_append_left
    exact List.mem_append_right _ (List.mem_map_of_mem hp)

variable {ms : List SourceModule}

/-- The arguments of a call go to no receiver, whichever declaration of the function they are
moved into: of a method the first parameter is left out, and other functions have none. -/
theorem receiving_endsElsewhere (hdot : Dotless ms) (hkinds : KindsAgree ms)
    (hkept : ReceiverKept ms) {f g : FunctionValue} (hf : f ∈ ms.flatMap declaredFunctions)
    (hg : g ∈ ms.flatMap declaredFunctions) (hkey : g.key = f.key) :
    ∀ key ∈ f.receiving g.params, EndsElsewhere key := by
  have hbinding : ∀ f ∈ ms.flatMap declaredFunctions, ∃ c n params,
      .function c n params ∈ ms.flatMap moduleBindings ∧ f = boundFunction c n params := by
    intro f hf
    obtain ⟨m, hm, hf⟩ := List.mem_flatMap.mp hf
    obtain ⟨c, n, params, hb, hvalue⟩ := binding_of_declared hf
    exact ⟨c, n, params, List.mem_flatMap.mpr ⟨m, hm, hb⟩, hvalue⟩
  obtain ⟨c, n, params, hb, hvalue⟩ := hbinding f hf
  obtain ⟨c', n', params', hb', hvalue'⟩ := hbinding g hg
  have hname : '.' ∉ f.name.toList := hvalue ▸ hdot _ hb n List.mem_cons_self
  have hname' : '.' ∉ g.name.toList := hvalue' ▸ hdot _ hb' n' List.mem_cons_self
  obtain ⟨hpath, hsame⟩ := eq_of_dotted hname' hname hkey
  have hmethod : g.isMethod = f.isMethod := hkinds.methodsAgree g hg f hf hpath hsame
  obtain ⟨_, hfurther, hfirst⟩ := hkept _ hb'
  have hends : ∀ p ∈ params'.positional ++ params'.keywordOnly, p.name ≠ receiverName →
      EndsElsewhere ((c'.push n' .function).key p.name) := by
    intro p hp hne
    refine ⟨_, p.name, rfl, ?_, hne⟩
    exact hdot _ hb' p.name (List.mem_cons_of_mem n' (mem_boundNames_of_mem hp))
  have hparams : g.params = (params'.positional ++ params'.keywordOnly).map
      fun p => (c'.push n' .function).key p.name := by
    rw [hvalue']
    rfl
  intro key hmem
  unfold FunctionValue.receiving at hmem
  rw [hparams, ← hmethod] at hmem
  by_cases hg' : g.isMethod = true
  · rw [if_pos hg', ← List.map_tail] at hmem
    obtain ⟨p, hp, rfl⟩ := List.mem_map.mp hmem
    apply hends p (List.mem_of_mem_tail hp)
    intro hself
    exact hfurther (hself ▸ mem_furtherNames_of_mem_tail hp)
  · rw [if_neg hg'] at hmem
    obtain ⟨p, hp, rfl⟩ := List.mem_map.mp hmem
    apply hends p hp
    intro hself
    rcases mem_boundNames.mp (mem_boundNames_of_mem hp) with hone | hmore
    · apply hg'
      rw [hvalue']
      exact decide_eq_true (hfirst (hself ▸ hone))
    · exact hfurther (hself ▸ hmore)

/-- A function that is declared, or a class. -/
def Declared (ms : List SourceModule) (v : Value) : Prop :=
  OneOf (ms.flatMap declaredFunctions) v ∧ ClassOf (ms.flatMap declaredClasses) v

theorem definitionRound_all_declared (ms : List SourceModule) :
    (definitionRound ∅ ms).1.All (Declared ms) := fun slot v hv =>
  ⟨(definitionRound_declared ms).values slot v hv, definitionRound_types ms slot v hv⟩

theorem receiver_sealed (hdot : Dotless ms) (hkinds : KindsAgree ms) (hkept : ReceiverKept ms)
    (c : ScopeChain) (f : String) :
    Sealed (Declared ms) (definitionRound ∅ ms).1 ((c.push f .function).key receiverName)
      (Bound (ms.flatMap moduleBindings)) where
  bind := by
    intro t c' n site v hbound hsite g hg hslot
    obtain ⟨key, hkey, hentry, _, hv⟩ := Resolution.mem_bindInflows hg
    have hsame : key = (c.push f .function).key receiverName :=
      Slot.entry.inj (hentry.symm.trans hslot)
    obtain ⟨b, hb, hreal⟩ := hbound rfl
    cases hreal with
    | parameter => cases hv
    | name =>
      have hends : EndsElsewhere key := by
        have hn := hdot _ hb n List.mem_cons_self
        rcases List.mem_append.mp hkey with hkey | hkey
        · obtain ⟨path, hpath⟩ := eq_of_mem_lexicalKeys hkey
          exact ⟨path, n, hpath, hn, hkept _ hb⟩
        · obtain ⟨type, _, hmember⟩ := memberKey?_eq_some.mp (Option.mem_toList.mp hkey)
          exact ⟨"+" ++ type, n, hmember.symm, hn, hkept _ hb⟩
      exact hends.ne _ hsame
    | _ r =>
      obtain ⟨type, htype, rfl⟩ := List.mem_map.mp hkey
      have hclass := (hsite _ (ValueSet.mem_types_iff.mp htype)).2
      have hn := hdot _ hb r.name List.mem_cons_self
      exact memberKey_ne (hdot.classes type hclass) hn dotless_receiverName hsame
  call := by
    intro t callee args named hshape hall hcallee g hg hslot
    obtain ⟨target, htarget, params, hparams, key, hkey, hentry, _⟩ :=
      Resolution.mem_callInflows hg
    have hdeclared := Resolution.all_callTargets hall hcallee _
      (ValueSet.mem_functions_iff.mp htarget)
    have hsigned : t.signaturesOf target ≠ [] := by
      rw [hshape.signaturesOf]
      exact definitionRound_signed hdeclared.1
    rw [Resolution.signatures_eq hsigned, hshape.signaturesOf] at hparams
    rcases ((definitionRound_declared ms).signatures target params).mp hparams with
      hnone | ⟨other, hother, hsame, rfl⟩
    · exact absurd hnone List.not_mem_nil
    · have hends := receiving_endsElsewhere hdot hkinds hkept hdeclared.1 hother hsame key hkey
      exact hends.ne _ (Slot.entry.inj (hentry.symm.trans hslot))

variable {c : ScopeChain} {f type : String} {params : Parameters Expr}

/-- The receiver of a method is known to be of the method's class and nothing else, after any
number of rounds. -/
theorem receiver_of_method (hdot : Dotless ms) (hkinds : KindsAgree ms) (hkept : ReceiverKept ms)
    (hf : .function c f params ∈ ms.flatMap moduleBindings) (hc : c.current = ⟨type, .type⟩)
    (hfirst : firstName? params = some receiverName) (k : Nat) :
    ((afterRounds ms (definitionRound ∅ ms).1 k).get?
      (c.path ++ "." ++ f ++ "." ++ receiverName)).map ValueSet.toList = some [.type type] := by
  obtain ⟨schedule, hschedule, hrounds⟩ : ∃ schedule, (∀ m ∈ schedule, m ∈ ms) ∧
      afterRounds ms (definitionRound ∅ ms).1 k = resolveAll (definitionRound ∅ ms).1 schedule :=
    afterRounds_schedule ms (definitionRound ∅ ms).1 k
  have hbs : ∀ m ∈ schedule, ∀ b ∈ moduleBindings m, b ∈ ms.flatMap moduleBindings :=
    fun m hm b hb => List.mem_flatMap.mpr ⟨m, hschedule m hm, hb⟩
  have hheld := resolveAll_untouched (receiver_sealed hdot hkinds hkept c f) hbs
    (definitionRound_all_declared ms)
  have hstart := definitionRound_receiver hdot hkept hf hc hfirst
  rw [← hheld, ← hrounds] at hstart
  have hmem : Identity.type type ∈ (afterRounds ms (definitionRound ∅ ms).1 k).held
      (.entry ((c.push f .function).key receiverName)) :=
    ValueSet.identity_mem (v := .type type) (hstart ▸ List.mem_singleton_self _)
  obtain ⟨set, hset, _⟩ := Table.exists_slot?_of_mem hmem
  rw [Table.held_of_slot? hset] at hstart
  have hget : (afterRounds ms (definitionRound ∅ ms).1 k).get?
      (c.path ++ "." ++ f ++ "." ++ receiverName) = some set := hset
  rw [hget, Option.map_some, hstart]

theorem receiver_of_store_constructor :
    Dotless [keeping, reading] ∧ KindsAgree [keeping, reading] ∧ ReceiverKept [keeping, reading] ∧
      ((afterRounds [keeping, reading] (definitionRound ∅ [keeping, reading]).1 3).get?
        "store.Store.__init__.self").map ValueSet.toList = some [.type "Store"] := by
  have hdot : Dotless [keeping, reading] := by decide
  have hkinds : KindsAgree [keeping, reading] := by decide
  have hkept : ReceiverKept [keeping, reading] := by decide
  refine ⟨hdot, hkinds, hkept, ?_⟩
  have hf : .function ((ScopeChain.root "store").push "Store" .type) "__init__"
      ⟨[⟨"self", none, none⟩, ⟨"item", none, none⟩], none, [], none⟩ ∈
      [keeping, reading].flatMap moduleBindings := by
    simp [keeping, moduleBindings, blockBindings, stmtBindings]
  exact receiver_of_method hdot hkinds hkept hf rfl rfl 3

end Receivers

end Flow

end NameFlow
