import NameFlow.Proofs.Flow.Inflow

/-!
# What a resolution step tags

Beside the inflows that it sends to the table, each step of a resolution emits features. Like the
inflows they are determined by the operands and the table before the step; of the arguments it
only matters which of them are known.
-/

namespace NameFlow.Flow.Resolution

set_option autoImplicit false

section Tags

/-- The tag of an assignment to a key that exists. -/
def assignTags (t : Table) (key name : String) : List Feature :=
  if t.contains key then [⟨.assigned, name⟩] else []

def argumentTags (t : Table) (key name : String) : Option ValueSet → List Feature
  | some _ => assignTags t key name
  | none => []

def positionalTags (t : Table) (params : List String) (args : List (Option ValueSet)) :
    List Feature :=
  (params.zip args).flatMap fun arg => argumentTags t arg.1 (basename arg.1) arg.2

def keywordTags (t : Table) (params : List String) (named : List (String × Option ValueSet)) :
    List Feature :=
  named.flatMap fun arg =>
    match params.find? (fun key => basename key = arg.1) with
    | some key => argumentTags t key arg.1 arg.2
    | none => []

def functionTags (t : Table) (args : List (Option ValueSet))
    (named : List (String × Option ValueSet)) (f : FunctionValue) : List Feature :=
  ⟨.functionCalled, f.name⟩ :: (signatures t f).flatMap fun params =>
    positionalTags t (f.receiving params) args ++ keywordTags t (f.receiving params) named

def callTags (t : Table) (callee : Option ValueSet) (args : List (Option ValueSet))
    (named : List (String × Option ValueSet)) : List Feature :=
  (callee.getD ∅).types.map (⟨.typeUsed, ·⟩) ++
    (callTargets t (callee.getD ∅)).functions.flatMap (functionTags t args named)

/-- The types of an owner that have a member of the name are tagged, each with the name. -/
def memberTags (t : Table) (role : Role) (owner : Option ValueSet) (name : String) :
    List Feature :=
  (owner.getD ∅).types.flatMap fun type =>
    if t.contains (memberKey type name) then [⟨.resolvedThrough, type⟩, ⟨role, name⟩] else []

def lexicalTags (t : Table) (role : Role) (scopes : ScopeChain) (name : String) : List Feature :=
  if (scopes.lexicalKeys name).any t.contains then [⟨role, name⟩] else []

def siteTags (t : Table) (role : Role) (scopes : ScopeChain) (name : String) : Site → List Feature
  | .attribute owner => memberTags t role owner name
  | .lexical => lexicalTags t role scopes name

def bindTags (t : Table) (scopes : ScopeChain) (name : String) (site : Site) :
    Option ValueSet → List Feature
  | some _ => siteTags t .assigned scopes name site
  | none => []

end Tags

section Shape

variable {t u : Table}

theorem assignTags_congr (h : t.SameShape u) : assignTags u = assignTags t := by
  funext key name
  unfold assignTags
  rw [h.contains]

theorem argumentTags_congr (h : t.SameShape u) : argumentTags u = argumentTags t := by
  funext key name values
  cases values with
  | none => rfl
  | some values => exact congrFun (congrFun (assignTags_congr h) key) name

theorem functionTags_congr (h : t.SameShape u) : functionTags u = functionTags t := by
  funext args named f
  unfold functionTags positionalTags keywordTags signatures
  rw [h.signaturesOf, argumentTags_congr h]

end Shape

/-- The second state is the first after the given features were added; its table has the same
keys and parameter lists. -/
structure Emits (s : State) (tags : List Feature) (s' : State) : Prop where
  features : s'.features.toList = s.features.toList ++ tags
  shape : s.table.SameShape s'.table

namespace Emits

variable {s s' s'' : State} {tags tags' : List Feature}

theorem of_eq (hf : s'.features = s.features) (hshape : s.table.SameShape s'.table) :
    Emits s [] s' := ⟨by rw [hf, List.append_nil], hshape⟩

theorem emit (role : Role) (name : String) : Emits s [⟨role, name⟩] (s.emit role name) :=
  ⟨Array.toList_push, .refl _⟩

theorem trans (h : Emits s tags s') (h' : Emits s' tags' s'') : Emits s (tags ++ tags') s'' :=
  ⟨by rw [h'.features, h.features, List.append_assoc], h.shape.trans h'.shape⟩

/-- A loop emits what its rounds emit. -/
theorem foldl {α γ : Type} (π : γ → State) (round : γ → α → γ) (tags : Table → α → List Feature)
    (hcongr : ∀ {t u}, t.SameShape u → tags u = tags t)
    (hround : ∀ g x, Emits (π g) (tags (π g).table x) (π (round g x))) (xs : List α) (g : γ) :
    Emits (π g) (xs.flatMap (tags (π g).table)) (π (xs.foldl round g)) := by
  induction xs generalizing g with
  | nil => exact of_eq rfl (.refl _)
  | cons x xs ih =>
    have hx := hround g x
    have hxs := ih (round g x)
    rw [hcongr hx.shape] at hxs
    exact hx.trans hxs

end Emits

section Calls

variable (s : State)

theorem emits_merge {key : String} (hk : s.table.contains key = true) (values : ValueSet) :
    Emits s [] (s.merge key values) := .of_eq rfl (absorbs_merge s hk values).shape

theorem emits_assign (key : String) (values : ValueSet) (name : String) :
    Emits s (assignTags s.table key name) (s.assign key values name) := by
  unfold State.assign assignTags
  split
  · rename_i hk
    exact (emits_merge s hk values).trans (.emit .assigned name)
  · exact .of_eq rfl (.refl _)

theorem emits_bindPositional (params : List String) (args : List (Option ValueSet)) :
    Emits s (positionalTags s.table params args) (bindPositional s params args) := by
  unfold positionalTags bindPositional
  apply Emits.foldl id _ fun t (arg : String × Option ValueSet) =>
    argumentTags t arg.1 (basename arg.1) arg.2
  · intro t u h
    rw [argumentTags_congr h]
  · rintro s ⟨key, values⟩
    cases values with
    | none => exact .of_eq rfl (.refl _)
    | some values => exact emits_assign s key values (basename key)

theorem emits_bindKeywords (params : List String) (named : List (String × Option ValueSet)) :
    Emits s (keywordTags s.table params named) (bindKeywords s params named) := by
  unfold keywordTags bindKeywords
  apply Emits.foldl id _ fun t (arg : String × Option ValueSet) =>
    match params.find? (fun key => basename key = arg.1) with
    | some key => argumentTags t key arg.1 arg.2
    | none => []
  · intro t u h
    rw [argumentTags_congr h]
  · rintro s ⟨name, values⟩
    dsimp only [id]
    cases params.find? (fun key => decide (basename key = name)) with
    | none => cases values <;> exact .of_eq rfl (.refl _)
    | some key =>
      cases values with
      | none => exact .of_eq rfl (.refl _)
      | some values => exact emits_assign s key values name

theorem emits_propagate (args : List (Option ValueSet)) (named : List (String × Option ValueSet))
    (f : FunctionValue) :
    Emits s (functionTags s.table args named f) (propagate args named s f) := by
  have hloop := Emits.foldl id
    (fun s params => bindKeywords (bindPositional s (f.receiving params) args)
      (f.receiving params) named)
    (fun t params => positionalTags t (f.receiving params) args ++
      keywordTags t (f.receiving params) named)
    (by
      intro t u h
      unfold positionalTags keywordTags
      rw [argumentTags_congr h])
    (fun s params => by
      have hpositional := emits_bindPositional s (f.receiving params) args
      have hkeywords := emits_bindKeywords (bindPositional s (f.receiving params) args)
        (f.receiving params) named
      unfold keywordTags at hkeywords
      rw [argumentTags_congr hpositional.shape] at hkeywords
      exact hpositional.trans hkeywords)
    (signatures s.table f) (s.emit .functionCalled f.name)
  exact (Emits.emit .functionCalled f.name).trans hloop

theorem emits_types (names : List String) :
    Emits s (names.map (⟨.typeUsed, ·⟩)) (names.foldl (fun s name => s.emit .typeUsed name) s) := by
  have h := Emits.foldl id (fun s name => s.emit .typeUsed name) (fun _ name => [⟨.typeUsed, name⟩])
    (fun _ => rfl) (fun _ name => .emit .typeUsed name) names s
  rwa [← List.map_eq_flatMap] at h

theorem emits_call (callee : Option ValueSet) (args : List (Option ValueSet))
    (named : List (String × Option ValueSet)) :
    Emits s (callTags s.table callee args named) (call callee args named s).2 := by
  cases callee with
  | none => exact .of_eq rfl (.refl _)
  | some callee =>
    have htypes := emits_types s callee.types
    have hloop := Emits.foldl id (propagate args named) (fun t => functionTags t args named)
      (fun h => by rw [functionTags_congr h]) (fun s f => emits_propagate s args named f)
      (callTargets s.table callee).functions
      (callee.types.foldl (fun s name => s.emit .typeUsed name) s)
    dsimp only [id] at hloop
    rw [functionTags_congr htypes.shape] at hloop
    simp only [call, reach_eq]
    exact htypes.trans hloop

end Calls

section Names

variable (s : State)

theorem emits_bindAttribute (owner : Option ValueSet) (name : String) (values : ValueSet) :
    Emits s (memberTags s.table .assigned owner name) (bindAttribute owner name values s).2 := by
  unfold memberTags bindAttribute
  apply Emits.foldl (γ := Option String × State) Prod.snd _ (fun t type =>
    if t.contains (memberKey type name) then [⟨.resolvedThrough, type⟩, ⟨.assigned, name⟩] else [])
    _ _ _ (none, s)
  · intro t u h
    funext type
    rw [h.contains]
  · rintro ⟨bound, s⟩ type
    dsimp only
    split
    · rename_i hk
      exact ((emits_merge s hk values).trans (.emit .resolvedThrough type)).trans
        (.emit .assigned name)
    · exact .of_eq rfl (.refl _)

theorem emits_bindLexical (scopes : ScopeChain) (name : String) (values : ValueSet) :
    Emits s (lexicalTags s.table .assigned scopes name) (bindLexical scopes name values s).2 := by
  unfold lexicalTags bindLexical
  rw [← List.isSome_find?]
  cases hkey : (scopes.lexicalKeys name).find? s.table.contains with
  | none => exact .of_eq rfl (.refl _)
  | some key =>
    have hfirst := (emits_merge s (List.find?_some hkey) values).trans (.emit .assigned name)
    dsimp only
    cases scopes.memberKey? name with
    | none => exact hfirst
    | some member =>
      have hshape := (absorbs_mergeMember ((s.merge key values).emit .assigned name) member
        values).shape
      refine hfirst.trans (.of_eq ?_ hshape)
      dsimp only
      split <;> rfl

theorem emits_bindVariable (scopes : ScopeChain) (name : String) (site : Site)
    (incoming : Option ValueSet) :
    Emits s (bindTags s.table scopes name site incoming)
      (bindVariable scopes name site incoming s).2 := by
  cases incoming with
  | none => exact .of_eq rfl (.refl _)
  | some values =>
    match site with
    | .lexical => exact emits_bindLexical s scopes name values
    | .attribute owner => exact emits_bindAttribute s owner name values

theorem emits_readAttribute (owner : Option ValueSet) (name : String) :
    Emits s (memberTags s.table .variableUsed owner name) (readAttribute owner name s).2 := by
  unfold memberTags readAttribute
  apply Emits.foldl (γ := ValueSet × State) Prod.snd _ (fun t type =>
    if t.contains (memberKey type name) then [⟨.resolvedThrough, type⟩, ⟨.variableUsed, name⟩]
    else []) _ _ _ (∅, s)
  · intro t u h
    funext type
    rw [h.contains]
  · rintro ⟨found, s⟩ type
    have hcontains : s.table.contains (memberKey type name) =
        (s.table.get? (memberKey type name)).isSome := rfl
    dsimp only
    rw [hcontains]
    cases s.table.get? (memberKey type name) with
    | none => exact .of_eq rfl (.refl _)
    | some values => exact (Emits.emit .resolvedThrough type).trans (.emit .variableUsed name)

theorem emits_readVariable (scopes : ScopeChain) (name : String) (site : Site) :
    Emits s (siteTags s.table .variableUsed scopes name site)
      (readVariable scopes name site s).2 := by
  match site with
  | .lexical =>
    have hany : (scopes.lexicalKeys name).any s.table.contains =
        (lookup s.table scopes name).isSome := List.isSome_findSome?.symm
    unfold readVariable siteTags lexicalTags
    dsimp only
    rw [hany]
    cases lookup s.table scopes name with
    | none => exact .of_eq rfl (.refl _)
    | some values => exact .emit .variableUsed name
  | .attribute owner => exact emits_readAttribute s owner name

theorem emits_declareFunction (scopes : ScopeChain) (name : String) (returns : Option ValueSet)
    (params : List String) :
    Emits s [] (resolution.declareFunction scopes name returns params s) := by
  have hshape := (absorbs_declareFunction s scopes name returns params).shape
  cases returns with
  | none => exact .of_eq rfl hshape
  | some values => exact .of_eq rfl hshape

end Names

end NameFlow.Flow.Resolution
