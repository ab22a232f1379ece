import NameFlow.Proofs.Flow.Separation
import NameFlow.Proofs.Flow.Skeleton
import NameFlow.Proofs.Scope

/-!
# Where an assignment goes

A resolution looks for the key of an assigned name from the current scope outwards and takes the
first one that exists. Since the definitions have entered every assigned name in its own scope, and
no resolution takes a key away, the search ends where it begins. Inside a class body the values go
to the member key as well. That key is meant to be told from the keys of scopes by its first
character, but a module can be called by a name with the same first character: there, a class and
the module around it can share the key of a variable.
-/

namespace NameFlow

set_option autoImplicit false

namespace Table

theorem slot?_receiveAll_of_ne {t : Table} {fs : List Inflow} {slot : Slot}
    (h : ∀ f ∈ fs, f.slot ≠ slot) : (t.receiveAll fs).slot? slot = t.slot? slot := by
  induction fs generalizing t with
  | nil => rfl
  | cons f fs ih =>
    rw [List.forall_mem_cons] at h
    rw [receiveAll_cons, ih h.2, slot?_receive, if_neg h.1]

/-- Values that go to a key several times are added once. -/
theorem slot?_receiveAll_of_mem {t : Table} {fs : List Inflow} {values : ValueSet} {slot : Slot}
    (h : ∀ f ∈ fs, f.values = values) (hmem : ∃ f ∈ fs, f.slot = slot) :
    (t.receiveAll fs).slot? slot = some ((t.held slot).union values) := by
  induction fs generalizing t with
  | nil => exact absurd hmem (by simp)
  | cons f fs ih =>
    rw [List.forall_mem_cons] at h
    obtain ⟨rfl, hrest⟩ := h
    rw [receiveAll_cons]
    by_cases hmore : ∃ g ∈ fs, g.slot = slot
    · rw [ih hrest hmore, held_receive]
      split
      · rename_i hslot
        rw [hslot, ValueSet.union_of_subset fun _ hi => ValueSet.mem_union.mpr (Or.inr hi)]
      · rfl
    · have hf : f.slot = slot := by
        obtain ⟨g, hg, hslot⟩ := hmem
        rcases List.mem_cons.mp hg with rfl | hg
        · exact hslot
        · exact absurd ⟨g, hg, hslot⟩ hmore
      rw [slot?_receiveAll_of_ne fun g hg hslot => hmore ⟨g, hg, hslot⟩, slot?_receive, if_pos hf, hf]

end Table

namespace Flow

open Python Resolution

section Shape

theorem shape_answer (s : Resolution.State) (call : HookCall) :
    s.table.SameShape (resolution.answer s call).table := by
  cases call with
  | declareType c n | enterFunction c n | useType c n => exact .refl _
  | declareFunction c n returns params => exact (absorbs_declareFunction s c n returns params).shape
  | bindVariable c n site v => exact (absorbs_bindVariable s c n site v).shape
  | call c callee args named => exact (absorbs_call s callee args named).shape
  | readVariable c n site => exact (absorbs_readVariable s c n site).shape

/-- Requests to a resolution add no key and take none away. -/
theorem shape_replay (s : Resolution.State) (calls : List HookCall) :
    s.table.SameShape (resolution.replay s calls).table := by
  induction calls generalizing s with
  | nil => exact .refl _
  | cons call calls ih => exact (shape_answer s call).trans (ih (resolution.answer s call))

end Shape

section Keys

/-- A member key is the key of no scope, unless the module's name begins like a member key. -/
theorem memberKey_not_mem_lexicalKeys {root : String} {c : ScopeChain} (hc : Rooted root c)
    (hroot : root.toList.head? ≠ some '+') (type n n' : String) :
    memberKey type n ∉ c.lexicalKeys n' := by
  obtain ⟨opened, rfl⟩ := hc.exists_nested
  exact ScopeChain.memberKey_not_mem_nested hroot type n

/-- The keys that an assignment writes to: that of the current scope and, in the body of a class,
that of the member. -/
def assignedKeys (c : ScopeChain) (n : String) : List String := c.key n :: (c.memberKey? n).toList

/-- Where both keys exist, the values go to these keys and nowhere else. -/
theorem bindLexical_of_contains {s : Resolution.State} {c : ScopeChain} {n : String}
    (h : ∀ key ∈ assignedKeys c n, s.table.contains key = true) (values : ValueSet) :
    (bindLexical c n values s).1 = some (c.key n) ∧
      (bindLexical c n values s).2.table =
        s.table.receiveAll ((assignedKeys c n).map fun key => ⟨.entry key, values⟩) := by
  have hfind : (c.lexicalKeys n).find? s.table.contains = some (c.key n) := by
    rw [ScopeChain.lexicalKeys_eq, List.find?_cons_of_pos (h _ List.mem_cons_self)]
  constructor
  · unfold bindLexical
    rw [hfind]
    cases c.memberKey? n <;> rfl
  · rw [(absorbs_bindLexical s c n values).table]
    unfold lexicalInflows assignedKeys
    rw [hfind]
    cases hmember : c.memberKey? n with
    | none => rfl
    | some member =>
      have hcontains : s.table.contains member = true :=
        h member (List.mem_cons_of_mem _ (Option.mem_toList.mpr hmember))
      simp [entryInflow, hcontains]

end Keys

section Assignments

/-- A resolution of the module that starts on the table comes, in the state `s`, to a plain name
and binds it to known values. -/
def Assigns (t : Table) (m : SourceModule) (s : Resolution.State) (c : ScopeChain) (n : String)
    (values : ValueSet) : Prop :=
  ∃ before after, hookCalls resolution m ⟨t, #[], false⟩ =
      before ++ .bindVariable c n .lexical (some values) :: after ∧
    s = resolution.replay ⟨t, #[], false⟩ before

variable {t : Table} {m : SourceModule} {s : Resolution.State} {c : ScopeChain} {n : String}
  {values : ValueSet}

theorem Assigns.mem_hookCalls (h : Assigns t m s c n values) :
    .bindVariable c n .lexical (some values) ∈ hookCalls resolution m ⟨t, #[], false⟩ := by
  obtain ⟨before, after, hcalls, _⟩ := h
  rw [hcalls]
  exact List.mem_append_right before List.mem_cons_self

theorem Assigns.shape (h : Assigns t m s c n values) : t.SameShape s.table := by
  obtain ⟨before, _, _, rfl⟩ := h
  exact shape_replay ⟨t, #[], false⟩ before

/-- The name is one that the tree binds. A parameter is none: nothing is known of it. -/
theorem Assigns.binding (h : Assigns t m s c n values) : .name c n ∈ moduleBindings m := by
  obtain ⟨b, hb, hreal⟩ := (hookCalls_accounts resolution m _).sound _ h.mem_hookCalls rfl
  cases hreal with
  | name => exact hb

theorem Assigns.rooted (h : Assigns t m s c n values) : Rooted m.root c := by
  have hout := List.mem_map_of_mem (f := HookCall.outline) h.mem_hookCalls
  rw [outline_hookCalls] at hout
  obtain ⟨⟨around, x⟩, hvisit, hx⟩ := List.mem_filterMap.mp hout
  cases x with
  | bind n' | parameter n' =>
    obtain ⟨rfl, rfl, _⟩ := Outline.bindVariable.inj (Option.some.inj hx)
    exact rooted_of_mem_moduleVisits _ hvisit
  | _ => cases hx

theorem contains_of_opened {ms : List SourceModule} {key : String}
    (h : Opened (ms.flatMap moduleBindings) (Arrives ∅ ms) key) :
    (definitionRound ∅ ms).1.contains key = true := by
  rw [definitionRound_eq_enter]
  exact OrderedMap.contains_iff.mpr (((skeleton_entered ms).keys key).mpr h)

/-- The definitions have entered all keys of every name that a tree binds. -/
theorem definitionRound_contains_assigned {ms : List SourceModule} (hm : m ∈ ms)
    (hb : .name c n ∈ moduleBindings m) :
    ∀ key ∈ assignedKeys c n, (definitionRound ∅ ms).1.contains key = true := by
  have hall : .name c n ∈ ms.flatMap moduleBindings := List.mem_flatMap.mpr ⟨m, hm, hb⟩
  intro key hkey
  rcases List.mem_cons.mp hkey with rfl | hkey
  · exact contains_of_opened (.name hall)
  · obtain ⟨type, hc, rfl⟩ := memberKey?_eq_some.mp (Option.mem_toList.mp hkey)
    exact contains_of_opened (.member hall hc)

/-- The table after the assignment. -/
def assigned (s : Resolution.State) (c : ScopeChain) (n : String) (values : ValueSet) : Table :=
  (resolution.bindVariable c n .lexical (some values) s).2.table

/-- Whenever a resolution comes to an assignment, the name is bound to the key of its own scope.
The values go to this key and, in a class body, to the member key, and no other slot changes. So
none of the keys in the scopes around is written, unless it is the member key, which it can only be
in a module whose name begins with a plus sign. -/
theorem assignment_writes_own_scope (ms schedule : List SourceModule) (hm : m ∈ ms)
    (h : Assigns (resolveAll (definitionRound ∅ ms).1 schedule) m s c n values) :
    (c.lexicalKeys n).head? = some (c.key n) ∧
      (resolution.bindVariable c n .lexical (some values) s).1 = some (c.key n) ∧
      (∀ key ∈ assignedKeys c n, (assigned s c n values).slot? (.entry key) =
        some ((s.table.held (.entry key)).union values)) ∧
      (∀ slot, slot ∉ (assignedKeys c n).map Slot.entry →
        (assigned s c n values).slot? slot = s.table.slot? slot) ∧
      (∀ key ∈ (c.lexicalKeys n).tail, key ∈ assignedKeys c n ↔ c.memberKey? n = some key) ∧
      (m.root.toList.head? ≠ some '+' → ∀ key ∈ (c.lexicalKeys n).tail,
        (assigned s c n values).slot? (.entry key) = s.table.slot? (.entry key)) := by
  have hcontains : ∀ key ∈ assignedKeys c n, s.table.contains key = true := by
    intro key hkey
    rw [h.shape.contains, (resolveAll_grows _ schedule).shape.contains]
    exact definitionRound_contains_assigned hm h.binding key hkey
  obtain ⟨hbound, htable⟩ := bindLexical_of_contains hcontains values
  have hother : ∀ slot, slot ∉ (assignedKeys c n).map Slot.entry →
      (assigned s c n values).slot? slot = s.table.slot? slot := by
    intro slot hslot
    refine (congrArg (·.slot? slot) htable).trans (Table.slot?_receiveAll_of_ne ?_)
    rintro f hf rfl
    obtain ⟨key, hkey, rfl⟩ := List.mem_map.mp hf
    exact hslot (List.mem_map_of_mem hkey)
  have hmember : ∀ key ∈ (c.lexicalKeys n).tail,
      key ∈ assignedKeys c n ↔ c.memberKey? n = some key := by
    intro key hkey
    have hne : key ≠ c.key n := fun heq => ScopeChain.key_not_mem_outer c n (heq ▸ hkey)
    unfold assignedKeys
    rw [List.mem_cons, or_iff_right hne]
    exact Option.mem_toList
  refine ⟨rfl, hbound, fun key hkey => ?_, hother, hmember, fun hroot key hkey => ?_⟩
  · refine (congrArg (·.slot? (.entry key)) htable).trans (Table.slot?_receiveAll_of_mem ?_ ?_)
    · simp
    · exact ⟨_, List.mem_map_of_mem hkey, rfl⟩
  · apply hother
    intro hslot
    obtain ⟨_, hwritten, hentry⟩ := List.mem_map.mp hslot
    cases hentry
    obtain ⟨type, _, rfl⟩ := memberKey?_eq_some.mp ((hmember key hkey).mp hwritten)
    exact memberKey_not_mem_lexicalKeys h.rooted hroot type n n (List.mem_of_mem_tail hkey)

/-- A class body and the module around it assign to the same name. -/
def stockedFile (root : String) : SourceModule :=
  ⟨root ++ ".py", root,
    [.classDef "Crate" [] [.opaqueStmt],
     .classDef "Shelf" [] [.assign [.name "item"] (.call (.name "Crate") [] [])],
     .assign [.name "item"] .constant,
     .assign [.name "held"] (.name "item")]⟩

def shelfBody (root : String) : ScopeChain := (ScopeChain.root root).push "Shelf" .type

/-- The state in which a resolution comes to the assignment in the class body. -/
def stocking (root : String) : Resolution.State :=
  resolution.replay ⟨(definitionRound ∅ [stockedFile root]).1, #[], false⟩
    ((hookCalls resolution (stockedFile root)
      ⟨(definitionRound ∅ [stockedFile root]).1, #[], false⟩).take 4)

theorem shop_item_untouched :
    Assigns (definitionRound ∅ [stockedFile "shop"]).1 (stockedFile "shop") (stocking "shop")
        (shelfBody "shop") "item" (.ofList [.type "Crate"]) ∧
      (resolution.bindVariable (shelfBody "shop") "item" .lexical (some (.ofList [.type "Crate"]))
        (stocking "shop")).1 = some "shop.Shelf.item" ∧
      (assigned (stocking "shop") (shelfBody "shop") "item" (.ofList [.type "Crate"])).slot?
        (.entry "shop.item") = (stocking "shop").table.slot? (.entry "shop.item") := by
  have hassigns : Assigns (definitionRound ∅ [stockedFile "shop"]).1 (stockedFile "shop")
      (stocking "shop") (shelfBody "shop") "item" (.ofList [.type "Crate"]) :=
    ⟨_, (hookCalls resolution (stockedFile "shop")
      ⟨(definitionRound ∅ [stockedFile "shop"]).1, #[], false⟩).drop 5, by decide +kernel, rfl⟩
  obtain ⟨_, hbound, _, _, _, houter⟩ :=
    assignment_writes_own_scope [stockedFile "shop"] [] List.mem_cons_self hassigns
  exact ⟨hassigns, hbound, houter (by decide) "shop.item" (by decide)⟩

/-- In a module that is called like the member key of a class, the class body writes the variable of
the module. -/
theorem plus_module_shares_item :
    ∃ s, Assigns (definitionRound ∅ [stockedFile "+Shelf"]).1 (stockedFile "+Shelf") s
        (shelfBody "+Shelf") "item" (.ofList [.type "Crate"]) ∧
      ∃ key ∈ ((shelfBody "+Shelf").lexicalKeys "item").tail,
        .type "Crate" ∉ s.table.held (.entry key) ∧
        .type "Crate" ∈
          (assigned s (shelfBody "+Shelf") "item" (.ofList [.type "Crate"])).held (.entry key) := by
  refine ⟨stocking "+Shelf", ⟨_, (hookCalls resolution (stockedFile "+Shelf")
    ⟨(definitionRound ∅ [stockedFile "+Shelf"]).1, #[], false⟩).drop 5, ?_, rfl⟩, "+Shelf.item", ?_⟩
  · decide +kernel
  · decide +kernel

end Assignments

end Flow

end NameFlow
