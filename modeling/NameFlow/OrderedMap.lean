/-!
# Insertion-ordered maps

A map keeps its keys in the order in which they were first written. Writing a key that is
present changes its value and leaves its place alone.
-/

namespace NameFlow

set_option autoImplicit false

universe u v

/-- Associations in order of first insertion, no key twice. -/
structure OrderedMap (κ : Type u) (α : Type v) where
  toList : List (κ × α)
  nodup : (toList.map Prod.fst).Nodup

namespace OrderedMap

variable {κ : Type u} {α : Type v}

def empty : OrderedMap κ α := ⟨[], List.nodup_nil⟩

instance : EmptyCollection (OrderedMap κ α) := ⟨empty⟩

instance : Inhabited (OrderedMap κ α) := ⟨empty⟩

def keys (m : OrderedMap κ α) : List κ := m.toList.map Prod.fst

def values (m : OrderedMap κ α) : List α := m.toList.map Prod.snd

def size (m : OrderedMap κ α) : Nat := m.toList.length

def isEmpty (m : OrderedMap κ α) : Bool := m.toList.isEmpty

variable [DecidableEq κ]

/-- The value of the first association of a key. -/
def find (k : κ) : List (κ × α) → Option α
  | [] => none
  | (k', a) :: rest => if k' = k then some a else find k rest

/-- Rewrites the value at a key in place, or appends the key. -/
def put (k : κ) (f : Option α → α) : List (κ × α) → List (κ × α)
  | [] => [(k, f none)]
  | (k', a) :: rest => if k' = k then (k', f (some a)) :: rest else (k', a) :: put k f rest

theorem keys_put (k : κ) (f : Option α → α) (l : List (κ × α)) :
    (put k f l).map Prod.fst =
      if k ∈ l.map Prod.fst then l.map Prod.fst else l.map Prod.fst ++ [k] := by
  induction l with
  | nil => simp [put]
  | cons p rest ih =>
    obtain ⟨k', a⟩ := p
    by_cases h : k' = k
    · simp [put, h]
    · have h' : ¬ k = k' := fun e => h e.symm
      by_cases hm : k ∈ rest.map Prod.fst
      · simp only [put, if_neg h, List.map_cons, ih, List.mem_cons, hm, or_true, if_true]
      · simp only [put, if_neg h, List.map_cons, ih, List.mem_cons, hm, h', or_self, if_false,
          List.cons_append]

theorem nodup_put (k : κ) (f : Option α → α) {l : List (κ × α)}
    (h : (l.map Prod.fst).Nodup) : ((put k f l).map Prod.fst).Nodup := by
  rw [keys_put]
  split
  · exact h
  · rename_i hk
    exact List.nodup_append.2 ⟨h, by simp, by
      intro a ha b hb
      simp only [List.mem_singleton] at hb
      subst hb
      exact fun e => hk (e ▸ ha)⟩

def get? (m : OrderedMap κ α) (k : κ) : Option α := find k m.toList

def contains (m : OrderedMap κ α) (k : κ) : Bool := (m.get? k).isSome

/-- Sets the value at `k` from the present one; a new key goes to the end. -/
def update (m : OrderedMap κ α) (k : κ) (f : Option α → α) : OrderedMap κ α :=
  ⟨put k f m.toList, nodup_put k f m.nodup⟩

def insert (m : OrderedMap κ α) (k : κ) (a : α) : OrderedMap κ α := m.update k fun _ => a

theorem find_put (k k' : κ) (f : Option α → α) (l : List (κ × α)) :
    find k' (put k f l) = if k = k' then some (f (find k l)) else find k' l := by
  induction l with
  | nil => simp [put, find]
  | cons p rest ih =>
    obtain ⟨q, a⟩ := p
    by_cases hq : q = k
    · subst hq
      by_cases h : q = k' <;> simp [put, find, h]
    · by_cases h : k = k'
      · subst h
        simp only [put, find, if_neg hq, ih, if_true]
      · by_cases hq' : q = k'
        · subst hq'
          simp [put, find, hq, h]
        · simp only [put, find, if_neg hq, if_neg hq', ih, if_neg h]

@[simp] theorem get?_empty (k : κ) : (empty : OrderedMap κ α).get? k = none := rfl

theorem get?_update (m : OrderedMap κ α) (k k' : κ) (f : Option α → α) :
    (m.update k f).get? k' = if k = k' then some (f (m.get? k)) else m.get? k' :=
  find_put k k' f m.toList

theorem keys_update (m : OrderedMap κ α) (k : κ) (f : Option α → α) :
    (m.update k f).keys = if k ∈ m.keys then m.keys else m.keys ++ [k] :=
  keys_put k f m.toList

end OrderedMap

end NameFlow
