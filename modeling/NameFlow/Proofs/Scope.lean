import Mathlib.Data.List.Induction
import NameFlow.Scope

/-!
# The keys of a name in a chain of scopes

A key is text, and two scopes share a variable if they give the same text. Taken apart at its dots
from the end, a key gives back the names that it was joined from, as long as these have no dot of
their own; the root, which may have any, is what remains. The keys of one name get shorter from the
current scope outwards, so that no two of them are the same, whatever the scopes are called. All of
them begin with the root and a dot, and are told from member keys by their first character.
-/

namespace NameFlow

set_option autoImplicit false

section Dots

/-- The name at the end of a key is what follows its last dot. -/
theorem basename_dotted (path : String) {n : String} (hn : '.' ∉ n.toList) :
    basename (path ++ "." ++ n) = n := by
  have hname : ∀ a ∈ n.toList.reverse, (a != '.') = true := by
    intro a ha
    rw [bne_iff_ne]
    rintro rfl
    exact hn (List.mem_reverse.mp ha)
  have hdot : ".".toList = ['.'] := rfl
  unfold basename
  rw [String.toList_append, String.toList_append, List.reverse_append, List.reverse_append, hdot,
    List.takeWhile_append_of_pos hname]
  simp

/-- A key can be taken apart at its last dot. -/
theorem eq_of_dotted {a a' b b' : String} (hb : '.' ∉ b.toList) (hb' : '.' ∉ b'.toList)
    (h : a ++ "." ++ b = a' ++ "." ++ b') : a = a' ∧ b = b' := by
  have hname : b = b' := by
    rw [← basename_dotted a hb, h, basename_dotted a' hb']
  subst hname
  have hchars := congrArg String.toList h
  simp only [String.toList_append, List.append_assoc] at hchars
  exact ⟨String.toList_injective (List.append_cancel_right hchars), rfl⟩

theorem toList_prefix_append (a b : String) : a.toList <+: (a ++ b).toList := by
  rw [String.toList_append]
  exact List.prefix_append _ _

/-- A text that begins with a plus sign begins with no other root. -/
theorem not_prefix_plus {root : String} (hroot : root.toList.head? ≠ some '+') (rest : List Char) :
    ¬ (root ++ ".").toList <+: '+' :: rest := by
  intro h
  rw [String.toList_append] at h
  cases hchars : root.toList with
  | nil =>
    -- an empty root leaves the dot as the first character
    rw [hchars] at h
    exact absurd (List.cons_prefix_cons.mp h).1 (by decide)
  | cons c chars =>
    rw [hchars] at h hroot
    exact hroot (congrArg some (List.cons_prefix_cons.mp h).1)

theorem memberKey_inj {type type' n n' : String} (hn : '.' ∉ n.toList) (hn' : '.' ∉ n'.toList)
    (h : memberKey type n = memberKey type' n') : type = type' ∧ n = n' := by
  obtain ⟨htype, rfl⟩ := eq_of_dotted hn hn' h
  have hchars := congrArg String.toList htype
  simp only [String.toList_append] at hchars
  exact ⟨String.toList_injective (List.append_cancel_left hchars), rfl⟩

end Dots

namespace ScopeChain

section Outwards

theorem lexicalKeys_eq (c : ScopeChain) (name : String) :
    c.lexicalKeys name = c.key name :: keysFrom name c.outer := rfl

theorem length_joined_lt (s s' : Scope) (rest : List Scope) :
    (joined (s' :: rest)).length < (joined (s :: s' :: rest)).length := by
  have hjoined : joined (s :: s' :: rest) = joined (s' :: rest) ++ "." ++ s.name := rfl
  have hdot : ".".length = 1 := rfl
  rw [hjoined, String.length_append, String.length_append, hdot]
  omega

theorem pairwise_keysFrom (name : String) (scopes : List Scope) :
    (keysFrom name scopes).Pairwise fun inner outer => outer.length < inner.length := by
  induction scopes with
  | nil => exact .nil
  | cons s rest ih =>
    refine List.pairwise_cons.mpr ⟨?_, ih⟩
    cases rest with
    | nil => exact nofun
    | cons s' rest =>
      have hnext : (joined (s' :: rest) ++ "." ++ name).length <
          (joined (s :: s' :: rest) ++ "." ++ name).length := by
        have hlength := length_joined_lt s s' rest
        simp only [String.length_append]
        omega
      intro key hkey
      rcases List.mem_cons.mp hkey with rfl | hkey
      · exact hnext
      · exact Nat.lt_trans ((List.pairwise_cons.mp ih).1 key hkey) hnext

/-- The key of the current scope is none of the scopes around it. -/
theorem key_not_mem_outer (c : ScopeChain) (name : String) : c.key name ∉ keysFrom name c.outer := by
  intro hkey
  have hpairs := pairwise_keysFrom name c.scopes
  exact Nat.lt_irrefl _ ((List.pairwise_cons.mp hpairs).1 _ hkey)

theorem nodup_lexicalKeys (c : ScopeChain) (name : String) : (c.lexicalKeys name).Nodup := by
  apply (pairwise_keysFrom name c.scopes).imp
  rintro inner outer hlength rfl
  exact Nat.lt_irrefl _ hlength

end Outwards

theorem eq_of_scopes {c c' : ScopeChain} (h : c.scopes = c'.scopes) : c = c' := by
  obtain ⟨current, outer⟩ := c
  obtain ⟨current', outer'⟩ := c'
  obtain ⟨rfl, rfl⟩ := List.cons.inj h
  rfl

section Nested

/-- The chain in which scopes have been opened below a root, the last one innermost. -/
def nested (root : String) (opened : List Scope) : ScopeChain :=
  opened.foldl (fun c s => c.push s.name s.kind) (.root root)

variable {root n n' : String} {opened opened' : List Scope}

theorem nested_concat (root : String) (opened : List Scope) (s : Scope) :
    nested root (opened ++ [s]) = (nested root opened).push s.name s.kind := List.foldl_append

theorem scopes_nested (root : String) (opened : List Scope) :
    (nested root opened).scopes = opened.reverse ++ [⟨root, .root⟩] := by
  induction opened using List.reverseRecOn with
  | nil => rfl
  | append_singleton opened s ih =>
    rw [nested_concat, List.reverse_concat, List.cons_append, ← ih]
    rfl

/-- A name has the key that would be the path of a scope of this name. -/
theorem path_concat (root : String) (opened : List Scope) (s : Scope) :
    (nested root (opened ++ [s])).path = (nested root opened).key s.name := by
  rw [nested_concat]
  rfl

theorem lexicalKeys_concat (root : String) (opened : List Scope) (s : Scope) (n : String) :
    (nested root (opened ++ [s])).lexicalKeys n =
      (nested root (opened ++ [s])).key n :: (nested root opened).lexicalKeys n := by
  rw [nested_concat]
  rfl

/-- Whatever scopes are open, a key begins with the root and a dot. -/
theorem root_dot_prefix_key (root : String) (opened : List Scope) (n : String) :
    (root ++ ".").toList <+: ((nested root opened).key n).toList := by
  induction opened using List.reverseRecOn generalizing n with
  | nil => exact toList_prefix_append (root ++ ".") n
  | append_singleton opened s ih =>
    have hkey : (nested root (opened ++ [s])).key n =
        (nested root opened).key s.name ++ ("." ++ n) := by
      rw [← path_concat, ← String.append_assoc]
      rfl
    rw [hkey]
    exact (ih s.name).trans (toList_prefix_append _ _)

theorem path_concat_ne_root (root : String) (opened : List Scope) (s : Scope) :
    (nested root (opened ++ [s])).path ≠ root := by
  intro h
  have hbegins := root_dot_prefix_key root opened s.name
  rw [← path_concat, h] at hbegins
  have hlength := hbegins.length_le
  rw [String.toList_append, List.length_append] at hlength
  exact absurd hlength (Nat.not_succ_le_self _)

/-- Below one root the path tells the names of all scopes, whatever their kinds. -/
theorem path_nested_eq_iff (h : ∀ s ∈ opened, '.' ∉ s.name.toList)
    (h' : ∀ s ∈ opened', '.' ∉ s.name.toList) :
    (nested root opened).path = (nested root opened').path ↔
      opened.map Scope.name = opened'.map Scope.name := by
  -- both paths are taken apart at their last dots, until one of the chains is down to the root
  induction opened using List.reverseRecOn generalizing opened' with
  | nil =>
    cases opened' using List.reverseRecOn with
    | nil => exact iff_of_true rfl rfl
    | append_singleton opened' s' =>
      exact iff_of_false (path_concat_ne_root root opened' s').symm (by simp)
  | append_singleton opened s ih =>
    cases opened' using List.reverseRecOn with
    | nil => exact iff_of_false (path_concat_ne_root root opened s) (by simp)
    | append_singleton opened' s' =>
      rw [List.forall_mem_append, List.forall_mem_singleton] at h h'
      have hnames := ih h.1 h'.1
      rw [List.map_append, List.map_append, List.map_singleton, List.map_singleton,
        List.append_singleton_inj, ← hnames, path_concat, path_concat]
      constructor
      · exact eq_of_dotted h.2 h'.2
      · rintro ⟨hpath, hname⟩
        rw [key, key, hpath, hname]

/-- Below one root the key tells the names of all scopes and that of the variable. -/
theorem key_nested_eq_iff (h : ∀ s ∈ opened, '.' ∉ s.name.toList)
    (h' : ∀ s ∈ opened', '.' ∉ s.name.toList) (hn : '.' ∉ n.toList) (hn' : '.' ∉ n'.toList) :
    (nested root opened).key n = (nested root opened').key n' ↔
      opened.map Scope.name = opened'.map Scope.name ∧ n = n' := by
  have hinner : ∀ s ∈ opened ++ [Scope.mk n .function], '.' ∉ s.name.toList :=
    List.forall_mem_append.mpr ⟨h, List.forall_mem_singleton.mpr hn⟩
  have hinner' : ∀ s ∈ opened' ++ [Scope.mk n' .function], '.' ∉ s.name.toList :=
    List.forall_mem_append.mpr ⟨h', List.forall_mem_singleton.mpr hn'⟩
  calc (nested root opened).key n = (nested root opened').key n'
      ↔ (nested root (opened ++ [Scope.mk n .function])).path =
          (nested root (opened' ++ [Scope.mk n' .function])).path := by rw [path_concat, path_concat]
    _ ↔ (opened ++ [Scope.mk n .function]).map Scope.name =
          (opened' ++ [Scope.mk n' .function]).map Scope.name := path_nested_eq_iff hinner hinner'
    _ ↔ opened.map Scope.name = opened'.map Scope.name ∧ n = n' := by
      rw [List.map_append, List.map_append]
      exact List.append_singleton_inj

/-- A name has a key for each beginning of the chain, and no others. -/
theorem mem_lexicalKeys_nested {key : String} :
    key ∈ (nested root opened).lexicalKeys n ↔
      ∃ outer, outer <+: opened ∧ key = (nested root outer).key n := by
  induction opened using List.reverseRecOn with
  | nil =>
    simp only [List.prefix_nil, exists_eq_left]
    exact List.mem_singleton
  | append_singleton opened s ih =>
    rw [lexicalKeys_concat, List.mem_cons, ih]
    simp only [List.prefix_concat_iff, or_and_right, exists_or, exists_eq_left]

theorem root_dot_prefix_lexicalKey {key : String}
    (h : key ∈ (nested root opened).lexicalKeys n) : (root ++ ".").toList <+: key.toList := by
  obtain ⟨outer, _, rfl⟩ := mem_lexicalKeys_nested.mp h
  exact root_dot_prefix_key root outer n

/-- A member key is the key of no scope, unless the root's name begins like a member key. -/
theorem memberKey_not_mem_nested (hroot : root.toList.head? ≠ some '+') (type m : String) :
    memberKey type m ∉ (nested root opened).lexicalKeys n := by
  intro hkey
  have hbegins := root_dot_prefix_lexicalKey hkey
  have hmember : (memberKey type m).toList = '+' :: (type ++ "." ++ m).toList := by
    simp [memberKey]
  rw [hmember] at hbegins
  exact not_prefix_plus hroot _ hbegins

/-- Keys below one root do not alias: they are equal for equal names of scopes and variable only, a
name has one key for each scope of the chain and ends all of them, and member keys stand apart from
each other and, unless the root begins with their first character, from the keys of scopes. -/
theorem keys_do_not_alias (root : String) :
    (∀ (opened opened' : List Scope) (n n' : String),
      (∀ s ∈ opened, '.' ∉ s.name.toList) → (∀ s ∈ opened', '.' ∉ s.name.toList) →
      '.' ∉ n.toList → '.' ∉ n'.toList →
      ((nested root opened).key n = (nested root opened').key n' ↔
        opened.map Scope.name = opened'.map Scope.name ∧ n = n')) ∧
    (∀ (opened : List Scope) (n : String),
      ((nested root opened).lexicalKeys n).head? = some ((nested root opened).key n) ∧
      ((nested root opened).lexicalKeys n).Nodup ∧
      ∀ key, key ∈ (nested root opened).lexicalKeys n ↔
        ∃ outer, outer <+: opened ∧ key = (nested root outer).key n) ∧
    (∀ (opened : List Scope) (n : String),
      '.' ∉ n.toList → basename ((nested root opened).key n) = n) ∧
    (∀ type type' n n' : String, '.' ∉ n.toList → '.' ∉ n'.toList →
      memberKey type n = memberKey type' n' → type = type' ∧ n = n') ∧
    (root.toList.head? ≠ some '+' → ∀ (opened : List Scope) (n type m : String),
      memberKey type m ∉ (nested root opened).lexicalKeys n) := by
  refine ⟨?_, ?_, ?_, ?_, ?_⟩
  · intro opened opened' n n' h h' hn hn'
    exact key_nested_eq_iff h h' hn hn'
  · intro opened n
    exact ⟨rfl, nodup_lexicalKeys _ n, fun key => mem_lexicalKeys_nested⟩
  · intro opened n hn
    exact basename_dotted (nested root opened).path hn
  · intro type type' n n' hn hn'
    exact memberKey_inj hn hn'
  · intro hroot opened n type m
    exact memberKey_not_mem_nested hroot type m

/-- A root with a dot and a scope without a name cause no confusion. -/
theorem shelf_keys_apart :
    (nested "shop.stock" [⟨"Shelf", .type⟩, ⟨"", .function⟩]).key "item" ≠
      (nested "shop.stock" [⟨"Shelf", .type⟩]).key "item" ∧
    (nested "shop.stock" [⟨"Shelf", .type⟩]).key "item" =
      (nested "shop.stock" [⟨"Shelf", .function⟩]).key "item" ∧
    basename ((nested "shop.stock" [⟨"Shelf", .type⟩]).key "item") = "item" ∧
    memberKey "Shelf" "item" ≠ memberKey "Crate" "item" ∧
    memberKey "Shelf" "item" ∉ (nested "shop.stock" [⟨"Shelf", .type⟩]).lexicalKeys "item" := by
  obtain ⟨hkeys, -, hbase, hmembers, hapart⟩ := keys_do_not_alias "shop.stock"
  refine ⟨?_, ?_, ?_, ?_, ?_⟩
  · intro heq
    have hnames := (hkeys _ _ _ _ (by decide) (by decide) (by decide) (by decide)).mp heq
    exact absurd hnames.1 (by decide)
  · exact (hkeys _ _ _ _ (by decide) (by decide) (by decide) (by decide)).mpr ⟨rfl, rfl⟩
  · exact hbase _ _ (by decide)
  · intro heq
    exact absurd (hmembers _ _ _ _ (by decide) (by decide) heq).1 (by decide)
  · exact hapart (by decide) _ _ _ _

end Nested

end ScopeChain

end NameFlow
