import Mathlib.Data.List.DropRight
import NameFlow.Files.Path

/-!
# Root names

The parts of a root name are always in normal form: the root, if the path has one, then parents that
no name before them cancels, then names. A dot, or a detour through a directory and back, put into a
path before its last component does not change the root name, and a path that is in normal form
already keeps its parts, the file name less its extension.
-/

namespace NameFlow.Files

set_option autoImplicit false

/-! ## Segments -/

section Segments

variable {path name segment : List Char}

theorem segments_slash (path : List Char) : segments ('/' :: path) = [] :: segments path := rfl

theorem segments_ne_nil (path : List Char) : segments path ≠ [] := by
  cases path with
  | nil => exact List.cons_ne_nil _ _
  | cons c path =>
    simp only [segments, List.foldr_cons]
    split
    · exact List.cons_ne_nil _ _
    · split <;> exact List.cons_ne_nil _ _

theorem segments_char {c : Char} (hc : c ≠ '/') (path : List Char) :
    ∃ segment rest, segments path = segment :: rest ∧
      segments (c :: path) = (c :: segment) :: rest := by
  obtain ⟨segment, rest, h⟩ := List.exists_cons_of_ne_nil (segments_ne_nil path)
  refine ⟨segment, rest, h, ?_⟩
  unfold segments at h ⊢
  rw [List.foldr_cons, h]
  exact if_neg hc

theorem segments_append_slash (front back : List Char) :
    segments (front ++ '/' :: back) = segments front ++ segments back := by
  induction front with
  | nil => rfl
  | cons c front ih =>
    by_cases hc : c = '/'
    · subst hc
      rw [List.cons_append, segments_slash, segments_slash, ih, List.cons_append]
    · obtain ⟨segment, rest, hfront, hcons⟩ := segments_char hc front
      obtain ⟨segment', rest', hall, hcons'⟩ := segments_char hc (front ++ '/' :: back)
      rw [ih, hfront, List.cons_append] at hall
      obtain ⟨rfl, rfl⟩ := List.cons.inj hall
      rw [List.cons_append, hcons', hcons, List.cons_append]

theorem segments_of_no_slash (h : '/' ∉ name) : segments name = [name] := by
  induction name with
  | nil => rfl
  | cons c name ih =>
    rw [List.mem_cons, not_or] at h
    obtain ⟨segment, rest, hname, hcons⟩ := segments_char (Ne.symm h.1) name
    rw [ih h.2] at hname
    cases hname
    exact hcons

theorem no_slash_of_mem_segments (h : segment ∈ segments path) : '/' ∉ segment := by
  induction path generalizing segment with
  | nil =>
    rw [List.mem_singleton.mp h]
    exact List.not_mem_nil
  | cons c path ih =>
    by_cases hc : c = '/'
    · subst hc
      rcases List.mem_cons.mp h with rfl | h
      · exact List.not_mem_nil
      · exact ih h
    · obtain ⟨first, rest, hpath, hcons⟩ := segments_char hc path
      rw [hpath] at ih
      rw [hcons] at h
      rcases List.mem_cons.mp h with rfl | h
      · rw [List.mem_cons, not_or]
        exact ⟨Ne.symm hc, ih List.mem_cons_self⟩
      · exact ih (List.mem_cons_of_mem _ h)

theorem segments_intercalate {segs : List (List Char)} (hne : segs ≠ [])
    (h : ∀ segment ∈ segs, '/' ∉ segment) : segments (['/'].intercalate segs) = segs := by
  induction segs with
  | nil => exact absurd rfl hne
  | cons segment rest ih =>
    have hsegment := segments_of_no_slash (h segment List.mem_cons_self)
    cases rest with
    | nil => rwa [List.intercalate_singleton]
    | cons next rest =>
      have hrest := ih (List.cons_ne_nil _ _) fun s hs => h s (List.mem_cons_of_mem _ hs)
      rw [List.intercalate_cons_cons, List.append_assoc, List.singleton_append,
        segments_append_slash, hsegment, hrest, List.singleton_append]

end Segments

/-! ## The file name -/

section Extension

variable {path name segment : List Char} {segs front back : List (List Char)}

theorem mem_of_mem_stem {c : Char} (h : c ∈ stem name) : c ∈ name := by
  unfold stem at h
  split at h
  · exact h
  · exact h
  · rename_i dot before hrest
    have hmem : c ∈ name.reverse.dropWhile (· ≠ '.') := by
      rw [hrest]
      exact List.mem_cons_of_mem _ (List.mem_reverse.mp h)
    exact List.mem_reverse.mp (List.dropWhile_subset _ hmem)

/-- All that can happen: nothing, or the file name is cut and what follows it is gone. -/
theorem dropExtension_cases (segs : List (List Char)) :
    dropExtension segs = segs ∨ ∃ directory name trailing short,
      segs = directory ++ name :: trailing ∧ isIdle name = false ∧
        dropExtension segs = directory ++ [short] ∧ (short = stem name ∨ short = parent) := by
  unfold dropExtension
  split
  · exact .inl rfl
  · rename_i name directory hdrop
    by_cases hname : name = parent
    · exact .inl (if_pos hname)
    refine .inr ⟨directory.reverse, name, (segs.reverse.takeWhile isIdle).reverse, _, ?_, ?_,
      (if_neg hname).trans List.reverse_cons, ?_⟩
    · have hsplit := congrArg List.reverse
        (List.takeWhile_append_dropWhile (p := isIdle) (l := segs.reverse))
      rw [List.reverse_reverse, hdrop] at hsplit
      simpa using hsplit.symm
    · have hhead := List.head?_dropWhile_not isIdle segs.reverse
      rwa [hdrop] at hhead
    · split
      · exact .inr rfl
      · exact .inl rfl

theorem dropExtension_of_idle (h : ∀ segment ∈ segs, isIdle segment = true) :
    dropExtension segs = segs := by
  rcases dropExtension_cases segs with heq | ⟨directory, name, trailing, short, rfl, hname, _⟩
  · exact heq
  · have hidle := h name (by simp)
    rw [hname] at hidle
    cases hidle

/-- Only what stands from the file name on is changed. -/
theorem dropExtension_append (hmem : segment ∈ back) (hidle : isIdle segment = false) :
    dropExtension (front ++ back) = front ++ dropExtension back := by
  have hdrop : back.reverse.dropWhile isIdle ≠ [] := by
    rw [Ne, List.dropWhile_eq_nil_iff]
    intro hall
    rw [hall segment (List.mem_reverse.mpr hmem)] at hidle
    cases hidle
  -- so the file name is looked for in `back` alone, and it is last in both or in none
  obtain ⟨name, directory, hname⟩ := List.exists_cons_of_ne_nil hdrop
  have hlast : (front ++ back).getLast? = back.getLast? :=
    List.getLast?_append_of_ne_nil _ (List.ne_nil_of_mem hmem)
  unfold dropExtension
  rw [List.reverse_append, List.dropWhile_append, hname, hlast]
  simp only [List.isEmpty_cons, Bool.false_eq_true, if_false, List.cons_append]
  split
  · rfl
  · simp

theorem dropExtension_parent (h : ∀ segment ∈ back, isIdle segment = true) :
    dropExtension (parent :: back) = parent :: back := by
  have hdrop : (parent :: back).reverse.dropWhile isIdle = [parent] := by
    rw [List.reverse_cons, List.dropWhile_append_of_pos fun s hs => h s (List.mem_reverse.mp hs)]
    rfl
  unfold dropExtension
  rw [hdrop]
  rfl

theorem no_slash_of_mem_dropExtension (h : segment ∈ dropExtension (segments path)) :
    '/' ∉ segment := by
  rcases dropExtension_cases (segments path) with
    heq | ⟨directory, name, trailing, short, hsegs, _, hdrop, hshort⟩
  · rw [heq] at h
    exact no_slash_of_mem_segments h
  · have hpath : ∀ s ∈ directory ++ name :: trailing, '/' ∉ s := by
      rw [← hsegs]
      exact fun s hs => no_slash_of_mem_segments hs
    rw [hdrop] at h
    rcases List.mem_append.mp h with h | h
    · exact hpath segment (List.mem_append_left _ h)
    · rw [List.mem_singleton.mp h]
      rcases hshort with rfl | rfl
      · exact fun hc => hpath name (by simp) (mem_of_mem_stem hc)
      · decide

end Extension

/-! ## The root -/

section Root

variable {path : List Char} {front back back' : List (List Char)}

def isRooted (path : List Char) : Bool := path.head? = some '/'

/-- What a path starts from. -/
def origin (rooted : Bool) : List (List Char) := if rooted then [[]] else []

theorem isAbsolute_append (hfront : front ≠ []) (hback : back ≠ []) (hback' : back' ≠ []) :
    isAbsolute (front ++ back) = isAbsolute (front ++ back') := by
  obtain ⟨first, front, rfl⟩ := List.exists_cons_of_ne_nil hfront
  obtain ⟨s, rest, hrest⟩ :=
    List.exists_cons_of_ne_nil (List.append_ne_nil_of_right_ne_nil front hback)
  obtain ⟨s', rest', hrest'⟩ :=
    List.exists_cons_of_ne_nil (List.append_ne_nil_of_right_ne_nil front hback')
  rw [List.cons_append, List.cons_append, hrest, hrest']
  cases first <;> rfl

theorem isAbsolute_of_not_mem (h : [] ∉ front) : isAbsolute front = false := by
  unfold isAbsolute
  split
  · exact absurd List.mem_cons_self h
  · rfl

theorem isAbsolute_segments (path : List Char) : isAbsolute (segments path) = isRooted path := by
  cases path with
  | nil => rfl
  | cons c path =>
    by_cases hc : c = '/'
    · subst hc
      obtain ⟨segment, rest, h⟩ := List.exists_cons_of_ne_nil (segments_ne_nil path)
      rw [segments_slash, h]
      rfl
    · obtain ⟨segment, rest, _, hcons⟩ := segments_char hc path
      rw [hcons]
      simp [isAbsolute, isRooted, hc]

theorem isAbsolute_dropExtension (segs : List (List Char)) :
    isAbsolute (dropExtension segs) = isAbsolute segs := by
  rcases dropExtension_cases segs with
    heq | ⟨directory, name, trailing, short, rfl, hname, hdrop, _⟩
  · rw [heq]
  · rw [hdrop]
    cases directory with
    | nil =>
      cases name with
      | nil => cases hname
      | cons c name => simp [isAbsolute]
    | cons first directory =>
      exact isAbsolute_append (List.cons_ne_nil _ _) (List.cons_ne_nil _ _) (List.cons_ne_nil _ _)

theorem rootParts_eq (path : List Char) :
    rootParts path =
      ((dropExtension (segments path)).foldl enter (origin (isRooted path))).reverse := by
  rw [← isAbsolute_segments, ← isAbsolute_dropExtension]
  rfl

end Root

/-! ## Normal form -/

section NormalForm

variable {rooted : Bool} {name segment path : List Char} {parts directory : List (List Char)}

/-- What a directory or a file can be called. -/
structure IsName (name : List Char) : Prop where
  ne_nil : name ≠ []
  ne_here : name ≠ here
  ne_parent : name ≠ parent
  no_slash : '/' ∉ name

theorem IsName.not_idle (h : IsName name) : isIdle name = false := by
  simp [isIdle, h.ne_nil, h.ne_here]

/-- The root, if there is one, then parents, but none of a root, then names. -/
def Normal (rooted : Bool) (parts : List (List Char)) : Prop :=
  ∃ ups names, parts = origin rooted ++ List.replicate ups parent ++ names ∧
    (rooted = true → ups = 0) ∧ ∀ name ∈ names, IsName name

/-- Parts in normal form, last part first, as they are collected. -/
inductive Stacked (rooted : Bool) : List (List Char) → Prop
  | origin : Stacked rooted (origin rooted)
  | up (ups : Nat) (h : rooted = false) : Stacked rooted (List.replicate (ups + 1) parent)
  | name {parts : List (List Char)} {name : List Char} (h : Stacked rooted parts)
      (hname : IsName name) : Stacked rooted (name :: parts)

theorem Stacked.normal (h : Stacked rooted parts) : Normal rooted parts.reverse := by
  induction h with
  | origin => exact ⟨0, [], by cases rooted <;> rfl, fun _ => rfl, nofun⟩
  | up ups hrooted =>
    subst hrooted
    exact ⟨ups + 1, [], by simp [Files.origin], nofun, nofun⟩
  | @name parts name h hname ih =>
    obtain ⟨ups, names, heq, hups, hnames⟩ := ih
    refine ⟨ups, names ++ [name], ?_, hups, ?_⟩
    · rw [List.reverse_cons, heq, List.append_assoc]
    · intro n hn
      rcases List.mem_append.mp hn with hn | hn
      · exact hnames n hn
      · exact List.mem_singleton.mp hn ▸ hname

theorem enter_idle (h : isIdle segment = true) (parts : List (List Char)) :
    enter parts segment = parts := if_pos h

theorem enter_name (h : IsName name) (parts : List (List Char)) :
    enter parts name = name :: parts := by
  simp [enter, h.not_idle, h.ne_parent]

theorem enter_parent (h : IsName name) (parts : List (List Char)) :
    enter (name :: parts) parent = parts := by
  have hidle : isIdle parent = false := by decide
  simp [enter, hidle, h.ne_nil, h.ne_parent]

theorem Stacked.enter (h : Stacked rooted parts) (hsegment : '/' ∉ segment) :
    Stacked rooted (enter parts segment) := by
  by_cases hidle : isIdle segment = true
  · rwa [enter_idle hidle]
  by_cases hparent : segment = parent
  · subst hparent
    -- the parent is lost at a root, stays behind other parents, and cancels a name
    cases h with
    | origin =>
      cases rooted with
      | false => exact .up 0 rfl
      | true => exact .origin
    | up ups hrooted => exact .up (ups + 1) hrooted
    | name h hname => rwa [enter_parent hname]
  · have hname : IsName segment := by
      refine ⟨?_, ?_, hparent, hsegment⟩
      · rintro rfl
        exact hidle rfl
      · rintro rfl
        exact hidle rfl
    rw [enter_name hname]
    exact .name h hname

theorem Stacked.foldl_enter {segs : List (List Char)} (h : Stacked rooted parts)
    (hsegs : ∀ segment ∈ segs, '/' ∉ segment) : Stacked rooted (segs.foldl Files.enter parts) := by
  induction segs generalizing parts with
  | nil => exact h
  | cons segment segs ih =>
    exact ih (h.enter (hsegs segment List.mem_cons_self)) fun s hs =>
      hsegs s (List.mem_cons_of_mem _ hs)

theorem normal_rootParts (path : List Char) : Normal (isRooted path) (rootParts path) := by
  rw [rootParts_eq]
  exact (Stacked.origin.foldl_enter fun _ h => no_slash_of_mem_dropExtension h).normal

theorem foldl_enter_names {names : List (List Char)} (h : ∀ name ∈ names, IsName name)
    (parts : List (List Char)) : names.foldl enter parts = names.reverse ++ parts := by
  induction names generalizing parts with
  | nil => rfl
  | cons name names ih =>
    rw [List.foldl_cons, enter_name (h name List.mem_cons_self),
      ih fun n hn => h n (List.mem_cons_of_mem _ hn)]
    simp

theorem foldl_enter_ups (ups : Nat) :
    (List.replicate ups parent).foldl enter [] = List.replicate ups parent := by
  induction ups with
  | zero => rfl
  | succ ups ih =>
    rw [List.replicate_succ', List.foldl_append, ih, ← List.replicate_succ']
    cases ups <;> rfl

/-- Parts in normal form stay as they are. -/
theorem Normal.foldl_enter (h : Normal rooted directory) :
    directory.foldl enter (origin rooted) = directory.reverse := by
  obtain ⟨ups, names, rfl, hups, hnames⟩ := h
  rw [List.foldl_append, foldl_enter_names hnames, List.reverse_append]
  congr 1
  cases rooted with
  | false => simp [origin, foldl_enter_ups]
  | true =>
    rw [hups rfl]
    rfl

theorem Normal.no_slash (h : Normal rooted directory) : ∀ part ∈ directory, '/' ∉ part := by
  obtain ⟨ups, names, rfl, _, hnames⟩ := h
  intro part hpart
  rw [List.mem_append, List.mem_append] at hpart
  rcases hpart with (hpart | hpart) | hpart
  · cases rooted with
    | false => cases hpart
    | true =>
      rw [List.mem_singleton.mp hpart]
      exact List.not_mem_nil
  · rw [List.eq_of_mem_replicate hpart]
    decide
  · exact (hnames part hpart).no_slash

theorem Normal.isAbsolute_append (h : Normal rooted directory) (hname : IsName name) :
    isAbsolute (directory ++ [name]) = rooted := by
  obtain ⟨ups, names, rfl, _, hnames⟩ := h
  cases rooted with
  | true =>
    have hmore : List.replicate ups parent ++ names ++ [name] ≠ [] :=
      List.append_ne_nil_of_right_ne_nil _ (List.cons_ne_nil _ _)
    rw [List.append_assoc, List.append_assoc, ← List.append_assoc _ names]
    exact Files.isAbsolute_append (List.cons_ne_nil _ _) hmore (List.cons_ne_nil [] [])
  | false =>
    apply isAbsolute_of_not_mem
    intro hnil
    simp only [origin, Bool.false_eq_true, if_false, List.nil_append, List.mem_append,
      List.mem_replicate, List.mem_singleton] at hnil
    rcases hnil with (⟨_, hnil⟩ | hnil) | hnil
    · cases hnil
    · exact (hnames [] hnil).ne_nil rfl
    · exact hname.ne_nil hnil.symm

theorem dropExtension_file (hname : IsName name) (hstem : IsName (stem name)) :
    dropExtension [name] = [stem name] := by
  have hdrop : [name].reverse.dropWhile isIdle = [name] := by
    simp [hname.not_idle]
  unfold dropExtension
  rw [hdrop]
  simp [hname.ne_parent, hstem.ne_here]

/-- Of a path in normal form only the extension is dropped. -/
theorem rootParts_of_normal (h : Normal rooted directory) (hname : IsName name)
    (hstem : IsName (stem name)) :
    rootParts (['/'].intercalate (directory ++ [name])) = directory ++ [stem name] := by
  have hsegs : segments (['/'].intercalate (directory ++ [name])) = directory ++ [name] := by
    refine segments_intercalate (List.append_ne_nil_of_right_ne_nil _ (List.cons_ne_nil _ _)) ?_
    intro segment hsegment
    rcases List.mem_append.mp hsegment with hsegment | hsegment
    · exact h.no_slash segment hsegment
    · exact List.mem_singleton.mp hsegment ▸ hname.no_slash
  rw [rootParts_eq, ← isAbsolute_segments, hsegs, h.isAbsolute_append hname,
    dropExtension_append List.mem_cons_self hname.not_idle, dropExtension_file hname hstem,
    List.foldl_append, h.foldl_enter, List.foldl_cons, List.foldl_nil, enter_name hstem]
  simp

end NormalForm

/-! ## Detours -/

section Detours

variable {before after text : List Char} {segs : List (List Char)}

/-- What a path is made of: the root or a dot that it begins with, then the segments that lead
somewhere. -/
def components (path : List Char) : List (List Char) :=
  let segs := segments path
  (if isAbsolute segs then [['/']] else if segs.head? = some here then [here] else []) ++
    segs.filter (!isIdle ·)

/-- A place in a path where a component can be put in, after the root and before the last
component. -/
structure Inserts (before after : List Char) : Prop where
  at_slash : before = [] ∨ before.getLast? = some '/'
  after_root : isRooted (before ++ after) = true → before ≠ []
  before_last : (components before).length < (components (before ++ after)).length

/-- A text that leads back to where it starts: a dot, or a name and its parent. -/
inductive Detour : List Char → Prop
  | here : Detour (here ++ ['/'])
  | back {name : List Char} (h : IsName name) : Detour (name ++ ['/'] ++ parent ++ ['/'])

theorem exists_segments_append (h : before = [] ∨ before.getLast? = some '/') :
    ∃ front, ∀ rest, segments (before ++ rest) = front ++ segments rest := by
  rcases h with rfl | h
  · exact ⟨[], fun _ => rfl⟩
  · obtain ⟨front, rfl⟩ := List.getLast?_eq_some_iff.mp h
    refine ⟨segments front, fun rest => ?_⟩
    rw [List.append_assoc, List.singleton_append, segments_append_slash]

/-- The segments of a detour are taken in without effect, and no extension is dropped from them. -/
structure Idles (segs : List (List Char)) : Prop where
  foldl_enter : ∀ parts, segs.foldl enter parts = parts
  dropExtension : ∀ rest, (∀ segment ∈ rest, isIdle segment = true) →
    dropExtension (segs ++ rest) = segs ++ rest

theorem idles_here : Idles [here] where
  foldl_enter _ := rfl
  dropExtension rest hrest := by
    apply dropExtension_of_idle
    intro segment hsegment
    rcases List.mem_cons.mp hsegment with rfl | hsegment
    · rfl
    · exact hrest segment hsegment

theorem idles_back {name : List Char} (h : IsName name) : Idles [name, parent] where
  foldl_enter parts := by
    rw [List.foldl_cons, List.foldl_cons, List.foldl_nil, enter_name h, enter_parent h]
  dropExtension rest hrest := by
    have hparent : Files.dropExtension ([name] ++ parent :: rest) =
        [name] ++ Files.dropExtension (parent :: rest) :=
      dropExtension_append List.mem_cons_self rfl
    rwa [dropExtension_parent hrest] at hparent

theorem Detour.exists_segments (h : Detour text) :
    ∃ segs, Idles segs ∧ ∀ rest, segments (text ++ rest) = segs ++ segments rest := by
  cases h with
  | here => exact ⟨[Files.here], idles_here, fun _ => rfl⟩
  | @back name h =>
    refine ⟨[name, parent], idles_back h, fun rest => ?_⟩
    rw [List.append_assoc, List.append_assoc, List.append_assoc, List.singleton_append,
      segments_append_slash, segments_of_no_slash h.no_slash]
    rfl

theorem isRooted_append_of_ne_nil (h : before ≠ []) (rest : List Char) :
    isRooted (before ++ rest) = isRooted before := by
  obtain ⟨c, before, rfl⟩ := List.exists_cons_of_ne_nil h
  rfl

theorem Detour.not_rooted (h : Detour text) (rest : List Char) :
    isRooted (text ++ rest) = false := by
  cases h with
  | here => rfl
  | @back name h =>
    obtain ⟨c, name, rfl⟩ := List.exists_cons_of_ne_nil h.ne_nil
    have hc : c ≠ '/' := fun hc => h.no_slash (hc ▸ List.mem_cons_self)
    simp [isRooted, hc]

theorem Inserts.isRooted (h : Inserts before after) (hd : Detour text) :
    isRooted (before ++ (text ++ after)) = isRooted (before ++ after) := by
  by_cases hbefore : before = []
  · subst hbefore
    have hroot : Files.isRooted ([] ++ after) = false :=
      Bool.eq_false_iff.mpr fun hroot => h.after_root hroot rfl
    rw [hroot]
    exact hd.not_rooted after
  · rw [isRooted_append_of_ne_nil hbefore, isRooted_append_of_ne_nil hbefore]

theorem components_eq_of_idle {path path' : List Char} {front rest rest' : List (List Char)}
    (hpath : segments path = front ++ rest) (hpath' : segments path' = front ++ rest')
    (hfront : front ≠ []) (hrest : rest ≠ []) (hrest' : rest' ≠ [])
    (hidle : ∀ segment ∈ rest, isIdle segment = true)
    (hidle' : ∀ segment ∈ rest', isIdle segment = true) : components path = components path' := by
  have hnone : rest.filter (!isIdle ·) = [] := List.filter_eq_nil_iff.mpr (by simpa using hidle)
  have hnone' : rest'.filter (!isIdle ·) = [] := List.filter_eq_nil_iff.mpr (by simpa using hidle')
  simp only [components]
  rw [hpath, hpath', isAbsolute_append hfront hrest hrest', List.filter_append, List.filter_append,
    hnone, hnone', List.head?_append_of_ne_nil _ hfront, List.head?_append_of_ne_nil _ hfront]

/-- If nothing after the place leads anywhere, nothing stands before it. -/
theorem Inserts.front_eq_nil (h : Inserts before after) {front : List (List Char)}
    (hfront : ∀ rest, segments (before ++ rest) = front ++ segments rest)
    (hidle : ∀ segment ∈ segments after, isIdle segment = true) : front = [] := by
  by_contra hne
  have hbefore : segments before = front ++ [[]] := by
    have hnil := hfront []
    rwa [List.append_nil] at hnil
  have hsame := components_eq_of_idle hbefore (hfront after) hne (List.cons_ne_nil _ _)
    (segments_ne_nil after) (fun s hs => by rw [List.mem_singleton.mp hs]; rfl) hidle
  have hlast := h.before_last
  rw [hsame] at hlast
  exact Nat.lt_irrefl _ hlast

theorem rootParts_insert (h : Inserts before after) (hd : Detour text) :
    rootParts (before ++ (text ++ after)) = rootParts (before ++ after) := by
  obtain ⟨front, hfront⟩ := exists_segments_append h.at_slash
  obtain ⟨segs, hsegs, htext⟩ := hd.exists_segments
  rw [rootParts_eq, rootParts_eq, h.isRooted hd, hfront, hfront, htext]
  congr 1
  -- without a name after the place, all that could lose an extension is the detour itself
  by_cases hidle : ∀ segment ∈ segments after, isIdle segment = true
  · rw [h.front_eq_nil hfront hidle, List.nil_append, List.nil_append, hsegs.dropExtension _ hidle,
      dropExtension_of_idle hidle, List.foldl_append, hsegs.foldl_enter]
  · push Not at hidle
    obtain ⟨segment, hmem, hsegment⟩ := hidle
    rw [← List.append_assoc, dropExtension_append hmem (Bool.eq_false_iff.mpr hsegment),
      dropExtension_append hmem (Bool.eq_false_iff.mpr hsegment), List.foldl_append,
      List.foldl_append, List.foldl_append, hsegs.foldl_enter]

end Detours

/-- The parts of a root name are in normal form and are joined by dots; without parts, the name is a
dot. A detour before the last component changes nothing, and a path in normal form keeps its
directory. -/
theorem rootName_normalises (path : String) :
    Normal (isRooted path.toList) (rootParts path.toList) ∧
      (rootParts path.toList = [] → rootName path = ".") ∧
      (rootParts path.toList ≠ [] →
        rootName path = ".".intercalate ((rootParts path.toList).map String.ofList)) ∧
      (∀ before text after, path.toList = before ++ after → Inserts before after → Detour text →
        rootName (String.ofList (before ++ (text ++ after))) = rootName path) ∧
      (∀ rooted directory name, Normal rooted directory → IsName name → IsName (stem name) →
        path.toList = ['/'].intercalate (directory ++ [name]) →
          rootParts path.toList = directory ++ [stem name]) := by
  refine ⟨normal_rootParts _, ?_, ?_, ?_, ?_⟩
  · intro hnil
    unfold rootName
    rw [hnil]
  · intro hne
    obtain ⟨part, parts, heq⟩ := List.exists_cons_of_ne_nil hne
    unfold rootName
    rw [heq]
  · intro before text after hpath hinserts hdetour
    unfold rootName
    rw [String.toList_ofList, rootParts_insert hinserts hdetour, hpath]
  · intro rooted directory name hnormal hname hstem hpath
    rw [hpath]
    exact rootParts_of_normal hnormal hname hstem

theorem shelf_named_through_lib :
    Inserts "../".toList "src/shelf.py".toList ∧ Detour "lib/../".toList ∧
      Normal false ["..".toList, "src".toList] ∧
      rootName "../lib/../src/shelf.py" = "...src.shelf" := by
  have hinserts : Inserts "../".toList "src/shelf.py".toList :=
    ⟨by decide, by decide, by decide⟩
  have hlib : IsName "lib".toList := ⟨by decide, by decide, by decide, by decide⟩
  have hsrc : IsName "src".toList := ⟨by decide, by decide, by decide, by decide⟩
  have hfile : IsName "shelf.py".toList := ⟨by decide, by decide, by decide, by decide⟩
  have hstem : IsName (stem "shelf.py".toList) := ⟨by decide, by decide, by decide, by decide⟩
  have hnormal : Normal false ["..".toList, "src".toList] :=
    ⟨1, ["src".toList], by decide, by decide, fun name h => List.mem_singleton.mp h ▸ hsrc⟩
  have hback : Detour "lib/../".toList := .back hlib
  obtain ⟨_, _, hjoined, hdetour, hkept⟩ := rootName_normalises "../src/shelf.py"
  have hparts := hkept false _ _ hnormal hfile hstem (by decide)
  have htext : String.ofList ("../".toList ++ ("lib/../".toList ++ "src/shelf.py".toList)) =
      "../lib/../src/shelf.py" := by decide
  have hsame := hdetour _ _ _ (by decide) hinserts hback
  rw [htext] at hsame
  have hne : rootParts "../src/shelf.py".toList ≠ [] := by
    rw [hparts]
    exact List.cons_ne_nil _ _
  refine ⟨hinserts, hback, hnormal, ?_⟩
  rw [hsame, hjoined hne, hparts]
  decide

end NameFlow.Files
