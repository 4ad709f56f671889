import Collage.Proofs.Name.Normal

/-! # Canonical spellings

A canonical spelling is a lone point, or some segments `..` and then plain ones, with a slash
between each two (`Name.IsCanonical`).  Normalizing a name gives such a spelling and leaves one as
it is.  It does not see the detours that a name makes between two of its parts (`Name.Idle`): an
empty segment, a point, or a plain segment that is taken back at once.  Nor does it see backslashes
in the place of slashes (`Name.Slanted`).
-/

namespace Collage.Name

variable {name other detour : List Char} {segments plain : List (List Char)} {ups : Nat}

/-- The spellings that lead up `ups` times and then name plain segments, and the lone point. -/
inductive IsCanonical : Nat → String → Prop where
  | here : IsCanonical 0 "."
  | path {ups : Nat} {plain : List (List Char)} (nonempty : List.replicate ups up ++ plain ≠ [])
      (plains : ∀ segment ∈ plain, IsPlain segment) :
      IsCanonical ups (String.ofList (['/'].intercalate (List.replicate ups up ++ plain)))

theorem isCanonical_join (ups : Nat) (plains : ∀ segment ∈ plain, IsPlain segment) :
    IsCanonical ups (String.ofList (join (List.replicate ups up ++ plain))) := by
  by_cases none : List.replicate ups up ++ plain = []
  · obtain rfl : ups = 0 := by simpa using (List.append_eq_nil_iff.1 none).1
    rw [none]
    exact .here
  · rw [join, if_neg none]
    exact .path none plains

theorem IsCanonical.exists_join {spelling : String} (canonical : IsCanonical ups spelling) :
    ∃ segments, IsNormal segments ∧ spelling = String.ofList (join segments) := by
  cases canonical with
  | here => exact ⟨[], ⟨0, [], by simp, by simp⟩, rfl⟩
  | @path ups plain nonempty plains =>
    exact ⟨List.replicate ups up ++ plain, ⟨ups, plain, rfl, plains⟩, by rw [join, if_neg nonempty]⟩

theorem IsCanonical.normalize_eq {spelling : String} (canonical : IsCanonical ups spelling) :
    normalize spelling = spelling := by
  obtain ⟨segments, normal, rfl⟩ := canonical.exists_join
  rw [normalize, String.toList_ofList, segmentsOf_join normal]

/-! ## Names that start at the root -/

/-- At the root nothing leads up, so what is kept there never does. -/
theorem up_not_mem_keep {kept : List (List Char)} (free : up ∉ kept) (segment : List Char) :
    up ∉ keep true kept segment := by
  unfold keep
  split
  · exact free
  · split
    · cases kept with
      | nil => simp
      | cons last before =>
        have ne : last ≠ ['.', '.'] := fun same => free (by simp [up, same])
        simp only [ne, ne_eq, not_false_eq_true, if_true]
        exact fun member => free (List.mem_cons_of_mem _ member)
    · next other =>
      simp only [List.mem_cons, not_or]
      exact ⟨Ne.symm other, free⟩

theorem up_not_mem_foldl_keep {kept : List (List Char)} (free : up ∉ kept)
    (segments : List (List Char)) : up ∉ segments.foldl (keep true) kept := by
  induction segments generalizing kept with
  | nil => exact free
  | cons segment rest ih => exact ih (up_not_mem_keep free segment)

theorem up_not_mem_segmentsOf (rooted : (unify name).head? = some '/') : up ∉ segmentsOf name := by
  simp only [segmentsOf, rooted, decide_true, List.mem_reverse]
  exact up_not_mem_foldl_keep List.not_mem_nil _

theorem head?_unify (rooted : name.head? = some '/' ∨ name.head? = some '\\') :
    (unify name).head? = some '/' := by
  rw [unify, List.head?_map]
  rcases rooted with head | head <;> simp [head]

theorem isCanonical_normalize (name : String) :
    ∃ ups, IsCanonical ups (normalize name) ∧
      (name.toList.head? = some '/' ∨ name.toList.head? = some '\\' → ups = 0) := by
  obtain ⟨ups, plain, eq, plains⟩ := isNormal_segmentsOf name.toList
  refine ⟨ups, ?_, fun rooted => ?_⟩
  · rw [normalize, eq]
    exact isCanonical_join ups plains
  · by_contra some
    have free := up_not_mem_segmentsOf (head?_unify rooted)
    simp [eq, some] at free

/-! ## Detours -/

/-- Going through a detour keeps whatever was kept before. -/
def Idle (detour : List Char) : Prop :=
  ∀ rooted kept, ((unify detour).splitOn '/').foldl (keep rooted) kept = kept

theorem idle_nil : Idle [] := by
  intro rooted kept
  simp [unify, keep]

theorem idle_here : Idle ['.'] := by
  intro rooted kept
  have cut : (unify ['.']).splitOn '/' = [['.']] := by decide
  simp [cut, keep]

theorem IsPlain.idle {segment : List Char} (isPlain : IsPlain segment) :
    Idle (segment ++ '/' :: up) := by
  intro rooted kept
  have unified : unify (segment ++ '/' :: up) = segment ++ '/' :: up :=
    unify_of_not_mem (by simp [isPlain.backslash, up])
  have cut : (segment ++ '/' :: up).splitOn '/' = [segment, up] := by
    rw [List.splitOn_append_cons_self, List.splitOn_eq_singleton isPlain.slash]
    rfl
  have ne : segment ≠ ['.', '.'] := isPlain.ne_up
  rw [unified, cut, List.foldl_cons, isPlain.keep_eq]
  simp [keep, up, ne]

/-- Two parts of a name have the same segments whether there is a detour between them or not. -/
theorem Idle.segmentsOf_eq (idle : Idle detour) (front rest : List Char) :
    segmentsOf (front ++ '/' :: (detour ++ '/' :: rest)) = segmentsOf (front ++ '/' :: rest) := by
  have unified : ∀ a b : List Char, unify (a ++ '/' :: b) = unify a ++ '/' :: unify b := by
    simp [unify]
  -- Where the name starts is told by the part in front, or else by the slash behind it.
  have head : ∀ a b c : List Char, (a ++ '/' :: b).head? = (a ++ '/' :: c).head? := by
    intro a b c
    simp [List.head?_append]
  simp only [segmentsOf, unified, List.splitOn_append_cons_self, List.foldl_append, idle _ _,
    head _ (unify detour ++ '/' :: unify rest) (unify rest)]

/-! ## Backslashes for slashes -/

/-- The second name is the first one with backslashes in the place of some of its slashes. -/
def Slanted (name other : String) : Prop :=
  List.Forall₂ (fun c d => d = c ∨ c = '/' ∧ d = '\\') name.toList other.toList

theorem unify_eq_of_slanted
    (slanted : List.Forall₂ (fun c d => d = c ∨ c = '/' ∧ d = '\\') name other) :
    unify other = unify name := by
  induction slanted with
  | nil => rfl
  | cons alike _ ih =>
    simp only [unify, List.map_cons] at ih ⊢
    rw [ih]
    rcases alike with rfl | ⟨rfl, rfl⟩ <;> rfl

theorem Slanted.normalize_eq {name other : String} (slanted : Slanted name other) :
    normalize other = normalize name := by
  simp only [normalize, segmentsOf, unify_eq_of_slanted slanted]

/-! ## The normal form -/

/-- The normal form of any name is a canonical spelling, one that leads up only for a name that does
not start with a separator.  A canonical spelling is its own normal form.  And a name in two parts
has the same normal form with any detour between the parts, whichever of its slashes are written as
backslashes. -/
theorem normalize_canonical :
    (∀ name, ∃ ups, IsCanonical ups (normalize name) ∧
      (name.toList.head? = some '/' ∨ name.toList.head? = some '\\' → ups = 0)) ∧
    (∀ ups spelling, IsCanonical ups spelling → normalize spelling = spelling) ∧
    (∀ name, normalize (normalize name) = normalize name) ∧
    ∀ front rest segment : String, IsPlain segment.toList →
      ∀ name ∈ [front ++ "/" ++ rest, front ++ "//" ++ rest, front ++ "/./" ++ rest,
        front ++ "/" ++ segment ++ "/../" ++ rest],
      ∀ other, Slanted name other → normalize other = normalize (front ++ "/" ++ rest) := by
  refine ⟨isCanonical_normalize, fun _ _ canonical => canonical.normalize_eq,
    normalize_normalize, ?_⟩
  intro front rest segment isPlain name member other slanted
  rw [slanted.normalize_eq]
  have around : ∀ detour, Idle detour →
      name.toList = front.toList ++ '/' :: (detour ++ '/' :: rest.toList) →
        normalize name = normalize (front ++ "/" ++ rest) := by
    intro detour idle spelled
    have plainly : (front ++ "/" ++ rest).toList = front.toList ++ '/' :: rest.toList := by simp
    rw [normalize, normalize, spelled, plainly, idle.segmentsOf_eq]
  simp only [List.mem_cons, List.not_mem_nil, or_false] at member
  rcases member with rfl | rfl | rfl | rfl
  · rfl
  · exact around [] idle_nil (by simp)
  · exact around ['.'] idle_here (by simp)
  · exact around (segment.toList ++ '/' :: up) isPlain.idle (by simp [up])

example : normalize "/../a/./b//..\\c" = "a/c" := by decide

end Collage.Name
