import Mathlib.Data.List.Basic
import Collage.Name

/-! # Normal names

The segments of a normal name are some that lead up and then plain ones (`Name.IsNormal`).  Joined
and cut again they are the same segments, so normalizing a name once is enough
(`Name.normalize_normalize`).
-/

namespace Collage.Name

/-- The segment that leads up. -/
def up : List Char := ['.', '.']

/-- A segment that names something: it is not empty, no `.` and no `..`, and no separator is in
it. -/
structure IsPlain (segment : List Char) : Prop where
  nonempty : segment ≠ []
  ne_here : segment ≠ ['.']
  ne_up : segment ≠ up
  slash : '/' ∉ segment
  backslash : '\\' ∉ segment

/-- Segments that lead up, and plain ones after them. -/
def IsNormal (segments : List (List Char)) : Prop :=
  ∃ ups plain, segments = List.replicate ups up ++ plain ∧ ∀ segment ∈ plain, IsPlain segment

/-! ## Segments of a unified name -/

theorem not_mem_of_mem_splitOn {c : Char} {text segment : List Char}
    (member : segment ∈ text.splitOn c) : c ∉ segment := by
  induction text generalizing segment with
  | nil => simp_all
  | cons first rest ih =>
    rw [List.splitOn_cons_eq_if_modifyHead] at member
    split at member
    · cases List.mem_cons.1 member with
      | inl same =>
        obtain rfl := same
        simp
      | inr member => exact ih member
    · next other =>
      simp only [beq_iff_eq] at other
      cases split : rest.splitOn c with
      | nil => simp [split] at member
      | cons head tail =>
        simp only [split, List.modifyHead_cons, List.mem_cons] at member
        rw [split] at ih
        cases member with
        | inl same =>
          obtain rfl := same
          simp only [List.mem_cons, not_or]
          exact ⟨Ne.symm other, ih List.mem_cons_self⟩
        | inr member => exact ih (List.mem_cons_of_mem _ member)

theorem mem_of_mem_splitOn {c d : Char} {text segment : List Char}
    (member : segment ∈ text.splitOn c) (inside : d ∈ segment) : d ∈ text := by
  induction text generalizing segment with
  | nil => simp_all
  | cons first rest ih =>
    rw [List.splitOn_cons_eq_if_modifyHead] at member
    split at member
    · cases List.mem_cons.1 member with
      | inl same =>
        obtain rfl := same
        simp at inside
      | inr member => exact List.mem_cons_of_mem _ (ih member inside)
    · cases split : rest.splitOn c with
      | nil => simp [split] at member
      | cons head tail =>
        simp only [split, List.modifyHead_cons, List.mem_cons] at member
        rw [split] at ih
        cases member with
        | inl same =>
          obtain rfl := same
          cases List.mem_cons.1 inside with
          | inl same =>
            obtain rfl := same
            exact List.mem_cons_self
          | inr inside => exact List.mem_cons_of_mem _ (ih List.mem_cons_self inside)
        | inr member => exact List.mem_cons_of_mem _ (ih (List.mem_cons_of_mem _ member) inside)

theorem backslash_not_mem_unify (name : List Char) : '\\' ∉ unify name := by
  simp only [unify, List.mem_map, not_exists, not_and]
  intro c _
  split
  · decide
  · next other => exact other

theorem unify_of_not_mem {name : List Char} (unified : '\\' ∉ name) : unify name = name := by
  refine (List.map_congr_left ?_).trans (List.map_id name)
  intro c member
  split
  · next same => exact absurd (same ▸ member) unified
  · rfl

/-! ## What is kept is normal -/

theorem IsNormal.push {kept : List (List Char)} (normal : IsNormal kept.reverse)
    {segment : List Char} (isPlain : IsPlain segment) : IsNormal (segment :: kept).reverse := by
  obtain ⟨ups, plain, eq, plains⟩ := normal
  refine ⟨ups, plain ++ [segment], by simp [eq], ?_⟩
  intro other member
  cases List.mem_append.1 member with
  | inl member => exact plains other member
  | inr member => exact List.mem_singleton.1 member ▸ isPlain

/-- A name that starts at the root cannot lead up from it. -/
theorem keep_true_ups (ups : Nat) :
    keep true (List.replicate ups up) up = List.replicate ups up := by
  cases ups <;> simp [keep, up, List.replicate_succ]

theorem keep_false_ups (ups : Nat) :
    keep false (List.replicate ups up) up = List.replicate (ups + 1) up := by
  cases ups <;> simp [keep, up, List.replicate_succ]

theorem IsNormal.keep_up {kept : List (List Char)} (normal : IsNormal kept.reverse)
    (rooted : Bool) : IsNormal (keep rooted kept up).reverse := by
  obtain ⟨ups, plain, eq, plains⟩ := normal
  -- The last of the kept segments is at the front, so the plain ones come first there.
  have front : kept = plain.reverse ++ List.replicate ups up := by
    simpa using congrArg List.reverse eq
  obtain rfl | ⟨before, last, rfl⟩ := plain.eq_nil_or_concat'
  · -- Nothing plain is left to be taken back.
    simp only [List.reverse_nil, List.nil_append] at front
    subst front
    cases rooted with
    | true => exact ⟨ups, [], by simp [keep_true_ups], by simp⟩
    | false => exact ⟨ups + 1, [], by simp [keep_false_ups], by simp⟩
  · have plainLast : last ≠ ['.', '.'] := (plains last (by simp)).ne_up
    simp only [List.reverse_append, List.reverse_singleton, List.cons_append] at front
    subst front
    refine ⟨ups, before, ?_, fun other member => plains other (by simp [member])⟩
    simp [keep, up, plainLast]

theorem isNormal_keep {rooted : Bool} {kept : List (List Char)} {segment : List Char}
    (normal : IsNormal kept.reverse) (slash : '/' ∉ segment) (backslash : '\\' ∉ segment) :
    IsNormal (keep rooted kept segment).reverse := by
  by_cases skipped : segment = [] ∨ segment = ['.']
  · simpa only [keep, if_pos skipped] using normal
  · by_cases leads : segment = up
    · subst leads
      exact normal.keep_up rooted
    · have other : segment ≠ ['.', '.'] := leads
      simp only [keep, if_neg skipped, if_neg other]
      rw [not_or] at skipped
      exact normal.push ⟨skipped.1, skipped.2, leads, slash, backslash⟩

theorem isNormal_foldl_keep {rooted : Bool} {segments kept : List (List Char)}
    (normal : IsNormal kept.reverse)
    (clean : ∀ segment ∈ segments, '/' ∉ segment ∧ '\\' ∉ segment) :
    IsNormal (segments.foldl (keep rooted) kept).reverse := by
  induction segments generalizing kept with
  | nil => exact normal
  | cons first rest ih =>
    obtain ⟨slash, backslash⟩ := clean first List.mem_cons_self
    exact ih (isNormal_keep normal slash backslash)
      fun segment member => clean segment (List.mem_cons_of_mem _ member)

/-- Every name has normal segments. -/
theorem isNormal_segmentsOf (name : List Char) : IsNormal (segmentsOf name) := by
  refine isNormal_foldl_keep ⟨0, [], by simp, by simp⟩ ?_
  intro segment member
  refine ⟨not_mem_of_mem_splitOn member, ?_⟩
  intro inside
  exact backslash_not_mem_unify name (mem_of_mem_splitOn member inside)

/-! ## Normal segments stay as they are -/

theorem IsPlain.keep_eq {segment : List Char} (isPlain : IsPlain segment) (rooted : Bool)
    (kept : List (List Char)) : keep rooted kept segment = segment :: kept := by
  have other : segment ≠ ['.', '.'] := isPlain.ne_up
  simp [keep, isPlain.nonempty, isPlain.ne_here, other]

theorem foldl_keep_plain {rooted : Bool} {plain kept : List (List Char)}
    (plains : ∀ segment ∈ plain, IsPlain segment) :
    plain.foldl (keep rooted) kept = plain.reverse ++ kept := by
  induction plain generalizing kept with
  | nil => rfl
  | cons first rest ih =>
    rw [List.foldl_cons, (plains first List.mem_cons_self).keep_eq,
      ih fun segment member => plains segment (List.mem_cons_of_mem _ member)]
    simp

theorem foldl_keep_ups (ups done : Nat) :
    (List.replicate ups up).foldl (keep false) (List.replicate done up) =
      List.replicate (ups + done) up := by
  induction ups generalizing done with
  | zero => simp
  | succ ups ih =>
    rw [List.replicate_succ, List.foldl_cons, keep_false_ups, ih]
    congr 1
    omega

theorem IsNormal.mem {segments : List (List Char)} (normal : IsNormal segments)
    {segment : List Char} (member : segment ∈ segments) :
    segment ≠ [] ∧ '/' ∉ segment ∧ '\\' ∉ segment := by
  obtain ⟨ups, plain, rfl, plains⟩ := normal
  cases List.mem_append.1 member with
  | inl member =>
    rw [List.eq_of_mem_replicate member]
    decide
  | inr member =>
    exact ⟨(plains segment member).nonempty, (plains segment member).slash,
      (plains segment member).backslash⟩

theorem not_mem_intercalate {c d : Char} {segments : List (List Char)} (ne : d ≠ c)
    (clean : ∀ segment ∈ segments, d ∉ segment) : d ∉ [c].intercalate segments := by
  induction segments with
  | nil => simp
  | cons first rest ih =>
    have later := ih fun segment member => clean segment (List.mem_cons_of_mem _ member)
    cases rest with
    | nil => simpa using clean first List.mem_cons_self
    | cons second rest =>
      simp only [List.intercalate_cons_cons, List.mem_append, List.mem_singleton, not_or]
      exact ⟨⟨clean first List.mem_cons_self, ne⟩, later⟩

theorem head?_intercalate {segments : List (List Char)} (normal : IsNormal segments) :
    (['/'].intercalate segments).head? ≠ some '/' := by
  cases segments with
  | nil => simp
  | cons first rest =>
    obtain ⟨nonempty, slash, -⟩ := normal.mem List.mem_cons_self
    cases first with
    | nil => exact absurd rfl nonempty
    | cons c chars =>
      have head : c ≠ '/' := fun same => slash (same ▸ List.mem_cons_self)
      cases rest <;> simpa using head

/-- Normal segments that are joined are the segments of what they are joined to. -/
theorem segmentsOf_join {segments : List (List Char)} (normal : IsNormal segments) :
    segmentsOf (join segments) = segments := by
  by_cases none : segments = []
  · subst none
    decide
  · have unified : unify (['/'].intercalate segments) = ['/'].intercalate segments :=
      unify_of_not_mem
        (not_mem_intercalate (by decide) fun segment member => (normal.mem member).2.2)
    have relative : (decide ((['/'].intercalate segments).head? = some '/')) = false := by
      simpa using head?_intercalate normal
    have cut : (['/'].intercalate segments).splitOn '/' = segments :=
      List.splitOn_intercalate '/' (fun segment member => (normal.mem member).2.1) none
    simp only [join, if_neg none, segmentsOf, unified, relative, cut]
    obtain ⟨ups, plain, rfl, plains⟩ := normal
    have climbed := foldl_keep_ups ups 0
    simp only [List.replicate_zero, Nat.add_zero] at climbed
    rw [List.foldl_append, climbed, foldl_keep_plain plains]
    simp

/-- A normal name is its own normal form. -/
@[simp] theorem normalize_normalize (name : String) :
    normalize (normalize name) = normalize name := by
  simp only [normalize, String.toList_ofList]
  rw [segmentsOf_join (isNormal_segmentsOf name.toList)]

end Collage.Name
