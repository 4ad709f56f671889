import Collage.Proofs.Directive.Course
import Collage.Proofs.Directive.Spelling

/-! # The directives of a text and its layout

`Directive.sightings` lists the directives that a text shows, with the text on their two sides, and
`Directive.withoutLayout` is the text with its layout directive cut out.  Up to the layout the
directives that are met are those that the text shows, and what is left of a text is the text
without its layout (`Directive.left_eq`), unless a second layout is met.
-/

namespace Collage.Directive

variable {before ahead : List Char} {s lay : Sighting} {hasLayout : Bool}

/-! ## The next directive -/

/-- The nearest directive stands behind what is skipped, and nothing escapes it. -/
theorem of_next? (found : next? before ahead = some s) :
    ∃ skipped, s.before = skipped.reverse ++ before ∧ ahead = skipped ++ (s.markup ++ s.rest) ∧
      isEscaped s.before = false ∧ Spells s.kind s.reference s.markup := by
  induction ahead generalizing before with
  | nil => cases found
  | cons c ahead ih =>
    rw [next?] at found
    split at found
    · next other sighted =>
      cases found
      obtain ⟨free, spells, place, eq⟩ := sight?_eq_some_iff.1 sighted
      exact ⟨[], place, eq, place ▸ free, spells⟩
    · obtain ⟨skipped, place, eq, free, spells⟩ := ih found
      exact ⟨c :: skipped, by simpa using place, by simp [eq], free, spells⟩

theorem next?_of_sight? (sighted : sight? before ahead = some s) : next? before ahead = some s := by
  obtain ⟨-, spells, -, eq⟩ := sight?_eq_some_iff.1 sighted
  obtain ⟨inside, markup⟩ := spells.eq_cons
  rw [eq, markup, List.cons_append] at sighted ⊢
  rw [next?, sighted]

theorem Sighting.onward_of_inclusion (inclusion : s.kind = .inclusion) : s.onward = s.passed := by
  rw [onward, inclusion]

theorem Sighting.onward_of_layout (layout : s.kind = .layout) : s.onward = s.before := by
  rw [onward, layout]

/-- What is passed and what is ahead are one text. -/
theorem passed_append_rest (found : next? before ahead = some s) :
    s.passed.reverse ++ s.rest = before.reverse ++ ahead := by
  obtain ⟨skipped, place, eq, -⟩ := of_next? found
  simp [Sighting.passed, place, eq]

/-! ## The directives of a text -/

/-- The directives that a text shows from a place on, each sought behind the one before. -/
def sightings (before ahead : List Char) : List Sighting :=
  match _found : next? before ahead with
  | none => []
  | some s => s :: sightings s.passed s.rest
termination_by ahead.length
decreasing_by exact length_next? _found

theorem sightings_of_none (none : next? before ahead = none) : sightings before ahead = [] := by
  rw [sightings]
  split
  · rfl
  · next found => rw [none] at found; cases found

theorem sightings_of_some (found : next? before ahead = some s) :
    sightings before ahead = s :: sightings s.passed s.rest := by
  rw [sightings]
  split
  · next none => rw [found] at none; cases none
  · next other eq => rw [found] at eq; cases eq; rfl

theorem scanFrom_eq (before ahead : List Char) :
    scanFrom before ahead = (sightings before ahead).map (·.directive) := by
  fun_induction sightings before ahead with
  | case1 before ahead none =>
    rw [scanFrom]
    split
    · rfl
    · next found => rw [none] at found; cases found
  | case2 before ahead s found ih =>
    rw [scanFrom]
    split
    · next none => rw [found] at none; cases none
    · next other eq =>
      rw [found] at eq
      cases eq
      rw [ih, List.map_cons]

/-- The directives that a whole text shows. -/
def shown (text : String) : List Sighting := sightings [] text.toList

theorem scan_eq (text : String) : scan text = (shown text).map (·.directive) := scanFrom_eq _ _

/-- A directive that a text shows stands ahead of the place, behind and before text of it. -/
theorem of_mem_sightings (member : s ∈ sightings before ahead) :
    ∃ skipped, s.before = skipped.reverse ++ before ∧ ahead = skipped ++ (s.markup ++ s.rest) ∧
      isEscaped s.before = false ∧ Spells s.kind s.reference s.markup := by
  fun_induction sightings before ahead with
  | case1 => cases member
  | case2 before ahead first found ih =>
    obtain ⟨skipped, place, eq, free, spells⟩ := of_next? found
    cases List.mem_cons.1 member with
    | inl same =>
      obtain rfl := same
      exact ⟨skipped, place, eq, free, spells⟩
    | inr later =>
      obtain ⟨further, place', eq', free', spells'⟩ := ih later
      refine ⟨skipped ++ first.markup ++ further, ?_, ?_, free', spells'⟩
      · simp [place', Sighting.passed, place]
      · rw [eq, eq']
        simp

/-! ## The layout of a text -/

/-- The first layout among directives. -/
def layout? (sights : List Sighting) : Option Sighting := sights.find? (·.kind = .layout)

theorem of_layout? {sights : List Sighting} (found : layout? sights = some lay) :
    lay ∈ sights ∧ lay.kind = .layout :=
  ⟨List.mem_of_find?_eq_some found, by simpa using List.find?_some found⟩

theorem layout?_eq_none_iff {sights : List Sighting} :
    layout? sights = none ↔ ∀ s ∈ sights, s.kind = .inclusion := by
  simp only [layout?, List.find?_eq_none, decide_eq_true_eq]
  refine forall₂_congr fun s _ => ?_
  cases s.kind <;> simp

/-- A text with its layout directive cut out. -/
def withoutLayout (text : String) : String :=
  match layout? (shown text) with
  | none => text
  | some lay => String.ofList (lay.before.reverse ++ lay.rest)

/-- No more than one of the directives is a layout. -/
def Single (sights : List Sighting) : Prop := (sights.filter (·.kind = .layout)).length ≤ 1

theorem single_cons_of_layout {sights : List Sighting} (layout : s.kind = .layout) :
    Single (s :: sights) ↔ ∀ other ∈ sights, other.kind = .inclusion := by
  have none : (sights.filter (·.kind = .layout)).length + 1 ≤ 1 ↔
      sights.filter (·.kind = .layout) = [] := by
    rw [← List.length_eq_zero_iff]
    omega
  rw [Single, List.filter_cons_of_pos (by simpa using layout), List.length_cons, none,
    List.filter_eq_nil_iff]
  refine forall₂_congr fun other _ => ?_
  cases other.kind <;> simp

theorem single_cons_of_inclusion {sights : List Sighting} (inclusion : s.kind = .inclusion) :
    Single (s :: sights) ↔ Single sights := by
  rw [Single, List.filter_cons_of_neg (by simp [inclusion]), Single]

/-- Where the first layout is the only one, all other directives are inclusions. -/
theorem single_around {passed later : List Sighting} (layout : lay.kind = .layout) :
    Single (passed ++ lay :: later) ↔
      (∀ s ∈ passed, s.kind = .inclusion) ∧ ∀ s ∈ later, s.kind = .inclusion := by
  induction passed with
  | nil => simp [single_cons_of_layout layout]
  | cons s passed ih =>
    rw [List.cons_append]
    cases kindOf : s.kind with
    | inclusion => simp [single_cons_of_inclusion kindOf, ih, kindOf]
    | layout =>
      rw [single_cons_of_layout kindOf]
      refine iff_of_false (fun only => ?_) fun only => ?_
      · have inclusion := only lay (List.mem_append_right _ List.mem_cons_self)
        rw [layout] at inclusion
        cases inclusion
      · have inclusion := only.1 s List.mem_cons_self
        rw [kindOf] at inclusion
        cases inclusion

theorem layout?_course (before ahead : List Char) :
    layout? (course false before ahead) = layout? (sightings before ahead) := by
  fun_induction sightings before ahead with
  | case1 before ahead none => rw [course_of_none none]
  | case2 before ahead s found ih =>
    rw [course_of_some found, if_neg (by simp)]
    cases kindOf : s.kind with
    | layout => simp [layout?, kindOf]
    | inclusion =>
      simp only [layout?, List.find?_cons, kindOf] at ih ⊢
      simpa [s.onward_of_inclusion kindOf] using ih

/-- A text is met as it shows its directives up to the layout. -/
theorem around_layout (found : layout? (sightings before ahead) = some lay) :
    ∃ passed, sightings before ahead = passed ++ lay :: sightings lay.passed lay.rest ∧
      course false before ahead = passed ++ lay :: course true lay.before lay.rest := by
  fun_induction sightings before ahead with
  | case1 => cases found
  | case2 before ahead s next ih =>
    rw [course_of_some next, if_neg (by simp)]
    cases kindOf : s.kind with
    | layout =>
      obtain rfl : s = lay := by simpa [layout?, kindOf] using found
      exact ⟨[], by simp, by simp [s.onward_of_layout kindOf]⟩
    | inclusion =>
      obtain ⟨passed, shown, met⟩ := ih (by simpa [layout?, kindOf] using found)
      refine ⟨s :: passed, by simp [shown], ?_⟩
      simp [s.onward_of_inclusion kindOf, met]

theorem course_of_inclusions {hasLayout : Bool}
    (only : ∀ s ∈ sightings before ahead, s.kind = .inclusion) :
    course hasLayout before ahead = sightings before ahead := by
  fun_induction sightings before ahead with
  | case1 before ahead none => exact course_of_none none
  | case2 before ahead s found ih =>
    have inclusion := only s List.mem_cons_self
    rw [course_of_some found, if_neg (by simp [inclusion]), s.onward_of_inclusion inclusion]
    simp only [inclusion, reduceCtorEq, decide_false, Bool.or_false]
    rw [ih fun other member => only other (List.mem_cons_of_mem _ member)]

theorem remainder_of_inclusions (only : ∀ s ∈ course hasLayout before ahead, s.kind = .inclusion) :
    remainder hasLayout before ahead = before.reverse ++ ahead := by
  fun_induction course hasLayout before ahead with
  | case1 hasLayout before ahead none => exact remainder_of_none none
  | case2 hasLayout before ahead s found second =>
    have inclusion := only s List.mem_cons_self
    rw [second.2] at inclusion
    cases inclusion
  | case3 hasLayout before ahead s found first ih =>
    have inclusion := only s List.mem_cons_self
    rw [remainder_of_some found, if_neg first, ih fun other member =>
      only other (List.mem_cons_of_mem _ member), s.onward_of_inclusion inclusion,
      passed_append_rest found]

theorem remainder_of_layout (first : layout? (course false before ahead) = some lay)
    (single : Single (course false before ahead)) :
    remainder false before ahead = lay.before.reverse ++ lay.rest := by
  fun_induction sightings before ahead with
  | case1 before ahead none => simp [course_of_none none, layout?] at first
  | case2 before ahead s found ih =>
    rw [course_of_some found, if_neg (by simp)] at first single
    rw [remainder_of_some found, if_neg (by simp)]
    cases kindOf : s.kind with
    | layout =>
      obtain rfl : s = lay := by simpa [layout?, kindOf] using first
      simp only [kindOf, decide_true, Bool.or_true] at single ⊢
      rw [remainder_of_inclusions ((single_cons_of_layout kindOf).1 single),
        s.onward_of_layout kindOf]
    | inclusion =>
      have later := (single_cons_of_inclusion kindOf).1 single
      simp only [kindOf, s.onward_of_inclusion kindOf] at later first ⊢
      refine ih ?_ later
      simpa [layout?, kindOf] using first

/-- What is left of a text once its directives were met is the text without its layout. -/
theorem left_eq {text : String} (single : Single (met text)) : left text = withoutLayout text := by
  rw [left, withoutLayout, shown, ← layout?_course]
  cases first : layout? (course false [] text.toList) with
  | none =>
    rw [remainder_of_inclusions (layout?_eq_none_iff.1 first)]
    simp
  | some lay => rw [remainder_of_layout first single]

end Collage.Directive
