import Collage.Lowering
import Collage.Proofs.Directive.Seam

/-! # The invocations of a text

`Lowering.lowerActions` writes every invocation of a text as a tag.  `Lowering.invocations` lists
the invocations that it finds, as sightings with the text on their two sides: what stands between
them is kept (`Lowering.lowerActions_cases`).

An inclusion is spelled as an invocation whose name begins with the marker
(`Lowering.spells_inclusion_iff`), but the two are not looked for alike: nothing escapes an
invocation, and any name will do.  Where those that are marked can be read as directives and no
other one has a directive inside of it, the directives that a text shows are its marked invocations
(`Lowering.sightings_eq_filter`).
-/

namespace Collage.Lowering

open Directive (Sighting Spells sight? sightings isEscaped)
open Markup (Blanks Firm)

variable {name markup text before ahead front rest : List Char} {s : Sighting}

/-! ## How an invocation is spelled -/

/-- The markup of an invocation: braces, the keyword, blanks, the quoted name, and anything without
a closing brace up to the braces that close it. -/
def Invokes (name markup : List Char) : Prop :=
  ∃ gap space tail, Blanks gap ∧ space ≠ [] ∧ Blanks space ∧ name ≠ [] ∧ '"' ∉ name ∧ '}' ∉ tail ∧
    markup = '{' :: '{' :: (gap ++ ("template".toList ++
      (space ++ '"' :: (name ++ '"' :: (tail ++ ['}', '}'])))))

/-- An invocation is found where a text begins with its markup. -/
theorem action?_eq_some_iff : action? text = some (name, rest) ↔
    ∃ markup, Invokes name markup ∧ text = markup ++ rest := by
  simp only [action?, Option.bind_eq_bind, Option.bind_eq_some_iff, Option.some.injEq,
    Prod.mk.injEq, Prod.exists]
  constructor
  · rintro ⟨inside, opened, word, named, quoted, spaced, name', after, called, rest', finished, rfl,
      rfl⟩
    obtain ⟨-, gap, blank, rfl⟩ := Markup.open?_eq_some_iff.1 opened
    obtain rfl := Markup.literal?_eq_some.1 named
    obtain ⟨-, space, nonempty, blank', rfl⟩ := Markup.blanks?_eq_some_iff.1 spaced
    obtain ⟨some, free, rfl⟩ := Markup.quoted?_eq_some_iff.1 called
    obtain ⟨tail, free', rfl⟩ := Markup.finish?_eq_some_iff.1 finished
    exact ⟨_, ⟨gap, space, tail, blank, nonempty, blank', some, free, free', rfl⟩, by simp⟩
  · rintro ⟨markup, ⟨gap, space, tail, blank, nonempty, blank', some, free, free', rfl⟩, rfl⟩
    have word : Firm ("template".toList ++
        (space ++ '"' :: (name ++ '"' :: (tail ++ '}' :: '}' :: rest)))) :=
      Directive.firm_keyword .inclusion _
    refine ⟨_, Markup.open?_eq_some_iff.2 ⟨word, gap, blank, by simp⟩, _,
      Markup.literal?_eq_some.2 rfl, '"' :: (name ++ '"' :: (tail ++ '}' :: '}' :: rest)),
      Markup.blanks?_eq_some_iff.2 ⟨Markup.firm_cons (by decide) _, space, nonempty, blank', rfl⟩,
      name, tail ++ '}' :: '}' :: rest, Markup.quoted?_eq_some_iff.2 ⟨some, free, rfl⟩, rest,
      Markup.finish?_eq_some_iff.2 ⟨tail, free', rfl⟩, rfl, rfl⟩

/-- An inclusion is spelled as the invocation of a name with the marker and something behind it. -/
theorem spells_inclusion_iff : Spells .inclusion name markup ↔
    Invokes name markup ∧ ∃ c more, name = '@' :: c :: more := by
  constructor
  · rintro ⟨gap, space, tail, blank, nonempty, blank', marked, free, free', rfl⟩
    obtain ⟨c, more, rfl⟩ := marked
    exact ⟨⟨gap, space, tail, blank, nonempty, blank', List.cons_ne_nil _ _, free, free', rfl⟩, c,
      more, rfl⟩
  · rintro ⟨⟨gap, space, tail, blank, nonempty, blank', -, free, free', rfl⟩, marked⟩
    exact ⟨gap, space, tail, blank, nonempty, blank', marked, free, free', rfl⟩

/-- Markup takes some of a text. -/
theorem Invokes.eq_cons (invokes : Invokes name markup) : ∃ inside, markup = '{' :: inside := by
  obtain ⟨gap, space, tail, -, -, -, -, -, -, rfl⟩ := invokes
  exact ⟨_, rfl⟩

theorem Invokes.length_lt (invokes : Invokes name markup) (front rest : List Char) :
    rest.length < (front ++ (markup ++ rest)).length := by
  obtain ⟨inside, rfl⟩ := invokes.eq_cons
  simp only [List.length_append, List.length_cons]
  omega

theorem Invokes.free (invokes : Invokes name markup) : '"' ∉ name := by
  obtain ⟨gap, space, tail, -, -, -, -, free, -⟩ := invokes
  exact free

theorem Invokes.quoted_infix (invokes : Invokes name markup) : name ++ ['"'] <:+: markup := by
  obtain ⟨gap, space, tail, -, -, -, -, -, -, rfl⟩ := invokes
  exact ⟨'{' :: '{' :: (gap ++ ("template".toList ++ (space ++ ['"']))), tail ++ ['}', '}'],
    by simp only [List.cons_append, List.append_assoc, List.nil_append]⟩

/-! ## Invocations in a text -/

/-- The invocation whose markup starts right at a place. -/
def invocation? (before ahead : List Char) : Option Sighting :=
  (action? ahead).map fun (name, rest) =>
    ⟨before, .inclusion, name, ahead.take (ahead.length - rest.length), rest⟩

theorem length_invocation? (found : invocation? before ahead = some s) :
    s.rest.length < ahead.length := by
  obtain ⟨⟨name, rest⟩, called, rfl⟩ := Option.map_eq_some_iff.1 found
  exact length_action? called

/-- The invocations at a place and ahead of it, each sought behind the one before. -/
def invocations (before ahead : List Char) : List Sighting :=
  match _found : invocation? before ahead with
  | some s => s :: invocations s.passed s.rest
  | none =>
    match ahead with
    | [] => []
    | c :: ahead => invocations (c :: before) ahead
termination_by ahead.length
decreasing_by
  · exact length_invocation? _found
  · simp

/-- The names that a text invokes. -/
def called (text : List Char) : List String :=
  (invocations [] text).map fun s => String.ofList s.reference

theorem invocation?_eq_some_iff : invocation? before ahead = some s ↔
    s.kind = .inclusion ∧ Invokes s.reference s.markup ∧ s.before = before ∧
      ahead = s.markup ++ s.rest := by
  unfold invocation?
  rw [Option.map_eq_some_iff]
  constructor
  · rintro ⟨⟨name, rest⟩, found, rfl⟩
    obtain ⟨markup, invokes, rfl⟩ := action?_eq_some_iff.1 found
    simp only [List.length_append, Nat.add_sub_cancel, List.take_left, and_self, and_true, true_and]
    exact invokes
  · rintro ⟨inclusion, invokes, rfl, rfl⟩
    refine ⟨(s.reference, s.rest), action?_eq_some_iff.2 ⟨s.markup, invokes, rfl⟩, ?_⟩
    obtain ⟨before, kind, reference, markup, rest⟩ := s
    obtain rfl := inclusion
    simp

theorem invocations_of_some (found : invocation? before ahead = some s) :
    invocations before ahead = s :: invocations s.passed s.rest := by
  rw [invocations]
  split
  · next other eq => rw [found] at eq; cases eq; rfl
  · next none => rw [found] at none; cases none

theorem invocations_of_none {c : Char} (none : invocation? before (c :: ahead) = none) :
    invocations before (c :: ahead) = invocations (c :: before) ahead := by
  rw [invocations]
  split
  · next other eq => rw [none] at eq; cases eq
  · rfl

theorem invocations_nil (before : List Char) : invocations before [] = [] := by
  rw [invocations]
  split
  · next other eq => cases eq
  · rfl

/-- Whether an invocation starts at a place depends on what is ahead alone. -/
theorem action?_of_invocation? (found : invocation? before ahead = some s) :
    action? ahead = some (s.reference, s.rest) := by
  obtain ⟨-, invokes, -, eq⟩ := invocation?_eq_some_iff.1 found
  exact action?_eq_some_iff.2 ⟨s.markup, invokes, eq⟩

theorem action?_eq_none_iff : action? ahead = none ↔ invocation? before ahead = none := by
  rw [invocation?, Option.map_eq_none_iff]

/-! ## Lowering -/

theorem lowerActions_of_some (found : invocation? before ahead = some s) :
    lowerActions ahead = includeTag s.reference ++ lowerActions s.rest := by
  have action := action?_of_invocation? found
  rw [lowerActions]
  split
  · next name rest eq =>
    rw [action] at eq
    cases eq
    rfl
  · next none => rw [action] at none; cases none

theorem lowerActions_of_none {c : Char} (none : invocation? before (c :: ahead) = none) :
    lowerActions (c :: ahead) = c :: lowerActions ahead := by
  have action := action?_eq_none_iff.2 none
  rw [lowerActions]
  split
  · next name rest eq => rw [action] at eq; cases eq
  · rfl

theorem lowerActions_nil : lowerActions [] = [] := by
  rw [lowerActions]
  split
  · next name rest eq => cases eq
  · rfl

/-- What lowering does to a text: nothing if there are no invocations, and otherwise it keeps the
text before the first one, puts the tag for it and goes on behind it. -/
theorem lowerActions_cases (before ahead : List Char) :
    (invocations before ahead = [] ∧ lowerActions ahead = ahead) ∨
      ∃ skipped s, invocations before ahead = s :: invocations s.passed s.rest ∧
        s.before = skipped.reverse ++ before ∧ ahead = skipped ++ (s.markup ++ s.rest) ∧
        s.kind = .inclusion ∧ Invokes s.reference s.markup ∧
        lowerActions ahead = skipped ++ (includeTag s.reference ++ lowerActions s.rest) := by
  induction ahead generalizing before with
  | nil => exact .inl ⟨invocations_nil before, lowerActions_nil⟩
  | cons c ahead ih =>
    cases found : invocation? before (c :: ahead) with
    | some s =>
      obtain ⟨inclusion, invokes, place, eq⟩ := invocation?_eq_some_iff.1 found
      exact .inr ⟨[], s, invocations_of_some found, place, eq, inclusion, invokes,
        lowerActions_of_some found⟩
    | none =>
      rw [invocations_of_none found, lowerActions_of_none found]
      rcases ih (c :: before) with ⟨none, kept⟩ | ⟨skipped, s, first, place, eq, inclusion, invokes,
        lowered⟩
      · exact .inl ⟨none, by rw [kept]⟩
      · exact .inr ⟨c :: skipped, s, first, by simp [place], by simp [eq], inclusion, invokes,
          by simp [lowered]⟩

/-! ## Two texts one after the other -/

theorem invocation?_append (found : invocation? before front = some s) (rest : List Char) :
    invocation? before (front ++ rest) = some (s.followedBy rest) := by
  obtain ⟨inclusion, invokes, place, eq⟩ := invocation?_eq_some_iff.1 found
  exact invocation?_eq_some_iff.2 ⟨inclusion, invokes, place, by simp [eq, Sighting.followedBy]⟩

/-- An invocation that begins in a text and is not one of that text reaches beyond its end. -/
theorem crosses_of_invocation? (found : invocation? before (front ++ rest) = some s)
    (outside : invocation? before front = none) (nonempty : front ≠ []) :
    s.directive.Crosses (Text.size before + Text.size front) := by
  obtain ⟨inclusion, invokes, place, eq⟩ := invocation?_eq_some_iff.1 found
  have first := Text.length_le_size front
  have taken := List.length_pos_iff.2 nonempty
  rw [List.append_eq_append_iff] at eq
  rcases eq with ⟨beyond, markup, -⟩ | ⟨unread, within, -⟩
  · have long : beyond ≠ [] := by
      rintro rfl
      have found' : invocation? before front = some { s with rest := [] } :=
        invocation?_eq_some_iff.2 ⟨inclusion, invokes, place, by simpa using markup.symm⟩
      rw [outside] at found'
      cases found'
    have positive := Text.length_le_size beyond
    have nonempty := List.length_pos_iff.2 long
    simp only [Directive.Crosses, Sighting.directive, Sighting.passed, place, markup,
      Text.size_append, Text.size_reverse]
    omega
  · have found' : invocation? before front = some { s with rest := unread } :=
      invocation?_eq_some_iff.2 ⟨inclusion, invokes, place, within⟩
    rw [outside] at found'
    cases found'

/-- The invocations of two texts one after the other are those of the first and those of the second,
unless one of them crosses the seam. -/
theorem invocations_append (before front rest : List Char) :
    (∃ s ∈ invocations before (front ++ rest),
        s.directive.Crosses (Text.size before + Text.size front)) ∨
      invocations before (front ++ rest) =
        (invocations before front).map (·.followedBy rest) ++
          invocations (front.reverse ++ before) rest := by
  induction size : front.length using Nat.strongRecOn generalizing before front with
  | ind _ ih =>
    cases inside : invocation? before front with
    | some s =>
      have shorter := length_invocation? inside
      obtain ⟨-, -, place, eq⟩ := invocation?_eq_some_iff.1 inside
      rw [invocations_of_some (invocation?_append inside rest), invocations_of_some inside]
      have sizes : Text.size s.passed + Text.size s.rest = Text.size before + Text.size front := by
        simp only [Sighting.passed, place, eq, Text.size_append, Text.size_reverse]
        omega
      have turned : s.rest.reverse ++ s.passed = front.reverse ++ before := by
        simp [Sighting.passed, place, eq]
      rcases ih _ (size ▸ shorter) s.passed s.rest rfl with ⟨t, member, crosses⟩ | same
      · exact .inl ⟨t, List.mem_cons_of_mem _ member, sizes ▸ crosses⟩
      · refine .inr ?_
        rw [← turned]
        exact congrArg (s.followedBy rest :: ·) same
    | none =>
      cases front with
      | nil => exact .inr (by simp [invocations_nil])
      | cons c front =>
        cases found : invocation? before (c :: (front ++ rest)) with
        | some s =>
          -- The markup is too long for the first text, as it was not found there.
          refine .inl ⟨s, by rw [List.cons_append, invocations_of_some found]; simp, ?_⟩
          exact crosses_of_invocation? found inside (List.cons_ne_nil c front)
        | none =>
          have sizes : Text.size before + Text.size (c :: front) =
              Text.size (c :: before) + Text.size front := by
            simp only [Text.size_cons]
            omega
          have turned : (c :: front).reverse ++ before = front.reverse ++ (c :: before) := by simp
          rw [List.cons_append, invocations_of_none found, invocations_of_none inside, sizes,
            turned]
          exact ih front.length (size ▸ Nat.lt_succ_self _) (c :: before) front rfl

/-! ## Invocations and directives -/

/-- A name that begins with the marker of references. -/
def IsMarked (name : List Char) : Prop := name.head? = some '@'

instance (name : List Char) : Decidable (IsMarked name) :=
  inferInstanceAs (Decidable (name.head? = some '@'))

/-- Where a text invokes marked names, nothing escapes the markup and something stands behind the
marker; and no directive begins inside of the invocation of another name. -/
structure Clear (before ahead : List Char) : Prop where
  spelled : ∀ s ∈ invocations before ahead, IsMarked s.reference →
    isEscaped s.before = false ∧ s.reference ≠ ['@']
  apart : ∀ s ∈ invocations before ahead, ¬ IsMarked s.reference →
    ∀ d ∈ sightings before ahead, ¬ s.directive.Crosses d.directive.start

/-- A text with fewer invocations and directives than a clear one is clear. -/
theorem Clear.of_fewer {before' ahead' : List Char} (clear : Clear before ahead)
    (fewer : ∀ s ∈ invocations before' ahead', s ∈ invocations before ahead)
    (shown : ∀ d ∈ sightings before' ahead', d ∈ sightings before ahead) :
    Clear before' ahead' where
  spelled := fun s member => clear.spelled s (fewer s member)
  apart := fun s member plain d inside => clear.apart s (fewer s member) plain d (shown d inside)

/-- An inclusion is an invocation where it stands. -/
theorem invocation?_of_sight? (sighted : sight? before ahead = some s)
    (inclusion : s.kind = .inclusion) :
    invocation? before ahead = some s ∧ IsMarked s.reference := by
  obtain ⟨-, spells, place, eq⟩ := Directive.sight?_eq_some_iff.1 sighted
  rw [inclusion] at spells
  obtain ⟨invokes, c, more, marked⟩ := spells_inclusion_iff.1 spells
  exact ⟨invocation?_eq_some_iff.2 ⟨inclusion, invokes, place, eq⟩, by simp [IsMarked, marked]⟩

theorem sight?_of_invocation? (found : invocation? before ahead = some s)
    (marked : IsMarked s.reference) (free : isEscaped before = false)
    (long : s.reference ≠ ['@']) : sight? before ahead = some s := by
  obtain ⟨inclusion, invokes, place, eq⟩ := invocation?_eq_some_iff.1 found
  refine Directive.sight?_eq_some_iff.2 ⟨free, ?_, place, eq⟩
  rw [inclusion]
  refine spells_inclusion_iff.2 ⟨invokes, ?_⟩
  rcases reference : s.reference with _ | ⟨c, _ | ⟨c', more⟩⟩
  · simp [IsMarked, reference] at marked
  · simp_all [IsMarked]
  · simp_all [IsMarked]

theorem sightings_of_sight?_none {c : Char} (none : sight? before (c :: ahead) = none) :
    sightings before (c :: ahead) = sightings (c :: before) ahead := by
  have next : Directive.next? before (c :: ahead) = Directive.next? (c :: before) ahead := by
    rw [Directive.next?, none]
  cases found : Directive.next? (c :: before) ahead with
  | none => rw [Directive.sightings_of_none found, Directive.sightings_of_none (next.trans found)]
  | some s => rw [Directive.sightings_of_some found, Directive.sightings_of_some (next.trans found)]

/-- Where no directive begins at an invocation or inside of it, all of them are behind it. -/
theorem sightings_past (found : invocation? before ahead = some s)
    (here : ∀ d ∈ sightings before ahead, d.directive.start ≠ s.directive.start)
    (apart : ∀ d ∈ sightings before ahead, ¬ s.directive.Crosses d.directive.start) :
    sightings before ahead = sightings s.passed s.rest := by
  obtain ⟨-, -, place, eq⟩ := invocation?_eq_some_iff.1 found
  have start : s.directive.start = Text.size before := congrArg Text.size place
  have stop : s.directive.stop = Text.size before + Text.size s.markup := by
    rw [s.stop_eq, start]
  have within : ∀ d ∈ sightings before ahead, s.directive.stop ≤ d.directive.start := by
    intro d member
    have bounds := Directive.bounds_of_mem_sightings member
    have differs := here d member
    have outside := apart d member
    simp only [Directive.Crosses] at outside
    omega
  rw [eq] at within ⊢
  rcases Directive.sightings_append before s.markup s.rest with ⟨d, member, crosses⟩ | split
  · have behind := within d member
    simp only [Directive.Crosses] at crosses
    omega
  · -- None stands in the markup itself.
    have none : sightings before s.markup = [] := by
      rw [List.eq_nil_iff_forall_not_mem]
      intro d member
      have kept : d.followedBy s.rest ∈ sightings before (s.markup ++ s.rest) := by
        rw [split]
        exact List.mem_append_left _ (List.mem_map_of_mem member)
      have behind := within _ kept
      have bounds := Directive.bounds_of_mem_sightings member
      have same : (d.followedBy s.rest).directive.start = d.directive.start := rfl
      omega
    rw [split, none, List.map_nil, List.nil_append, Sighting.passed, place]

/-- No directive begins where the invocation of a name without the marker does. -/
theorem start_ne_of_unmarked {d : Sighting} (found : invocation? before ahead = some s)
    (plain : ¬ IsMarked s.reference) (member : d ∈ sightings before ahead)
    (inclusion : d.kind = .inclusion) : d.directive.start ≠ s.directive.start := by
  intro same
  obtain ⟨-, -, place, -⟩ := invocation?_eq_some_iff.1 found
  obtain ⟨skipped, before', split, free, spells⟩ := Directive.of_mem_sightings member
  have none : skipped = [] := by
    have bound := Text.length_le_size skipped
    simp only [Sighting.directive, before', place, Text.size_append, Text.size_reverse] at same
    exact List.length_eq_zero_iff.1 (by omega)
  subst none
  -- The directive would be the invocation.
  have sighted : sight? before ahead = some d :=
    Directive.sight?_eq_some_iff.2 ⟨by simpa [before'] using free, spells, before', split⟩
  obtain ⟨found', marked⟩ := invocation?_of_sight? sighted inclusion
  rw [found] at found'
  cases found'
  exact plain marked

/-- The directives that a clear text shows are its marked invocations, if there is no layout. -/
theorem sightings_eq_filter (clear : Clear before ahead)
    (inclusions : ∀ d ∈ sightings before ahead, d.kind = .inclusion) :
    sightings before ahead =
      (invocations before ahead).filter fun s => IsMarked s.reference := by
  induction size : ahead.length using Nat.strongRecOn generalizing before ahead with
  | ind _ ih =>
    cases found : invocation? before ahead with
    | some s =>
      have shorter := length_invocation? found
      have first := invocations_of_some found
      by_cases marked : IsMarked s.reference
      · -- The invocation is a directive, and the walks go on behind it.
        obtain ⟨free, long⟩ := clear.spelled s (by simp [first]) marked
        obtain ⟨-, -, place, -⟩ := invocation?_eq_some_iff.1 found
        have sighted := sight?_of_invocation? found marked (place ▸ free) long
        have shown := Directive.sightings_of_some (Directive.next?_of_sight? sighted)
        have later : Clear s.passed s.rest :=
          clear.of_fewer (fun t member => by simp [first, member]) fun d inside => by
            simp [shown, inside]
        rw [shown, first, List.filter_cons_of_pos (by simpa using marked),
          ih _ (size ▸ shorter) later (fun d inside => inclusions d (by simp [shown, inside])) rfl]
      · have past := sightings_past found (fun d member => start_ne_of_unmarked found marked member
          (inclusions d member)) (clear.apart s (by simp [first]) marked)
        have later : Clear s.passed s.rest :=
          clear.of_fewer (fun t member => by simp [first, member]) fun d inside => by rwa [past]
        rw [past, first, List.filter_cons_of_neg (by simpa using marked),
          ih _ (size ▸ shorter) later (fun d inside => inclusions d (by rwa [past])) rfl]
    | none =>
      cases ahead with
      | nil =>
        rw [invocations_nil, Directive.sightings_of_none rfl]
        rfl
      | cons c ahead =>
        have hidden : sight? before (c :: ahead) = none := by
          cases sighted : sight? before (c :: ahead) with
          | none => rfl
          | some d =>
            have shown := Directive.sightings_of_some (Directive.next?_of_sight? sighted)
            have inclusion := inclusions d (by simp [shown])
            rw [(invocation?_of_sight? sighted inclusion).1] at found
            cases found
        have same := invocations_of_none found
        have same' := sightings_of_sight?_none hidden
        have later : Clear (c :: before) ahead :=
          clear.of_fewer (fun t member => by rwa [same]) fun d inside => by rwa [same']
        rw [same, same']
        exact ih ahead.length (size ▸ Nat.lt_succ_self _) later (same' ▸ inclusions) rfl

end Collage.Lowering
