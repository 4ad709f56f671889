import Collage.Proofs.Directive.Sightings

/-! # What is joined where a layout was

To take the layout out of a text joins what stands before it with what stands behind it.  Away from
that seam nothing changes: the directives of two texts one after the other are those of the first
and those of the second, unless one crosses the seam (`Directive.sightings_append`), and what
escapes a directive is the two characters before it (`Directive.scanFrom_alike`).  So the text
without its layout shows the inclusions of the text, unless a directive joins at the seam
(`Directive.scan_eq_closedUp`), and one that does is none of these inclusions
(`Directive.not_mem_closedUp`).
-/

namespace Collage.Directive

variable {before ahead front rest : List Char} {s lay : Sighting} {d : Directive}

/-- A place lies inside of the markup. -/
def Crosses (d : Directive) (place : Nat) : Prop := d.start < place ∧ place < d.stop

instance (d : Directive) (place : Nat) : Decidable (d.Crosses place) :=
  inferInstanceAs (Decidable (_ ∧ _))

/-! ## Two texts one after the other -/

/-- The directive with more text behind it. -/
def Sighting.followedBy (s : Sighting) (more : List Char) : Sighting :=
  { s with rest := s.rest ++ more }

theorem sight?_append (sighted : sight? before front = some s) (rest : List Char) :
    sight? before (front ++ rest) = some (s.followedBy rest) := by
  obtain ⟨free, spells, place, eq⟩ := sight?_eq_some_iff.1 sighted
  exact sight?_eq_some_iff.2 ⟨free, spells, place, by simp [eq, Sighting.followedBy]⟩

/-- The nearest directive of two texts one after the other crosses their seam, or is that of the
first, or else that of the second. -/
theorem next?_append (before front rest : List Char) :
    (∃ s, next? before (front ++ rest) = some s ∧
        s.directive.Crosses (Text.size before + Text.size front)) ∨
      (∃ s, next? before front = some s ∧
        next? before (front ++ rest) = some (s.followedBy rest)) ∨
      (next? before front = none ∧
        next? before (front ++ rest) = next? (front.reverse ++ before) rest) := by
  induction front generalizing before with
  | nil => exact .inr (.inr ⟨rfl, rfl⟩)
  | cons c front ih =>
    simp only [List.cons_append, next?]
    cases inside : sight? before (c :: front) with
    | some s =>
      have sighted := sight?_append inside rest
      rw [List.cons_append] at sighted
      exact .inr (.inl ⟨s, rfl, by rw [sighted]⟩)
    | none =>
      cases sighted : sight? before (c :: (front ++ rest)) with
      | some s =>
        -- The markup is too long for the first text, as it was not sighted there.
        obtain ⟨free, spells, place, eq⟩ := sight?_eq_some_iff.1 sighted
        rw [← List.cons_append, List.append_eq_append_iff] at eq
        rcases eq with ⟨beyond, markup, -⟩ | ⟨unread, within, -⟩
        · refine .inl ⟨s, rfl, ?_⟩
          have long : beyond ≠ [] := by
            rintro rfl
            have sighted' : sight? before (c :: front) = some { s with rest := [] } :=
              sight?_eq_some_iff.2 ⟨free, spells, place, by simpa using markup.symm⟩
            rw [inside] at sighted'
            cases sighted'
          have positive := Text.length_le_size beyond
          have nonempty := List.length_pos_iff.2 long
          have first := c.utf8Size_pos
          simp only [Crosses, Sighting.directive, Sighting.passed, place, markup, Text.size_append,
            Text.size_reverse, Text.size_cons]
          omega
        · have sighted' : sight? before (c :: front) = some { s with rest := unread } :=
            sight?_eq_some_iff.2 ⟨free, spells, place, within⟩
          rw [inside] at sighted'
          cases sighted'
      | none =>
        have sizes : Text.size before + Text.size (c :: front) =
            Text.size (c :: before) + Text.size front := by
          simp only [Text.size_cons]
          omega
        have turned : (c :: front).reverse ++ before = front.reverse ++ (c :: before) := by simp
        simp only [sizes, turned]
        exact ih (c :: before)

/-- The directives of two texts one after the other are those of the first and those of the second,
unless one of them crosses the seam. -/
theorem sightings_append (before front rest : List Char) :
    (∃ s ∈ sightings before (front ++ rest),
        s.directive.Crosses (Text.size before + Text.size front)) ∨
      sightings before (front ++ rest) =
        (sightings before front).map (·.followedBy rest) ++
          sightings (front.reverse ++ before) rest := by
  fun_induction sightings before front with
  | case1 before front none =>
    rcases next?_append before front rest with ⟨s, found, crosses⟩ | ⟨s, inside, -⟩ | ⟨-, onward⟩
    · exact .inl ⟨s, by rw [sightings_of_some found]; exact List.mem_cons_self, crosses⟩
    · rw [none] at inside
      cases inside
    · refine .inr ?_
      cases found : next? before (front ++ rest) with
      | none => rw [sightings_of_none found, sightings_of_none (onward.symm.trans found)]; rfl
      | some s => rw [sightings_of_some found, sightings_of_some (onward.symm.trans found)]; rfl
  | case2 before front s inside ih =>
    rcases next?_append before front rest with ⟨t, found, crosses⟩ | ⟨t, inside', found⟩ | ⟨none, -⟩
    · exact .inl ⟨t, by rw [sightings_of_some found]; exact List.mem_cons_self, crosses⟩
    · obtain rfl : s = t := Option.some.inj (inside.symm.trans inside')
      have turned := congrArg List.reverse (passed_append_rest inside)
      simp only [List.reverse_append, List.reverse_reverse] at turned
      have sizes := congrArg Text.size turned
      simp only [Text.size_append, Text.size_reverse] at sizes
      rw [sightings_of_some found]
      rcases ih with ⟨t, member, crosses⟩ | eq
      · refine .inl ⟨t, List.mem_cons_of_mem _ member, ?_⟩
        rwa [Nat.add_comm (Text.size before), ← sizes, Nat.add_comm (Text.size s.rest)]
      · refine .inr ?_
        rw [List.map_cons, List.cons_append, ← turned]
        exact congrArg (s.followedBy rest :: ·) eq
    · rw [inside] at none
      cases none

theorem scanFrom_append (before front rest : List Char) :
    (∃ d ∈ scanFrom before (front ++ rest),
        d.Crosses (Text.size before + Text.size front)) ∨
      scanFrom before (front ++ rest) =
        scanFrom before front ++ scanFrom (front.reverse ++ before) rest := by
  simp only [scanFrom_eq]
  rcases sightings_append before front rest with ⟨s, member, crosses⟩ | split
  · exact .inl ⟨s.directive, List.mem_map_of_mem member, crosses⟩
  · refine .inr ?_
    rw [split, List.map_append, List.map_map]
    rfl

theorem Sighting.stop_eq (s : Sighting) :
    s.directive.stop = s.directive.start + Text.size s.markup := by
  simp only [directive, passed, Text.size_append, Text.size_reverse]
  omega

/-- A directive takes some of the text that it is sought in. -/
theorem bounds_of_mem_sightings (member : s ∈ sightings before ahead) :
    Text.size before ≤ s.directive.start ∧ s.directive.start < s.directive.stop ∧
      s.directive.stop ≤ Text.size before + Text.size ahead := by
  obtain ⟨skipped, place, eq, -, spells⟩ := of_mem_sightings member
  obtain ⟨inside, markup⟩ := spells.eq_cons
  have first := '{'.utf8Size_pos
  rw [s.stop_eq]
  simp only [Sighting.directive, place, eq, markup, Text.size_append, Text.size_reverse,
    Text.size_cons]
  omega

theorem bounds_of_mem_scanFrom (member : d ∈ scanFrom before ahead) :
    Text.size before ≤ d.start ∧ d.start < d.stop ∧
      d.stop ≤ Text.size before + Text.size ahead := by
  rw [scanFrom_eq, List.mem_map] at member
  obtain ⟨s, member, rfl⟩ := member
  exact bounds_of_mem_sightings member

/-- No directive begins inside of another one. -/
theorem not_crosses_start {t : Sighting} (member : s ∈ sightings before ahead)
    (other : t ∈ sightings before ahead) : ¬ s.directive.Crosses t.directive.start := by
  rintro ⟨above, below⟩
  fun_induction sightings before ahead with
  | case1 => cases member
  | case2 before ahead first found ih =>
    have stop : first.directive.stop = Text.size first.passed := rfl
    rcases List.mem_cons.1 member with rfl | member
    · rcases List.mem_cons.1 other with rfl | other
      · omega
      · have behind := bounds_of_mem_sightings other
        omega
    · rcases List.mem_cons.1 other with rfl | other
      · have behind := bounds_of_mem_sightings member
        have length := t.stop_eq
        omega
      · exact ih member other

/-! ## The same text behind another one -/

/-- Wherever a directive can be read ahead, it is escaped behind both texts or behind none. -/
def Alike (before₁ before₂ ahead : List Char) : Prop :=
  ∀ skipped coming, ahead = skipped ++ coming → (read? coming).isSome = true →
    isEscaped (skipped.reverse ++ before₁) = isEscaped (skipped.reverse ++ before₂)

variable {before₁ before₂ : List Char}

theorem Alike.onward (alike : Alike before₁ before₂ (front ++ ahead)) :
    Alike (front.reverse ++ before₁) (front.reverse ++ before₂) ahead := by
  intro skipped coming eq read
  have same := alike (front ++ skipped) coming (by rw [eq, List.append_assoc]) read
  simpa using same

theorem Alike.sight?_eq (alike : Alike before₁ before₂ ahead) :
    sight? before₁ ahead = (sight? before₂ ahead).map fun s => { s with before := before₁ } := by
  unfold sight?
  cases read : read? ahead with
  | none => simp
  | some found =>
    have same := alike [] ahead rfl (by rw [read]; rfl)
    simp only [List.reverse_nil, List.nil_append] at same
    rw [same]
    cases isEscaped before₂ <;> simp

theorem Alike.next?_eq (alike : Alike before₁ before₂ ahead) :
    (next? before₁ ahead = none ∧ next? before₂ ahead = none) ∨
      ∃ skipped s, s.before = skipped.reverse ++ before₂ ∧
        ahead = skipped ++ (s.markup ++ s.rest) ∧ next? before₂ ahead = some s ∧
        next? before₁ ahead = some { s with before := skipped.reverse ++ before₁ } := by
  induction ahead generalizing before₁ before₂ with
  | nil => exact .inl ⟨rfl, rfl⟩
  | cons c ahead ih =>
    simp only [next?, alike.sight?_eq]
    cases sighted : sight? before₂ (c :: ahead) with
    | some s =>
      obtain ⟨-, -, place, eq⟩ := sight?_eq_some_iff.1 sighted
      exact .inr ⟨[], s, place, eq, rfl, rfl⟩
    | none =>
      have onward : Alike ([c].reverse ++ before₁) ([c].reverse ++ before₂) ahead := alike.onward
      rcases ih onward with none | ⟨skipped, s, place, eq, found, found'⟩
      · exact .inl none
      · exact .inr ⟨c :: skipped, s, by simpa using place, by simp [eq], found,
          by simpa using found'⟩

/-- The directive with its place moved towards the end of the text. -/
def pushed (bytes : Nat) (d : Directive) : Directive :=
  { d with start := d.start + bytes, stop := d.stop + bytes }

/-- Behind texts that are alike stand the same directives, further on by what the one is longer. -/
theorem scanFrom_alike {bytes : Nat} (alike : Alike before₁ before₂ ahead)
    (longer : Text.size before₁ = Text.size before₂ + bytes) :
    scanFrom before₁ ahead = (scanFrom before₂ ahead).map (pushed bytes) := by
  rw [scanFrom_eq, scanFrom_eq]
  fun_induction sightings before₂ ahead generalizing before₁ with
  | case1 before₂ ahead none =>
    rcases alike.next?_eq with ⟨none', -⟩ | ⟨_, s, -, -, found, -⟩
    · rw [sightings_of_none none']
      rfl
    · rw [none] at found
      cases found
  | case2 before₂ ahead s found ih =>
    rcases alike.next?_eq with ⟨-, none⟩ | ⟨skipped, s', place, eq, found', moved⟩
    · rw [found] at none
      cases none
    · obtain rfl : s = s' := Option.some.inj (found.symm.trans found')
      have passed : ∀ b : List Char, s.markup.reverse ++ (skipped.reverse ++ b) =
          (skipped ++ s.markup).reverse ++ b := by simp
      have later : Alike (s.markup.reverse ++ (skipped.reverse ++ before₁)) s.passed s.rest := by
        rw [Sighting.passed, place, passed, passed]
        exact Alike.onward (by rwa [List.append_assoc, ← eq])
      rw [sightings_of_some moved, List.map_cons, List.map_cons, List.map_cons]
      congr 1
      · simp only [Sighting.directive, Sighting.passed, pushed, place, Text.size_append,
          Text.size_reverse, longer, Directive.mk.injEq, true_and]
        omega
      · refine ih later ?_
        simp only [Sighting.passed, place, Text.size_append, Text.size_reverse, longer]
        omega

/-! ## Around the layout -/

variable {text : String}

theorem toList_of_layout (found : layout? (shown text) = some lay) :
    text.toList = lay.before.reverse ++ (lay.markup ++ lay.rest) ∧ isEscaped lay.before = false ∧
      Spells lay.kind lay.reference lay.markup := by
  obtain ⟨skipped, place, eq, free, spells⟩ := of_mem_sightings (of_layout? found).1
  rw [List.append_nil] at place
  exact ⟨by rw [place, List.reverse_reverse, eq], free, spells⟩

/-- The directives of a text with a layout are those of the text before it, the layout, and those
that stand behind it. -/
theorem shown_of_layout (found : layout? (shown text) = some lay) :
    ∃ passed, passed.map (·.directive) = scanFrom [] lay.before.reverse ∧
      shown text = passed ++ lay :: sightings lay.passed lay.rest ∧
      met text = passed ++ lay :: course true lay.before lay.rest := by
  obtain ⟨eq, free, spells⟩ := toList_of_layout found
  obtain ⟨passed, split, met⟩ := around_layout found
  refine ⟨passed, ?_, split, met⟩
  have sighted : sight? lay.before (lay.markup ++ lay.rest) = some lay :=
    sight?_eq_some_iff.2 ⟨free, spells, rfl, rfl⟩
  have whole := sightings_append [] lay.before.reverse (lay.markup ++ lay.rest)
  rw [List.reverse_reverse, List.append_nil, sightings_of_some (next?_of_sight? sighted), ← eq]
    at whole
  -- The layout itself begins at the seam, so that no directive can cross it.
  rcases whole with ⟨s, member, crosses⟩ | whole
  · simp only [Text.size_nil, Text.size_reverse, Nat.zero_add] at crosses
    exact absurd crosses (not_crosses_start member (of_layout? found).1)
  · rw [split] at whole
    rw [scanFrom_eq, List.append_cancel_right whole, List.map_map]
    rfl

theorem scan_of_layout (found : layout? (shown text) = some lay) :
    scan text =
      scanFrom [] lay.before.reverse ++ lay.directive :: scanFrom lay.passed lay.rest := by
  obtain ⟨passed, before, split, -⟩ := shown_of_layout found
  rw [scan_eq, split, List.map_append, List.map_cons, before, scanFrom_eq lay.passed]

/-- Without the layout, a text shows what stands before it and what stands behind it, unless a
directive crosses the seam. -/
theorem scan_withoutLayout_append (found : layout? (shown text) = some lay) :
    (∃ d ∈ scan (withoutLayout text), d.Crosses lay.directive.start) ∨
      scan (withoutLayout text) =
        scanFrom [] lay.before.reverse ++ scanFrom lay.before lay.rest := by
  have stripped : (withoutLayout text).toList = lay.before.reverse ++ lay.rest := by
    simp [withoutLayout, found]
  have whole := scanFrom_append [] lay.before.reverse lay.rest
  rw [List.reverse_reverse, List.append_nil, Text.size_nil, Nat.zero_add, Text.size_reverse,
    ← stripped] at whole
  exact whole

/-! ## Directives that join at the seam -/

/-- A directive of the text without the layout owes its being to the seam: it crosses it, or the
brace that escaped it is itself escaped by the backslash that stood before the layout. -/
def Sighting.Joins (lay : Sighting) (d : Directive) : Prop :=
  d.Crosses lay.directive.start ∨
    d.start = lay.directive.start + 1 ∧ lay.before.head? = some '\\' ∧ lay.rest.head? = some '{'

instance (lay : Sighting) (d : Directive) : Decidable (lay.Joins d) :=
  inferInstanceAs (Decidable (_ ∨ _))

/-- Cutting out the layout joins no directive together. -/
def Seamless (text : String) : Prop :=
  ∀ lay, layout? (shown text) = some lay → ∀ d ∈ scan (withoutLayout text), ¬ lay.Joins d

theorem passed_eq (spells : Spells s.kind s.reference s.markup) :
    ∃ more, s.passed = '}' :: '}' :: more := by
  obtain ⟨inside, closed⟩ := spells.eq_concat
  exact ⟨inside.reverse ++ s.before, by simp [Sighting.passed, closed]⟩

theorem isEscaped_two (c c' : Char) (before before' : List Char) :
    isEscaped (c :: c' :: before) = isEscaped (c :: c' :: before') := by
  by_cases brace : c = '{'
  · subst brace
    by_cases slash : c' = '\\'
    · subst slash
      rfl
    · simp [isEscaped, slash]
  · simp [isEscaped, brace]

/-- What stands behind the layout is escaped as if the layout had never been there, unless a
backslash is joined to the brace before a directive. -/
theorem alike_of_apart (free : isEscaped lay.before = false)
    (spells : Spells lay.kind lay.reference lay.markup)
    (apart : ∀ coming, lay.before.head? = some '\\' → lay.rest = '{' :: coming →
      (read? coming).isSome = false) : Alike lay.passed lay.before lay.rest := by
  obtain ⟨inside, passed⟩ := passed_eq spells
  intro skipped coming eq read
  rw [passed]
  rcases turned : skipped.reverse with _ | ⟨c, _ | ⟨c', more⟩⟩
  · simpa [isEscaped] using free.symm
  · obtain rfl : skipped = [c] := by simpa using congrArg List.reverse turned
    by_cases brace : c = '{'
    · subst brace
      rcases near : lay.before with _ | ⟨e, more⟩
      · rfl
      · have kept : e ≠ '\\' := by
          rintro rfl
          have unread := apart coming (by rw [near]; rfl) eq
          rw [read] at unread
          cases unread
        simp [isEscaped, kept]
    · simp [isEscaped, brace]
  · exact isEscaped_two c c' _ _

/-- Behind a backslash the first of three braces escapes no directive. -/
theorem next?_of_bared (more : List Char) {coming : List Char}
    (read : (read? coming).isSome = true) :
    ∃ s, next? ('\\' :: more) ('{' :: coming) = some s ∧ s.before = '{' :: '\\' :: more := by
  obtain ⟨⟨kind, reference, beyond⟩, read⟩ := Option.isSome_iff_exists.1 read
  obtain ⟨markup, spells, eq⟩ := read?_eq_some_iff.1 read
  obtain ⟨inside, opened⟩ := spells.eq_cons
  -- The three braces do not begin with a directive themselves.
  have here : sight? ('\\' :: more) ('{' :: coming) = none := by
    rw [sight?, eq, opened]
    simp [isEscaped, read?_of_third_brace]
  have there : sight? ('{' :: '\\' :: more) coming =
      some ⟨'{' :: '\\' :: more, kind, reference, markup, beyond⟩ :=
    sight?_eq_some_iff.2 ⟨rfl, spells, rfl, eq⟩
  refine ⟨⟨'{' :: '\\' :: more, kind, reference, markup, beyond⟩, ?_, rfl⟩
  rw [next?, here]
  exact next?_of_sight? there

/-- Where nothing joins at the seam, the text without its layout shows the directives before the
layout and those behind it, the latter further to the front by the length of the layout. -/
theorem scan_withoutLayout (found : layout? (shown text) = some lay)
    (apart : ∀ d ∈ scan (withoutLayout text), ¬ lay.Joins d) :
    scan (withoutLayout text) =
        scanFrom [] lay.before.reverse ++ scanFrom lay.before lay.rest ∧
      scanFrom lay.passed lay.rest =
        (scanFrom lay.before lay.rest).map (pushed (Text.size lay.markup)) := by
  obtain ⟨-, free, spells⟩ := toList_of_layout found
  rcases scan_withoutLayout_append found with ⟨d, member, crosses⟩ | joined
  · exact absurd (.inl crosses) (apart d member)
  · refine ⟨joined, scanFrom_alike (alike_of_apart free spells ?_) ?_⟩
    · intro coming slash brace
      by_contra read
      rw [Bool.not_eq_false] at read
      obtain ⟨more, near⟩ := List.head?_eq_some_iff.1 slash
      obtain ⟨s, next, place⟩ := next?_of_bared more read
      rw [← near, ← brace] at next
      refine apart s.directive ?_ (.inr ⟨?_, slash, by rw [brace]; rfl⟩)
      · rw [joined, scanFrom_eq lay.before, sightings_of_some next]
        simp
      · simp only [Sighting.directive, place, near, Text.size_cons]
        exact Nat.add_comm 1 _
    · exact lay.stop_eq

/-! ## The inclusions with the layout gone -/

/-- What a directive asks for: its kind, its reference and the name it means. -/
def request (d : Directive) : Kind × String × String := (d.kind, d.reference, d.name)

/-- The directive where it stands once a gap before it was closed. -/
def pulled (gap d : Directive) : Directive :=
  if gap.stop ≤ d.start then
    { d with start := d.start - (gap.stop - gap.start), stop := d.stop - (gap.stop - gap.start) }
  else d

/-- The inclusions of a text, where they are to stand once the layout was cut out. -/
def closedUp (text : String) : List Directive :=
  ((scan text).filter (·.kind = .inclusion)).map fun d =>
    match layout? (shown text) with
    | none => d
    | some lay => pulled lay.directive d

theorem kind_of_mem_scanFrom (only : ∀ s ∈ sightings before ahead, s.kind = .inclusion)
    (member : d ∈ scanFrom before ahead) : d.kind = .inclusion := by
  rw [scanFrom_eq, List.mem_map] at member
  obtain ⟨s, member, rfl⟩ := member
  exact only s member

theorem closedUp_of_none (none : layout? (shown text) = none) : closedUp text = scan text := by
  have only : ∀ d ∈ scan text, d.kind = .inclusion :=
    fun d => kind_of_mem_scanFrom (layout?_eq_none_iff.1 none)
  simp only [closedUp, none, List.map_id']
  exact List.filter_eq_self.2 fun d member => by simpa using only d member

theorem closedUp_of_layout (found : layout? (shown text) = some lay)
    (single : Single (shown text)) :
    closedUp text = scanFrom [] lay.before.reverse ++
      (scanFrom lay.passed lay.rest).map (pulled lay.directive) := by
  have layout := (of_layout? found).2
  obtain ⟨passed, before, split, -⟩ := shown_of_layout found
  rw [split, single_around layout] at single
  have early : ∀ d ∈ scanFrom [] lay.before.reverse, d.kind = .inclusion := by
    intro d member
    rw [← before, List.mem_map] at member
    obtain ⟨s, member, rfl⟩ := member
    exact single.1 s member
  have late : ∀ d ∈ scanFrom lay.passed lay.rest, d.kind = .inclusion :=
    fun d => kind_of_mem_scanFrom single.2
  have inclusions : (scan text).filter (·.kind = .inclusion) =
      scanFrom [] lay.before.reverse ++ scanFrom lay.passed lay.rest := by
    rw [scan_of_layout found, List.filter_append, List.filter_cons_of_neg,
      List.filter_eq_self.2 fun d member => by simpa using early d member,
      List.filter_eq_self.2 fun d member => by simpa using late d member]
    simp [Sighting.directive, layout]
  simp only [closedUp, found, inclusions, List.map_append]
  congr 1
  -- What stands before the layout stays where it is.
  conv_rhs => rw [← List.map_id (scanFrom [] lay.before.reverse)]
  refine List.map_congr_left fun d member => if_neg ?_
  obtain ⟨-, within, ends⟩ := bounds_of_mem_scanFrom member
  simp only [Text.size_nil, Text.size_reverse, Nat.zero_add] at ends
  have start : lay.directive.start = Text.size lay.before := rfl
  have length := lay.stop_eq
  omega

theorem pulled_pushed (start : lay.directive.start ≤ d.start) :
    pulled lay.directive (pushed (Text.size lay.markup) d) = d := by
  have length := lay.stop_eq
  have behind : lay.directive.stop ≤ (pushed (Text.size lay.markup) d).start := by
    simp only [pushed]
    omega
  rw [pulled, if_pos behind, length, Nat.add_sub_cancel_left]
  simp [pushed]

/-- Where nothing joins at the seam, the text without its only layout shows the inclusions of the
text, where they are to stand, and the same directives are met as are shown. -/
theorem scan_eq_closedUp (found : layout? (shown text) = some lay) (single : Single (shown text))
    (apart : ∀ d ∈ scan (withoutLayout text), ¬ lay.Joins d) :
    scan (withoutLayout text) = closedUp text ∧ Single (met text) ∧
      (met text).map (·.directive.request) = (scan text).map request := by
  have layout := (of_layout? found).2
  obtain ⟨stripped, moved⟩ := scan_withoutLayout found apart
  rw [closedUp_of_layout found single, stripped, moved, List.map_map]
  obtain ⟨passed, before, split, met⟩ := shown_of_layout found
  rw [split, single_around layout] at single
  have late : ∀ s ∈ sightings lay.before lay.rest, s.kind = .inclusion := by
    intro s member
    have kinds : ∀ d ∈ scanFrom lay.passed lay.rest, d.kind = .inclusion :=
      fun d => kind_of_mem_scanFrom single.2
    rw [moved, scanFrom_eq] at kinds
    exact kinds _ (List.mem_map_of_mem (List.mem_map_of_mem member))
  rw [course_of_inclusions late] at met
  refine ⟨?_, ?_, ?_⟩
  · congr 1
    conv_lhs => rw [← List.map_id (scanFrom lay.before lay.rest)]
    refine List.map_congr_left fun d member => (pulled_pushed ?_).symm
    exact (bounds_of_mem_scanFrom member).1
  · rw [met, single_around layout]
    exact ⟨single.1, late⟩
  · rw [met, scan_of_layout found, moved, ← before, scanFrom_eq lay.before]
    simp only [List.map_append, List.map_cons, List.map_map]
    rfl

/-- A brace right behind the layout escapes what follows it. -/
theorem start_ne_of_brace (spells : Spells lay.kind lay.reference lay.markup)
    (brace : lay.rest.head? = some '{') (member : d ∈ scanFrom lay.passed lay.rest) :
    d.start ≠ lay.directive.stop + 1 := by
  intro place
  rw [scanFrom_eq, List.mem_map] at member
  obtain ⟨s, member, rfl⟩ := member
  obtain ⟨skipped, before, eq, free, -⟩ := of_mem_sightings member
  have one : Text.size skipped = 1 := by
    have sizes := congrArg Text.size before
    simp only [Text.size_append, Text.size_reverse] at sizes
    simp only [Sighting.directive] at place
    omega
  have short := Text.length_le_size skipped
  rcases skipped with _ | ⟨c, _ | ⟨c', more⟩⟩
  · cases one
  · rw [eq] at brace
    cases brace
    obtain ⟨more, closed⟩ := passed_eq spells
    rw [before, closed] at free
    cases free
  · simp only [List.length_cons] at short
    omega

/-- A directive that joins at the seam is none of the inclusions of the text. -/
theorem not_mem_closedUp (found : layout? (shown text) = some lay) (single : Single (shown text))
    (joins : lay.Joins d) : d ∉ closedUp text := by
  intro member
  have stop : lay.directive.stop = Text.size lay.passed := rfl
  have start : lay.directive.start = Text.size lay.before := rfl
  have length := lay.stop_eq
  rw [closedUp_of_layout found single, List.mem_append] at member
  rcases member with member | member
  · -- What stands before the layout ends there.
    obtain ⟨-, within, ends⟩ := bounds_of_mem_scanFrom member
    simp only [Text.size_nil, Text.size_reverse, Nat.zero_add] at ends
    rcases joins with crosses | ⟨place, -⟩
    · simp only [Crosses] at crosses
      omega
    · omega
  · obtain ⟨e, inside, rfl⟩ := List.mem_map.1 member
    obtain ⟨behind, -⟩ := bounds_of_mem_scanFrom inside
    rw [pulled, if_pos (stop ▸ behind)] at joins
    rcases joins with crosses | ⟨place, -, brace⟩
    · simp only [Crosses] at crosses
      omega
    · -- In the text itself the brace behind the layout escapes what follows it.
      refine start_ne_of_brace (toList_of_layout found).2.2 brace inside ?_
      simp only at place
      omega

end Collage.Directive
