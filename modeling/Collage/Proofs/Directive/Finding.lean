import Collage.Proofs.Directive.Sightings

/-! # Finding directives

A directive stands in a text where the bytes from its start to its stop are its markup and no brace
escapes it (`Directive.StandsIn`).  No two directives stand at one place (`MatchesIn.unique`), and
`findAt?` finds the first of those that stand at a byte or behind it (`findAt?_eq_some_iff`).

`scan` lists what is found when each search begins where the directive before it ends
(`lists_scan`).  So what stands in a text is listed, or lies within a directive that is.
-/

namespace Collage.Directive

open Text (size)

variable {text : String} {before ahead front rest : List Char} {d e : Directive} {s : Sighting}
  {offset : Nat}

/-- The bytes of the text from the start of the directive to its stop are its markup. -/
def MatchesIn (d : Directive) (text : String) : Prop :=
  ∃ front markup rest, text.toList = front ++ (markup ++ rest) ∧ d.start = size front ∧
    d.stop = size (front ++ markup) ∧ Spells d.kind d.reference.toList markup

/-- Right before a byte of the text stands an opening brace with no backslash before it. -/
def EscapedAt (text : String) (place : Nat) : Prop :=
  ∃ front rest, text.toList = front ++ '{' :: rest ∧ place = size (front ++ ['{']) ∧
    front.getLast? ≠ some '\\'

/-- The markup of the directive is where it says, and no brace escapes it. -/
def StandsIn (d : Directive) (text : String) : Prop :=
  d.MatchesIn text ∧ ¬ EscapedAt text d.start

/-! ## Standing and being sighted -/

theorem isEscaped_eq_true_iff :
    isEscaped before = true ↔ ∃ more, before = '{' :: more ∧ more.head? ≠ some '\\' := by
  cases before with
  | nil => simp [isEscaped]
  | cons c more =>
    by_cases brace : c = '{'
    · subst brace
      cases more with
      | nil => simp [isEscaped]
      | cons c' more => by_cases slash : c' = '\\' <;> simp [isEscaped, slash]
    · simp [isEscaped, brace]

theorem escapedAt_iff (eq : text.toList = front ++ ahead) :
    EscapedAt text (size front) ↔ isEscaped front.reverse = true := by
  rw [isEscaped_eq_true_iff]
  constructor
  · rintro ⟨further, rest, split, place, slash⟩
    have same : front ++ ahead = (further ++ ['{']) ++ rest := by rw [← eq, split]; simp
    obtain ⟨rfl, -⟩ := Text.eq_of_size_eq same place
    exact ⟨further.reverse, by simp, by simpa using slash⟩
  · rintro ⟨more, turned, slash⟩
    obtain rfl : front = more.reverse ++ ['{'] := by simpa using congrArg List.reverse turned
    exact ⟨more.reverse, ahead, by simpa using eq, rfl, by simpa using slash⟩

/-- What stands in a text are the directives that are sighted at its places. -/
theorem standsIn_iff : d.StandsIn text ↔
    ∃ front ahead s, text.toList = front ++ ahead ∧ sight? front.reverse ahead = some s ∧
      s.directive = d := by
  constructor
  · rintro ⟨⟨front, markup, rest, eq, start, stop, spells⟩, free⟩
    rw [start, escapedAt_iff eq, Bool.not_eq_true] at free
    refine ⟨front, markup ++ rest, ⟨front.reverse, d.kind, d.reference.toList, markup, rest⟩, eq,
      sight?_eq_some_iff.2 ⟨free, spells, rfl, rfl⟩, ?_⟩
    simp only [Sighting.directive, Sighting.passed, String.ofList_toList, Text.size_append,
      Text.size_reverse] at stop ⊢
    rw [Nat.add_comm, ← stop, ← start]
  · rintro ⟨front, ahead, s, eq, sighted, rfl⟩
    obtain ⟨free, spells, place, rfl⟩ := sight?_eq_some_iff.1 sighted
    have start : s.directive.start = size front := by simp [Sighting.directive, place]
    refine ⟨⟨front, s.markup, s.rest, eq, start, ?_, ?_⟩, ?_⟩
    · simp [Sighting.directive, Sighting.passed, place, Nat.add_comm]
    · simpa [Sighting.directive] using spells
    · rw [start, escapedAt_iff eq, free]
      decide

/-- Markup is read in one way only. -/
theorem MatchesIn.unique (first : d.MatchesIn text) (second : e.MatchesIn text)
    (same : d.start = e.start) : d = e := by
  obtain ⟨front, markup, rest, eq, start, stop, spells⟩ := first
  obtain ⟨front', markup', rest', eq', start', stop', spells'⟩ := second
  obtain ⟨rfl, ahead⟩ := Text.eq_of_size_eq (eq.symm.trans eq') (start ▸ start' ▸ same)
  have read : read? (markup ++ rest) = some (d.kind, d.reference.toList, rest) :=
    read?_eq_some_iff.2 ⟨markup, spells, rfl⟩
  have read' : read? (markup' ++ rest') = some (e.kind, e.reference.toList, rest') :=
    read?_eq_some_iff.2 ⟨markup', spells', rfl⟩
  rw [ahead, read', Option.some.injEq, Prod.mk.injEq, Prod.mk.injEq, String.toList_inj] at read
  obtain ⟨kinds, references, rfl⟩ := read
  obtain rfl := List.append_cancel_right ahead
  have stops : d.stop = e.stop := stop.trans stop'.symm
  cases d
  cases e
  simp_all

theorem StandsIn.start_lt_stop (stands : d.StandsIn text) : d.start < d.stop := by
  obtain ⟨⟨front, markup, rest, -, start, stop, spells⟩, -⟩ := stands
  obtain ⟨inside, rfl⟩ := spells.eq_cons
  have first := '{'.utf8Size_pos
  simp only [Text.size_append, Text.size_cons] at stop
  omega

theorem StandsIn.stop_le (stands : d.StandsIn text) : d.stop ≤ text.utf8ByteSize := by
  obtain ⟨⟨front, markup, rest, eq, -, stop, -⟩, -⟩ := stands
  have whole := Text.size_eq_utf8ByteSize text.toList
  rw [String.ofList_toList] at whole
  simp only [← whole, eq, stop, Text.size_append]
  omega

/-! ## The nearest directive -/

/-- The nearest directive is no farther away than any that is sighted. -/
theorem exists_next? {skipped coming : List Char} {t : Sighting}
    (sighted : sight? (skipped.reverse ++ before) coming = some t) :
    ∃ s, next? before (skipped ++ coming) = some s ∧ size s.before ≤ size t.before := by
  induction skipped generalizing before with
  | nil => exact ⟨t, next?_of_sight? sighted, Nat.le_refl _⟩
  | cons c skipped ih =>
    rw [List.cons_append, next?]
    split
    · next s here =>
      obtain ⟨-, -, place, -⟩ := sight?_eq_some_iff.1 here
      obtain ⟨-, -, place', -⟩ := sight?_eq_some_iff.1 sighted
      refine ⟨s, rfl, ?_⟩
      rw [place, place', Text.size_append]
      omega
    · exact ih (by simpa using sighted)

theorem standsIn_of_next? (eq : text.toList = before.reverse ++ ahead)
    (found : next? before ahead = some s) :
    s.directive.StandsIn text ∧ size before ≤ s.directive.start := by
  obtain ⟨skipped, place, rfl, free, spells⟩ := of_next? found
  have sighted : sight? (before.reverse ++ skipped).reverse (s.markup ++ s.rest) = some s :=
    sight?_eq_some_iff.2 ⟨by rw [← free, place]; simp, spells, by simp [place], rfl⟩
  refine ⟨standsIn_iff.2 ⟨before.reverse ++ skipped, s.markup ++ s.rest, s, ?_, sighted, rfl⟩, ?_⟩
  · rw [eq, List.append_assoc]
  · simp only [Sighting.directive, place, Text.size_append]
    omega

theorem exists_next?_of_standsIn (eq : text.toList = before.reverse ++ ahead)
    (stands : d.StandsIn text) (behind : size before ≤ d.start) :
    ∃ s, next? before ahead = some s ∧ s.directive.start ≤ d.start := by
  obtain ⟨front, coming, t, split, sighted, rfl⟩ := standsIn_iff.1 stands
  obtain ⟨-, -, place, -⟩ := sight?_eq_some_iff.1 sighted
  have le : size before.reverse ≤ size front := by
    simpa [Sighting.directive, place] using behind
  obtain ⟨skipped, rfl, rfl⟩ := Text.exists_of_size_le (eq.symm.trans split) le
  exact exists_next? (by simpa using sighted)

/-- From a place on, the directive that is met is the first that stands there. -/
theorem next?_eq_some_iff (eq : text.toList = before.reverse ++ ahead) :
    (next? before ahead).map (·.directive) = some d ↔
      d.StandsIn text ∧ size before ≤ d.start ∧
        ∀ e : Directive, e.StandsIn text → size before ≤ e.start → d.start ≤ e.start := by
  rw [Option.map_eq_some_iff]
  constructor
  · rintro ⟨s, found, rfl⟩
    obtain ⟨stands, behind⟩ := standsIn_of_next? eq found
    refine ⟨stands, behind, fun e stands' behind' => ?_⟩
    obtain ⟨t, found', le⟩ := exists_next?_of_standsIn eq stands' behind'
    rw [found] at found'
    exact Option.some.inj found' ▸ le
  · rintro ⟨stands, behind, least⟩
    obtain ⟨s, found, le⟩ := exists_next?_of_standsIn eq stands behind
    obtain ⟨stands', behind'⟩ := standsIn_of_next? eq found
    have same := Nat.le_antisymm le (least s.directive stands' behind')
    exact ⟨s, found, stands'.1.unique stands.1 same⟩

/-! ## Seeking from a byte on -/

/-- The search begins at the first place that is not before the byte. -/
theorem seek_eq (offset : Nat) (before ahead : List Char) :
    ∃ skipped rest, seek offset (size before) before ahead = (skipped.reverse ++ before, rest) ∧
      ahead = skipped ++ rest ∧ ∀ front coming, ahead = front ++ coming → coming ≠ [] →
        (offset ≤ size before + size front ↔ size skipped ≤ size front) := by
  induction ahead generalizing before with
  | nil =>
    refine ⟨[], [], rfl, rfl, fun front coming eq more => ?_⟩
    exact absurd (List.append_eq_nil_iff.1 eq.symm).2 more
  | cons c ahead ih =>
    rw [seek]
    split
    · next reached =>
      refine ⟨[], c :: ahead, rfl, rfl, fun front coming _ _ => ?_⟩
      simp only [Text.size_nil]
      omega
    · next short =>
      obtain ⟨skipped, rest, sought, rfl, places⟩ := ih (c :: before)
      have sizes : size before + c.utf8Size = size (c :: before) := Nat.add_comm _ _
      refine ⟨c :: skipped, rest, by rw [sizes, sought]; simp, rfl, fun front coming eq more => ?_⟩
      cases front with
      | nil =>
        have first := c.utf8Size_pos
        simp only [Text.size_nil, Text.size_cons]
        omega
      | cons c' front =>
        obtain ⟨rfl, tail⟩ := List.cons.inj eq
        have place := places front coming tail more
        simp only [Text.size_cons] at place ⊢
        omega

/-- A byte is as good as a place of the text, as far as it is told by the directives behind it. -/
theorem exists_place (text : String) (offset : Nat) :
    ∃ before ahead, text.toList = before.reverse ++ ahead ∧
      findAt? text offset = (next? before ahead).map (·.directive) ∧
      ∀ d : Directive, d.StandsIn text → (offset ≤ d.start ↔ size before ≤ d.start) := by
  obtain ⟨skipped, rest, sought, eq, places⟩ := seek_eq offset [] text.toList
  rw [Text.size_nil, List.append_nil] at sought
  refine ⟨skipped.reverse, rest, by simpa using eq, by simp only [findAt?, sought], ?_⟩
  rintro d ⟨⟨front, markup, coming, split, start, -, spells⟩, -⟩
  -- Markup is ahead of the start, so that place is no end of the text.
  obtain ⟨inside, rfl⟩ := spells.eq_cons
  simpa [start] using places front _ split (by simp)

theorem findAt?_eq_some_iff : findAt? text offset = some d ↔
    d.StandsIn text ∧ offset ≤ d.start ∧
      ∀ e : Directive, e.StandsIn text → offset ≤ e.start → d.start ≤ e.start := by
  obtain ⟨before, ahead, eq, found, place⟩ := exists_place text offset
  rw [found, next?_eq_some_iff eq]
  refine and_congr_right fun stands => and_congr (place d stands).symm ?_
  exact forall₂_congr fun e stands' => imp_congr_left (place e stands').symm

theorem findAt?_eq_none_iff :
    findAt? text offset = none ↔ ∀ d : Directive, d.StandsIn text → d.start < offset := by
  obtain ⟨before, ahead, eq, found, place⟩ := exists_place text offset
  rw [found, Option.map_eq_none_iff]
  constructor
  · intro none d stands
    by_contra behind
    obtain ⟨s, met, -⟩ := exists_next?_of_standsIn eq stands ((place d stands).1 (by omega))
    rw [none] at met
    cases met
  · intro early
    refine Option.eq_none_iff_forall_ne_some.2 fun s met => ?_
    obtain ⟨stands, behind⟩ := standsIn_of_next? eq met
    have after := (place _ stands).2 behind
    have := early _ stands
    omega

/-- For each text and each byte, one beyond its end or inside of a character too, what is found is
the directive at the first place not before the byte where one stands, and nothing just if there is
no such place.  The start of markup tells where it ends, its kind and its reference.  The reference
is the marker with a name behind it, and the name that is meant is the normal form of that one. -/
theorem findAt?_least (text : String) (offset : Nat) :
    (∀ d, findAt? text offset = some d ↔ d.StandsIn text ∧ offset ≤ d.start ∧
      ∀ e : Directive, e.StandsIn text → offset ≤ e.start → d.start ≤ e.start) ∧
    (findAt? text offset = none ↔ ∀ d : Directive, d.StandsIn text → d.start < offset) ∧
    (∀ d e : Directive, d.MatchesIn text → e.MatchesIn text → d.start = e.start → d = e) ∧
    ∀ d : Directive, d.MatchesIn text →
      ∃ name, name ≠ "" ∧ d.reference = "@" ++ name ∧ d.name = Name.normalize name := by
  refine ⟨fun d => findAt?_eq_some_iff, findAt?_eq_none_iff, fun d e => MatchesIn.unique, ?_⟩
  rintro d ⟨front, markup, rest, -, -, -, gap, space, tail, -, -, -, ⟨c, more, marked⟩, -⟩
  refine ⟨String.ofList (c :: more), by simp, ?_, ?_⟩
  · rw [← String.toList_inj, marked]
    simp
  · rw [name, nameOf, marked]
    rfl

/-! ## Listing -/

/-- The list of what is found from a byte on, when each search begins where the directive before it
ends and the last one finds nothing. -/
inductive Lists (text : String) : Nat → List Directive → Prop where
  | done {cursor : Nat} (none : findAt? text cursor = none) : Lists text cursor []
  | next {cursor : Nat} {d : Directive} {later : List Directive}
      (found : findAt? text cursor = some d) (onward : Lists text d.stop later) :
      Lists text cursor (d :: later)

theorem findAt?_size (eq : text.toList = before.reverse ++ ahead) :
    findAt? text (size before) = (next? before ahead).map (·.directive) :=
  Option.ext fun _ => findAt?_eq_some_iff.trans (next?_eq_some_iff eq).symm

theorem lists_scanFrom (eq : text.toList = before.reverse ++ ahead) :
    Lists text (size before) (scanFrom before ahead) := by
  rw [scanFrom_eq]
  fun_induction sightings before ahead with
  | case1 before ahead none => exact .done (by rw [findAt?_size eq, none]; rfl)
  | case2 before ahead s found ih =>
    refine .next (by rw [findAt?_size eq, found]; rfl) (ih ?_)
    rw [eq, passed_append_rest found]

theorem lists_scan (text : String) : Lists text 0 (scan text) := by
  have whole : text.toList = List.reverse [] ++ text.toList := rfl
  exact lists_scanFrom whole

variable {cursor : Nat} {found : List Directive}

theorem Lists.standsIn (lists : Lists text cursor found) :
    ∀ d ∈ found, d.StandsIn text ∧ cursor ≤ d.start := by
  induction lists with
  | done => simp
  | next here _ ih =>
    obtain ⟨stands, behind, -⟩ := findAt?_eq_some_iff.1 here
    refine List.forall_mem_cons.2 ⟨⟨stands, behind⟩, fun e member => ?_⟩
    obtain ⟨stands', behind'⟩ := ih e member
    have := stands.start_lt_stop
    exact ⟨stands', by omega⟩

theorem Lists.pairwise (lists : Lists text cursor found) :
    found.Pairwise fun d e => d.stop ≤ e.start := by
  induction lists with
  | done => exact .nil
  | next _ onward ih => exact .cons (fun e member => (onward.standsIn e member).2) ih

theorem Lists.mem_or_within (lists : Lists text cursor found) (stands : d.StandsIn text)
    (behind : cursor ≤ d.start) :
    d ∈ found ∨ ∃ e ∈ found, e.start < d.start ∧ d.start < e.stop := by
  induction lists with
  | done none =>
    have := findAt?_eq_none_iff.1 none d stands
    omega
  | @next cursor first later here _ ih =>
    obtain ⟨stands', -, least⟩ := findAt?_eq_some_iff.1 here
    have le := least d stands behind
    by_cases same : first.start = d.start
    · exact .inl (by simp [stands'.1.unique stands.1 same])
    · by_cases within : d.start < first.stop
      · exact .inr ⟨first, List.mem_cons_self, by omega, within⟩
      · -- The cursor was moved past no more than the markup of the first directive.
        rcases ih (by omega) with member | ⟨e, member, inside⟩
        · exact .inl (List.mem_cons_of_mem _ member)
        · exact .inr ⟨e, List.mem_cons_of_mem _ member, inside⟩

/-- The scan of any text comes to an end, and what it lists are directives that stand in the text,
each behind the end of the one before.  None is missed: whatever stands in the text is listed, or it
starts inside of a directive that is. -/
theorem scan_complete (text : String) :
    Lists text 0 (scan text) ∧
    (∀ d ∈ scan text, d.StandsIn text ∧ d.start < d.stop ∧ d.stop ≤ text.utf8ByteSize) ∧
    (scan text).Pairwise (fun d e => d.stop ≤ e.start) ∧
    ∀ d : Directive, d.StandsIn text →
      d ∈ scan text ∨ ∃ e ∈ scan text, e.start < d.start ∧ d.start < e.stop := by
  have lists := lists_scan text
  refine ⟨lists, fun d member => ?_, lists.pairwise, fun d stands => ?_⟩
  · obtain ⟨stands, -⟩ := lists.standsIn d member
    exact ⟨stands, stands.start_lt_stop, stands.stop_le⟩
  · exact lists.mem_or_within stands (Nat.zero_le _)

end Collage.Directive
