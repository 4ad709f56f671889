import Collage.Proofs.Lowering.Parts

/-! # Texts that are written as sections

A text is written by putting define blocks between its gaps.  The blocks may have any blanks in
their markers; a body must not hold a marker that closes a block, and a gap must not hold the
beginning of one that opens a block (`Section.Written`).  Such a text is taken apart as it was
written (`Lowering.parts_written`), so lowering gives the gaps without anything between them and
every block under its own name (`Lowering.lower_written`).

A marker has no opening brace but the two it begins with.  So none can begin in a body or in a gap
and end in the marker behind it, whatever braces the body or the gap ends in.
-/

namespace Collage.Lowering

/-- The beginning of a marker that opens a define block. -/
def Announces (head : List Char) : Prop :=
  ∃ gap, Markup.Blanks gap ∧ head = '{' :: '{' :: (gap ++ "define".toList)

/-- Nothing in the text begins like a marker that opens a define block. -/
def Quiet (text : List Char) : Prop := ∀ head, Announces head → ¬ head <:+: text

/-- No marker in the text closes a define block. -/
def Endless (text : List Char) : Prop := ∀ marker, Closes marker → ¬ marker <:+: text

/-- A section with a name for its block and with markers for it, that none of its texts
confuses. -/
structure Section.Written (s : Section) : Prop where
  named : s.block.name ≠ []
  unquoted : '"' ∉ s.block.name
  opens : Opens s.block.name s.opening
  closes : Closes s.ending
  endless : Endless s.block.body
  quiet : Quiet s.gap

variable {text rest gap body ending marker inner : List Char} {sections : List Section}
  {s : Section}

/-! ## Markers begin with their braces -/

/-- A piece of markup: two opening braces, and something behind them that has none. -/
def Braced (marker : List Char) : Prop :=
  ∃ inner, inner ≠ [] ∧ '{' ∉ inner ∧ marker = '{' :: '{' :: inner

/-- The end of a text, or a place in it where markup may begin. -/
def Bounded (rest : List Char) : Prop := rest = [] ∨ ∃ inside, rest = '{' :: '{' :: inside

theorem Announces.braced (announces : Announces marker) : Braced marker := by
  obtain ⟨gap, blanks, rfl⟩ := announces
  refine ⟨_, by simp, ?_, rfl⟩
  rw [List.mem_append, not_or]
  exact ⟨blanks.not_mem (by decide), by decide⟩

theorem Closes.braced (closes : Closes marker) : Braced marker := by
  obtain ⟨gap, tail, blanks, blanks', rfl⟩ := closes
  refine ⟨_, by simp, ?_, rfl⟩
  simp only [List.mem_append, not_or]
  exact ⟨blanks.not_mem (by decide), by decide, blanks'.not_mem (by decide), by decide⟩

theorem Opens.exists_announces {name : List Char} (opens : Opens name marker) :
    ∃ head, Announces head ∧ head <+: marker := by
  obtain ⟨gap, space, tail, blanks, -, -, -, rfl⟩ := opens
  refine ⟨'{' :: '{' :: (gap ++ "define".toList), ⟨gap, blanks, rfl⟩,
    space ++ '"' :: (name ++ '"' :: (tail ++ ['}', '}'])), ?_⟩
  simp only [List.cons_append, List.append_assoc]

theorem Opens.bounded {name : List Char} (opens : Opens name marker) (rest : List Char) :
    Bounded (marker ++ rest) := by
  obtain ⟨gap, space, tail, -, -, -, -, rfl⟩ := opens
  exact .inr ⟨_, rfl⟩

theorem Closes.bounded (closes : Closes marker) (rest : List Char) : Bounded (marker ++ rest) := by
  obtain ⟨gap, tail, -, -, rfl⟩ := closes
  exact .inr ⟨_, rfl⟩

theorem prefix_of_prefix_append_cons {c : Char} (free : c ∉ inner)
    (begins : inner <+: text ++ c :: rest) : inner <+: text := by
  rcases List.prefix_or_prefix_of_prefix begins (List.prefix_append text _) with
    within | ⟨more, rfl⟩
  · exact within
  · rw [List.prefix_append_right_inj] at begins
    cases more with
    | nil => simp
    | cons d more =>
      obtain rfl := (List.cons_prefix_cons.1 begins).1
      exact absurd (List.mem_append_right _ List.mem_cons_self) free

/-- Markup that begins in a text does not go on behind its bound. -/
theorem Braced.prefix_of_append (braced : Braced marker) (nonempty : text ≠ [])
    (bounded : Bounded rest) (begins : marker <+: text ++ rest) : marker <+: text := by
  obtain ⟨inner, inhabited, free, rfl⟩ := braced
  rcases bounded with rfl | ⟨inside, rfl⟩
  · rwa [List.append_nil] at begins
  · cases text with
    | nil => exact absurd rfl nonempty
    | cons c text =>
      rw [List.cons_append, List.cons_prefix_cons] at begins
      obtain ⟨rfl, begins⟩ := begins
      refine List.cons_prefix_cons.2 ⟨rfl, ?_⟩
      cases text with
      | nil =>
        -- The second brace would be the first one of the bound, and the next one is too many.
        have few : inner <+: [] ++ '{' :: inside := (List.cons_prefix_cons.1 begins).2
        exact absurd (List.prefix_nil.1 (prefix_of_prefix_append_cons free few)) inhabited
      | cons d text =>
        rw [List.cons_append, List.cons_prefix_cons] at begins
        exact List.cons_prefix_cons.2 ⟨begins.1, prefix_of_prefix_append_cons free begins.2⟩

/-! ## Where nothing is found -/

theorem Quiet.of_cons {c : Char} (quiet : Quiet (c :: text)) : Quiet text :=
  fun head announces within => quiet head announces (within.trans (List.suffix_cons c text).isInfix)

theorem Endless.of_cons {c : Char} (endless : Endless (c :: text)) : Endless text :=
  fun marker closes within => endless marker closes (within.trans (List.suffix_cons c text).isInfix)

theorem Endless.ending?_append (endless : Endless text) (nonempty : text ≠ [])
    (bounded : Bounded rest) : ending? (text ++ rest) = none := by
  rw [Option.eq_none_iff_forall_ne_some]
  intro behind ended
  obtain ⟨marker, closes, eq⟩ := ending?_eq_some_iff.1 ended
  have begins : marker <+: text ++ rest := ⟨behind, eq.symm⟩
  exact endless marker closes (closes.braced.prefix_of_append nonempty bounded begins).isInfix

theorem Quiet.block?_append (quiet : Quiet text) (nonempty : text ≠ [])
    (bounded : Bounded rest) : block? (text ++ rest) = none := by
  suffices unopened : opening? (text ++ rest) = none by
    rw [block?, unopened]
    rfl
  rw [Option.eq_none_iff_forall_ne_some]
  rintro ⟨name, behind⟩ opened
  obtain ⟨-, -, marker, opens, eq⟩ := opening?_eq_some_iff.1 opened
  obtain ⟨head, announces, first⟩ := opens.exists_announces
  have begins : head <+: text ++ rest := first.trans ⟨behind, eq.symm⟩
  exact quiet head announces (announces.braced.prefix_of_append nonempty bounded begins).isInfix

/-! ## Texts as they were written -/

theorem untilEnding?_of_ending? (ended : ending? text = some rest) :
    untilEnding? text = some ([], rest) := by
  cases text with
  | nil => exact absurd (length_ending? ended) (Nat.not_lt_zero _)
  | cons c text => rw [untilEnding?, ended]

/-- A body is read up to the marker that was put behind it. -/
theorem Endless.untilEnding?_append (endless : Endless body) (closes : Closes ending)
    (rest : List Char) : untilEnding? (body ++ (ending ++ rest)) = some (body, rest) := by
  induction body with
  | nil => exact untilEnding?_of_ending? (ending?_eq_some_iff.2 ⟨ending, closes, rfl⟩)
  | cons c body ih =>
    have later := endless.ending?_append (List.cons_ne_nil c body) (closes.bounded rest)
    rw [List.cons_append] at later ⊢
    rw [untilEnding?, later, ih endless.of_cons]
    rfl

theorem Section.Written.opening?_eq (written : s.Written) (rest : List Char) :
    opening? (s.opening ++ rest) = some (s.block.name, rest) :=
  opening?_eq_some_iff.2 ⟨written.named, written.unquoted, s.opening, written.opens, rfl⟩

/-- The block of a section is read from its text. -/
theorem Section.Written.block?_eq (written : s.Written) (rest : List Char) :
    block? (s.opening ++ (s.block.body ++ (s.ending ++ rest))) = some (s.block, rest) := by
  simp only [block?, written.opening?_eq, written.endless.untilEnding?_append written.closes,
    Option.bind_eq_bind, Option.bind_some]

theorem Section.Written.sectionOf_eq (written : s.Written) (rest : List Char) :
    sectionOf (s.opening ++ (s.block.body ++ (s.ending ++ rest))) s.block rest s.gap = s :=
  Lowering.sectionOf_eq (written.opening?_eq _) s.gap

/-- A gap is passed without a block being found. -/
theorem Quiet.parts_append (quiet : Quiet gap) (bounded : Bounded rest) :
    parts (gap ++ rest) = (gap ++ (parts rest).1, (parts rest).2) := by
  induction gap with
  | nil => rfl
  | cons c gap ih =>
    have none := quiet.block?_append (List.cons_ne_nil c gap) bounded
    rw [List.cons_append] at none ⊢
    rw [parts_of_none none, ih quiet.of_cons]
    rfl

/-- A text is taken apart as it was written. -/
theorem parts_written (quiet : Quiet gap) (written : ∀ s ∈ sections, s.Written) :
    parts (gap ++ sections.flatMap (·.text)) = (gap, sections) := by
  induction sections generalizing gap with
  | nil => rw [List.flatMap_nil, quiet.parts_append (.inl rfl), parts_nil, List.append_nil]
  | cons s sections ih =>
    obtain ⟨here, later⟩ := List.forall_mem_cons.1 written
    have text : (s :: sections).flatMap (·.text) = s.opening ++
        (s.block.body ++ (s.ending ++ (s.gap ++ sections.flatMap (·.text)))) := by
      simp only [List.flatMap_cons, Section.text, List.append_assoc]
    rw [text, quiet.parts_append (here.opens.bounded _), parts_of_some (here.block?_eq _),
      ih here.quiet later, here.sectionOf_eq, List.append_nil]

/-- Lowering a text gives its gaps without anything between them, and its blocks in their order,
each with its own body under its own name.  It takes the text apart as it was written. -/
theorem lower_written (gap : List Char) (sections : List Section) (quiet : Quiet gap)
    (written : ∀ s ∈ sections, s.Written) :
    let text := gap ++ sections.flatMap (·.text)
    parts text = (gap, sections) ∧
      lower (String.ofList text) =
        (String.ofList (lowerActions (gap :: sections.map (·.gap)).flatten),
          sections.map fun s =>
            (String.ofList s.block.name, String.ofList (lowerActions s.block.body))) := by
  intro text
  have taken : parts text = (gap, sections) := parts_written quiet written
  obtain ⟨-, splits, -⟩ := joined_parts text
  rw [gaps, taken] at splits
  refine ⟨taken, ?_⟩
  rw [lower, String.toList_ofList, splits]
  simp only [List.map_map, Function.comp_def]

/-- A slot whose body begins another block and ends in a brace, between gaps that end and begin in
one. -/
theorem lower_written_of_slot :
    let slot : Section := ⟨"\x7b\x7bdefine  \"slot\"\x7d\x7d".toList,
      ⟨"slot".toList, "A \x7b\x7b define \"B\" \x7b".toList⟩, "\x7b\x7b end\x7d\x7d".toList,
      "\x7dC".toList⟩
    slot.Written ∧
      lower (String.ofList ("A\x7b".toList ++ slot.text)) =
        ("A\x7b\x7dC", [("slot", "A \x7b\x7b define \"B\" \x7b")]) := by
  intro slot
  have endless : Endless slot.block.body := by
    rintro _ ⟨gap, tail, -, -, rfl⟩ within
    exact absurd (within.subset (a := '\x7d') (by simp)) (by decide)
  have quiet : ∀ gap, 'd' ∉ gap → Quiet gap := by
    rintro gap free _ ⟨blanks, -, rfl⟩ within
    exact absurd (within.subset (a := 'd') (by simp)) free
  have written : slot.Written :=
    { named := by decide
      unquoted := by decide
      opens := ⟨[], "  ".toList, [], by decide, by decide, by decide, by decide, rfl⟩
      closes := ⟨" ".toList, [], by decide, by decide, rfl⟩
      endless
      quiet := quiet _ (by decide) }
  obtain ⟨-, lowered⟩ := lower_written "A\x7b".toList [slot] (quiet _ (by decide)) (by simpa)
  refine ⟨written, ?_⟩
  rw [List.flatMap_singleton] at lowered
  rw [lowered]
  decide +kernel

end Collage.Lowering
