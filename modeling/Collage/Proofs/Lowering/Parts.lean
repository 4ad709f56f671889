import Collage.Proofs.Lowering.Invocations

/-! # The parts of a text

`Lowering.split` takes the define blocks out of a text.  `Lowering.parts` takes the text apart at
the same places and keeps the markers of the blocks as well, so that the parts joined are the text
(`Lowering.joined_parts`).  What stands between two blocks and what stands inside of one is a
stretch of the text (`Lowering.stretches`).  A text shows the directives of its stretches, unless
one of them overlaps a marker (`Lowering.scanFrom_stretches`), and lowering finds the invocations of
the stretches, unless one of them joins where a block was cut out (`Lowering.mem_invoked_iff`).
-/

namespace Collage

/-- A directive and a piece of the text have some of it in common. -/
def Directive.Overlaps (d : Directive) (first last : Nat) : Prop := d.start < last ∧ first < d.stop

instance (d : Directive) (first last : Nat) : Decidable (d.Overlaps first last) :=
  inferInstanceAs (Decidable (_ ∧ _))

namespace Lowering

open Directive (Sighting scanFrom)

/-! ## Taking a text apart -/

/-- A define block with its markers, and the text from there on up to the next block. -/
structure Section where
  opening : List Char
  block : Block
  ending : List Char
  gap : List Char
  deriving DecidableEq, Repr

/-- The text of a section. -/
def Section.text (s : Section) : List Char := s.opening ++ (s.block.body ++ (s.ending ++ s.gap))

/-- The block at the front of a text with its markers, when `rest` is behind it and `gap` is what
comes up to the next block. -/
def sectionOf (text : List Char) (b : Block) (rest gap : List Char) : Section :=
  let inside := (opening? text).elim [] (·.2)
  { opening := text.take (text.length - inside.length)
    block := b
    ending := (inside.drop b.body.length).take (inside.length - b.body.length - rest.length)
    gap }

/-- The text before the first block, and the blocks with what stands behind each. -/
def parts (text : List Char) : List Char × List Section :=
  match _found : block? text with
  | some (b, rest) =>
    let (gap, sections) := parts rest
    ([], sectionOf text b rest gap :: sections)
  | none =>
    match text with
    | [] => ([], [])
    | c :: rest =>
      let (gap, sections) := parts rest
      (c :: gap, sections)
termination_by text.length
decreasing_by
  · exact length_block? _found
  · simp

/-- A stretch of a text or the marker of a block, with what lies before it. -/
structure Piece where
  before : List Char
  text : List Char
  deriving DecidableEq, Repr

/-- The place where a piece begins, and the one where it ends. -/
def Piece.first (p : Piece) : Nat := Text.size p.before
def Piece.last (p : Piece) : Nat := Text.size p.before + Text.size p.text

/-- The stretches of a gap and of the sections behind it. -/
def stretchesFrom (before gap : List Char) : List Section → List Piece
  | [] => [⟨before, gap⟩]
  | s :: rest =>
    let inside := s.opening.reverse ++ (gap.reverse ++ before)
    let behind := s.ending.reverse ++ (s.block.body.reverse ++ inside)
    ⟨before, gap⟩ :: ⟨inside, s.block.body⟩ :: stretchesFrom behind s.gap rest

/-- The markers of the sections behind a gap. -/
def markersFrom (before gap : List Char) : List Section → List Piece
  | [] => []
  | s :: rest =>
    let inside := s.opening.reverse ++ (gap.reverse ++ before)
    let behind := s.ending.reverse ++ (s.block.body.reverse ++ inside)
    ⟨gap.reverse ++ before, s.opening⟩ :: ⟨s.block.body.reverse ++ inside, s.ending⟩ ::
      markersFrom behind s.gap rest

/-- The places where texts that are joined meet. -/
def joints (place : Nat) : List (List Char) → List Nat
  | [] => []
  | text :: rest => (place + Text.size text) :: joints (place + Text.size text) rest

/-- The texts between the blocks of a text. -/
def gaps (text : List Char) : List (List Char) := (parts text).1 :: (parts text).2.map (·.gap)

def stretches (text : List Char) : List Piece := stretchesFrom [] (parts text).1 (parts text).2

def markers (text : List Char) : List Piece := markersFrom [] (parts text).1 (parts text).2

/-- The names that lowering a text puts tags for, in its body and in its blocks. -/
def invoked (text : String) : List String :=
  let (body, blocks) := split text.toList
  called body ++ blocks.flatMap (called ·.body)

variable {text rest before gap : List Char} {b : Block} {sections : List Section}

/-! ## Markers -/

/-- A marker that opens a define block of a name. -/
def Opens (name marker : List Char) : Prop :=
  ∃ gap space tail, Markup.Blanks gap ∧ space ≠ [] ∧ Markup.Blanks space ∧ Markup.Blanks tail ∧
    marker = '{' :: '{' :: (gap ++ ("define".toList ++
      (space ++ '"' :: (name ++ '"' :: (tail ++ ['}', '}'])))))

/-- A marker that closes a define block. -/
def Closes (marker : List Char) : Prop :=
  ∃ gap tail, Markup.Blanks gap ∧ Markup.Blanks tail ∧
    marker = '{' :: '{' :: (gap ++ ("end".toList ++ (tail ++ ['}', '}'])))

theorem Opens.ne_nil {name marker : List Char} (opens : Opens name marker) : marker ≠ [] := by
  obtain ⟨gap, space, tail, -, -, -, -, rfl⟩ := opens
  exact List.cons_ne_nil _ _

theorem Closes.ne_nil {marker : List Char} (closes : Closes marker) : marker ≠ [] := by
  obtain ⟨gap, tail, -, -, rfl⟩ := closes
  exact List.cons_ne_nil _ _

theorem opening?_eq_some_iff {name : List Char} : opening? text = some (name, rest) ↔
    name ≠ [] ∧ '"' ∉ name ∧ ∃ marker, Opens name marker ∧ text = marker ++ rest := by
  simp only [opening?, Option.bind_eq_bind, Option.bind_eq_some_iff, Option.some.injEq,
    Prod.mk.injEq, Prod.exists]
  constructor
  · rintro ⟨inside, opened, word, named, quoted, spaced, name, after, called, rest, closed, rfl,
      rfl⟩
    obtain ⟨-, gap, blank, rfl⟩ := Markup.open?_eq_some_iff.1 opened
    obtain rfl := Markup.literal?_eq_some.1 named
    obtain ⟨-, space, wide, blank', rfl⟩ := Markup.blanks?_eq_some_iff.1 spaced
    obtain ⟨nonempty, free, rfl⟩ := Markup.quoted?_eq_some_iff.1 called
    obtain ⟨tail, blank'', rfl⟩ := Markup.close?_eq_some_iff.1 closed
    exact ⟨nonempty, free, _, ⟨gap, space, tail, blank, wide, blank', blank'', rfl⟩, by simp⟩
  · rintro ⟨nonempty, free, _, ⟨gap, space, tail, blank, wide, blank', blank'', rfl⟩, rfl⟩
    simp only [List.cons_append, List.append_assoc, List.nil_append]
    have firm : ∀ text, Markup.Firm ("define".toList ++ text) := fun text =>
      Markup.firm_cons (by decide) _
    have firm' : ∀ text, Markup.Firm ('"' :: text) := Markup.firm_cons (by decide)
    exact ⟨_, Markup.open?_eq_some_iff.2 ⟨firm _, gap, blank, rfl⟩, _,
      Markup.literal?_eq_some.2 rfl, _, Markup.blanks?_eq_some_iff.2
      ⟨firm' _, space, wide, blank', rfl⟩, name, _,
      Markup.quoted?_eq_some_iff.2 ⟨nonempty, free, rfl⟩, rest,
      Markup.close?_eq_some_iff.2 ⟨tail, blank'', rfl⟩, rfl, rfl⟩

theorem ending?_eq_some_iff : ending? text = some rest ↔
    ∃ marker, Closes marker ∧ text = marker ++ rest := by
  simp only [ending?, Option.bind_eq_bind, Option.bind_eq_some_iff]
  constructor
  · rintro ⟨inside, opened, word, named, closed⟩
    obtain ⟨-, gap, blank, rfl⟩ := Markup.open?_eq_some_iff.1 opened
    obtain rfl := Markup.literal?_eq_some.1 named
    obtain ⟨tail, blank', rfl⟩ := Markup.close?_eq_some_iff.1 closed
    exact ⟨_, ⟨gap, tail, blank, blank', rfl⟩, by simp⟩
  · rintro ⟨_, ⟨gap, tail, blank, blank', rfl⟩, rfl⟩
    simp only [List.cons_append, List.append_assoc, List.nil_append]
    have firm : Markup.Firm ("end".toList ++ (tail ++ '}' :: '}' :: rest)) :=
      Markup.firm_cons (by decide) _
    exact ⟨_, Markup.open?_eq_some_iff.2 ⟨firm, gap, blank, rfl⟩, _, Markup.literal?_eq_some.2 rfl,
      Markup.close?_eq_some_iff.2 ⟨tail, blank', rfl⟩⟩

/-! ## The parts joined -/

theorem parts_of_some (found : block? text = some (b, rest)) :
    parts text = ([], sectionOf text b rest (parts rest).1 :: (parts rest).2) := by
  rw [parts]
  split
  · next other rest' eq => rw [found] at eq; cases eq; rfl
  · next none => rw [found] at none; cases none

theorem parts_of_none {c : Char} (none : block? (c :: text) = none) :
    parts (c :: text) = (c :: (parts text).1, (parts text).2) := by
  rw [parts]
  split
  · next other rest' eq => rw [none] at eq; cases eq
  · rfl

theorem split_of_some (found : block? text = some (b, rest)) :
    split text = ((split rest).1, b :: (split rest).2) := by
  rw [split]
  split
  · next other rest' eq => rw [found] at eq; cases eq; rfl
  · next none => rw [found] at none; cases none

theorem split_of_none {c : Char} (none : block? (c :: text) = none) :
    split (c :: text) = (c :: (split text).1, (split text).2) := by
  rw [split]
  split
  · next other rest' eq => rw [none] at eq; cases eq
  · rfl

theorem parts_nil : parts [] = ([], []) := by
  rw [parts]
  split
  · next other rest eq => cases eq
  · rfl

theorem split_nil : split [] = ([], []) := by
  rw [split]
  split
  · next other rest eq => cases eq
  · rfl

theorem exists_of_untilEnding? {body : List Char} (found : untilEnding? text = some (body, rest)) :
    ∃ marker, marker ≠ [] ∧ text = body ++ (marker ++ rest) := by
  induction text generalizing body with
  | nil => cases found
  | cons c text ih =>
    rw [untilEnding?] at found
    split at found
    · next ended =>
      cases found
      obtain ⟨marker, closes, eq⟩ := ending?_eq_some_iff.1 ended
      exact ⟨marker, closes.ne_nil, eq⟩
    · obtain ⟨⟨body', rest'⟩, later, same⟩ := Option.map_eq_some_iff.1 found
      cases same
      obtain ⟨marker, nonempty, rfl⟩ := ih later
      exact ⟨marker, nonempty, rfl⟩

/-- The section of a block has the markers that were read. -/
theorem sectionOf_eq {opening body ending name : List Char}
    (opened : opening? (opening ++ (body ++ (ending ++ rest))) =
      some (name, body ++ (ending ++ rest))) (gap : List Char) :
    sectionOf (opening ++ (body ++ (ending ++ rest))) ⟨name, body⟩ rest gap =
      ⟨opening, ⟨name, body⟩, ending, gap⟩ := by
  simp only [sectionOf, opened, Option.elim, List.drop_left, List.length_append, Section.mk.injEq,
    true_and, and_true]
  constructor
  · rw [Nat.add_sub_cancel, List.take_left]
  · rw [show body.length + (ending.length + rest.length) - body.length - rest.length =
      ending.length by omega, List.take_left]

/-- The section of a block is the text from its opening marker on, up to the next block. -/
theorem of_sectionOf (found : block? text = some (b, rest)) (gap : List Char) :
    (sectionOf text b rest gap).opening ≠ [] ∧ (sectionOf text b rest gap).ending ≠ [] ∧
      text = (sectionOf text b rest gap).opening ++
        (b.body ++ ((sectionOf text b rest gap).ending ++ rest)) := by
  simp only [block?, Option.bind_eq_bind, Option.bind_eq_some_iff, Option.some.injEq,
    Prod.mk.injEq, Prod.exists] at found
  obtain ⟨name, inside, opened, body, rest', until', rfl, rfl⟩ := found
  obtain ⟨-, -, opening, opens, rfl⟩ := opening?_eq_some_iff.1 opened
  obtain ⟨ending, nonempty, rfl⟩ := exists_of_untilEnding? until'
  rw [sectionOf_eq opened]
  exact ⟨opens.ne_nil, nonempty, rfl⟩

/-- The parts of a text: joined they are the text, and without the blocks they are what it is split
into. -/
theorem joined_parts (text : List Char) :
    text = (parts text).1 ++ (parts text).2.flatMap (·.text) ∧
      split text = ((gaps text).flatten, (parts text).2.map (·.block)) ∧
      ∀ s ∈ (parts text).2, s.opening ≠ [] ∧ s.ending ≠ [] := by
  induction size : text.length using Nat.strongRecOn generalizing text with
  | ind _ ih =>
    cases found : block? text with
    | some block =>
      obtain ⟨b, rest⟩ := block
      obtain ⟨joined, splits, nonempty⟩ := ih _ (size ▸ length_block? found) rest rfl
      obtain ⟨opening, ending, eq⟩ := of_sectionOf found (parts rest).1
      rw [gaps, parts_of_some found, split_of_some found]
      refine ⟨?_, ?_, List.forall_mem_cons.2 ⟨⟨opening, ending⟩, nonempty⟩⟩
      · rw [List.nil_append, List.flatMap_cons, Section.text, List.append_assoc, List.append_assoc,
          List.append_assoc]
        -- What follows the block is its gap and the sections behind it.
        exact eq.trans (congrArg (fun more => (sectionOf text b rest (parts rest).1).opening ++
          (b.body ++ ((sectionOf text b rest (parts rest).1).ending ++ more))) joined)
      · rw [splits]
        rfl
    | none =>
      cases text with
      | nil =>
        rw [gaps, parts_nil, split_nil]
        simp
      | cons c rest =>
        obtain ⟨joined, splits, nonempty⟩ := ih _ (size ▸ Nat.lt_succ_self _) rest rfl
        rw [gaps, parts_of_none found, split_of_none found]
        refine ⟨?_, ?_, nonempty⟩
        · exact congrArg (c :: ·) joined
        · rw [splits]
          rfl

/-- The name of a block has no quote in it. -/
theorem free_of_block? (found : block? text = some (b, rest)) : '"' ∉ b.name := by
  simp only [block?, Option.bind_eq_bind, Option.bind_eq_some_iff, Option.some.injEq,
    Prod.mk.injEq, Prod.exists] at found
  obtain ⟨name, inside, opened, body, rest', -, rfl, -⟩ := found
  exact (opening?_eq_some_iff.1 opened).2.1

theorem free_of_mem_split (member : b ∈ (split text).2) : '"' ∉ b.name := by
  induction size : text.length using Nat.strongRecOn generalizing text with
  | ind _ ih =>
    cases found : block? text with
    | some block =>
      obtain ⟨first, rest⟩ := block
      rw [split_of_some found] at member
      rcases List.mem_cons.1 member with rfl | later
      · exact free_of_block? found
      · exact ih _ (size ▸ length_block? found) later rfl
    | none =>
      cases text with
      | nil =>
        rw [split_nil] at member
        cases member
      | cons c rest =>
        rw [split_of_none found] at member
        exact ih _ (size ▸ Nat.lt_succ_self _) member rfl

/-! ## Directives and markers -/

/-- Around a piece that no directive overlaps, the text shows the directives before it and those
behind it. -/
theorem scanFrom_around {piece : List Char} (nonempty : piece ≠ [])
    (apart : ∀ d ∈ scanFrom before (gap ++ (piece ++ rest)),
      ¬ d.Overlaps (Text.size before + Text.size gap)
        (Text.size before + Text.size gap + Text.size piece)) :
    scanFrom before (gap ++ (piece ++ rest)) =
      scanFrom before gap ++ scanFrom (piece.reverse ++ (gap.reverse ++ before)) rest := by
  have positive := Text.length_le_size piece
  have some := List.length_pos_iff.2 nonempty
  have place : Text.size (gap.reverse ++ before) = Text.size before + Text.size gap := by
    simp only [Text.size_append, Text.size_reverse]
    omega
  rcases Directive.scanFrom_append before gap (piece ++ rest) with ⟨d, member, crosses⟩ | first
  · have outside := apart d member
    simp only [Directive.Overlaps, Directive.Crosses] at outside crosses
    omega
  · rw [first] at apart ⊢
    have behind := fun d member => apart d (List.mem_append_right _ member)
    rcases Directive.scanFrom_append (gap.reverse ++ before) piece rest with
      ⟨d, member, crosses⟩ | second
    · have outside := behind d member
      simp only [Directive.Overlaps, Directive.Crosses, place] at outside crosses
      omega
    · -- None stands in the piece itself.
      have none : scanFrom (gap.reverse ++ before) piece = [] := by
        rw [List.eq_nil_iff_forall_not_mem]
        intro d member
        have outside := behind d (second ▸ List.mem_append_left _ member)
        have bounds := Directive.bounds_of_mem_scanFrom member
        simp only [Directive.Overlaps, place] at outside bounds
        omega
      rw [second, none, List.nil_append]

/-- A text shows the directives of its stretches, if none of them overlaps a marker. -/
theorem scanFrom_stretches (before : List Char)
    (nonempty : ∀ s ∈ sections, s.opening ≠ [] ∧ s.ending ≠ [])
    (apart : ∀ d ∈ scanFrom before (gap ++ sections.flatMap (·.text)),
      ∀ m ∈ markersFrom before gap sections, ¬ d.Overlaps m.first m.last) :
    scanFrom before (gap ++ sections.flatMap (·.text)) =
      (stretchesFrom before gap sections).flatMap fun p => scanFrom p.before p.text := by
  induction sections generalizing before gap with
  | nil => simp [stretchesFrom]
  | cons s sections ih =>
    obtain ⟨⟨opening, ending⟩, later⟩ := List.forall_mem_cons.1 nonempty
    have joined : gap ++ (s :: sections).flatMap (·.text) =
        gap ++ (s.opening ++ (s.block.body ++ (s.ending ++
          (s.gap ++ sections.flatMap (·.text))))) := by
      simp [Section.text]
    rw [joined] at apart ⊢
    simp only [markersFrom, stretchesFrom, List.flatMap_cons] at apart ⊢
    -- First the opening marker is passed, then the one that closes the block.
    have first := scanFrom_around opening fun d member => by
      have outside := apart d member _ List.mem_cons_self
      simp only [Piece.first, Piece.last, Text.size_append, Text.size_reverse] at outside
      simpa only [Nat.add_comm (Text.size gap)] using outside
    rw [first] at apart ⊢
    have inside := fun d member => apart d (List.mem_append_right _ member)
    have second := scanFrom_around ending fun d member => by
      have outside := inside d member _ (List.mem_cons_of_mem _ List.mem_cons_self)
      simp only [Piece.first, Piece.last, Text.size_append, Text.size_reverse] at outside
      simpa only [Text.size_append, Text.size_reverse, Nat.add_comm (Text.size s.block.body)]
        using outside
    rw [second] at inside ⊢
    rw [ih _ later fun d member m marker => inside d (List.mem_append_right _ member) m
      (List.mem_cons_of_mem _ (List.mem_cons_of_mem _ marker))]

theorem scan_eq_stretches {text : String}
    (apart : ∀ d ∈ Directive.scan text, ∀ m ∈ markers text.toList, ¬ d.Overlaps m.first m.last) :
    Directive.scan text =
      (stretches text.toList).flatMap fun p => scanFrom p.before p.text := by
  obtain ⟨joined, -, nonempty⟩ := joined_parts text.toList
  rw [Directive.scan] at apart ⊢
  have same := scanFrom_stretches [] nonempty (by rwa [← joined])
  rwa [← joined] at same

/-! ## Invocations and joints -/

/-- What a text invokes does not depend on what stands before it. -/
theorem references_invocations (before ahead : List Char) :
    (invocations before ahead).map (fun s => String.ofList s.reference) = called ahead := by
  suffices same : ∀ before before' : List Char,
      (invocations before ahead).map (fun s => String.ofList s.reference) =
        (invocations before' ahead).map fun s => String.ofList s.reference from same before []
  induction size : ahead.length using Nat.strongRecOn generalizing ahead with
  | ind _ ih =>
    intro before before'
    cases action : action? ahead with
    | some found =>
      obtain ⟨name, rest⟩ := found
      have here : ∀ b : List Char, invocation? b ahead =
          some ⟨b, .inclusion, name, ahead.take (ahead.length - rest.length), rest⟩ := by
        intro b
        rw [invocation?, action]
        rfl
      rw [invocations_of_some (here before), invocations_of_some (here before'), List.map_cons,
        List.map_cons, ih _ (size ▸ length_action? action) rest rfl]
    | none =>
      cases ahead with
      | nil => rw [invocations_nil, invocations_nil]
      | cons c ahead =>
        rw [invocations_of_none (action?_eq_none_iff.1 action),
          invocations_of_none (action?_eq_none_iff.1 action),
          ih ahead.length (size ▸ Nat.lt_succ_self _) ahead rfl]

/-- Texts that are joined invoke what each of them invokes, if no invocation crosses a joint. -/
theorem called_flatten (before : List Char) {texts : List (List Char)}
    (apart : ∀ s ∈ invocations before texts.flatten, ∀ j ∈ joints (Text.size before) texts,
      ¬ s.directive.Crosses j) : called texts.flatten = texts.flatMap called := by
  induction texts generalizing before with
  | nil =>
    rw [List.flatten_nil, called, invocations_nil]
    rfl
  | cons text texts ih =>
    rw [List.flatten_cons, joints] at apart
    rw [List.flatten_cons, List.flatMap_cons, ← references_invocations before]
    rcases invocations_append before text texts.flatten with ⟨s, member, crosses⟩ | split
    · exact absurd crosses (apart s member _ List.mem_cons_self)
    · have place : Text.size (text.reverse ++ before) = Text.size before + Text.size text := by
        simp only [Text.size_append, Text.size_reverse]
        omega
      rw [split] at apart ⊢
      have behind := ih (text.reverse ++ before) fun s member j joint =>
        apart s (List.mem_append_right _ member) j
          (List.mem_cons_of_mem _ (place ▸ joint))
      rw [List.map_append, List.map_map, ← behind]
      exact congrArg₂ (· ++ ·) (references_invocations before text)
        (references_invocations _ texts.flatten)

theorem mem_stretchesFrom_iff {P : List Char → Prop} (before gap : List Char)
    (sections : List Section) : (∃ p ∈ stretchesFrom before gap sections, P p.text) ↔
      (∃ g ∈ gap :: sections.map (·.gap), P g) ∨ ∃ b ∈ sections.map (·.block), P b.body := by
  induction sections generalizing before gap with
  | nil => simp [stretchesFrom]
  | cons s sections ih =>
    simp only [stretchesFrom, List.exists_mem_cons_iff, ih, List.map_cons, or_assoc]
    rw [or_left_comm (a := P s.block.body), or_left_comm (a := P s.block.body)]

/-- Lowering puts tags for what the stretches of a text invoke, if no invocation crosses a joint of
its body. -/
theorem mem_invoked_iff {text : String}
    (apart : ∀ s ∈ invocations [] (split text.toList).1, ∀ j ∈ joints 0 (gaps text.toList),
      ¬ s.directive.Crosses j) (name : String) :
    name ∈ invoked text ↔ ∃ p ∈ stretches text.toList, name ∈ called p.text := by
  obtain ⟨-, splits, -⟩ := joined_parts text.toList
  rw [splits] at apart
  rw [invoked, splits]
  simp only [called_flatten [] apart, List.mem_append, List.mem_flatMap]
  exact (mem_stretchesFrom_iff (P := fun t => name ∈ called t) [] _ _).symm

end Lowering

end Collage
