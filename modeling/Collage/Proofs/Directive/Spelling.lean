import Collage.Directive.Scan
import Collage.Proofs.Markup

/-! # How a directive is spelled

`Directive.Spells` is the grammar of a directive's markup, and reading a directive accepts exactly
the texts that begin with such markup (`Directive.read?_eq_some_iff`).  So what stands behind the
markup has no part in it, and a directive is sighted wherever its markup stands with nothing to
escape it (`Directive.sight?_eq_some_iff`).
-/

namespace Collage.Directive

open Markup (Blanks Firm)

variable {kind : Kind} {reference markup text rest before ahead : List Char} {s : Sighting}

/-- The markup of a directive: braces, the keyword, blanks, the quoted reference, and anything
without a closing brace up to the braces that close it. -/
def Spells (kind : Kind) (reference markup : List Char) : Prop :=
  ∃ gap space tail, Blanks gap ∧ space ≠ [] ∧ Blanks space ∧
    (∃ c more, reference = '@' :: c :: more) ∧ '"' ∉ reference ∧ '}' ∉ tail ∧
    markup = '{' :: '{' :: (gap ++ (kind.keyword.toList ++
      (space ++ '"' :: (reference ++ '"' :: (tail ++ ['}', '}'])))))

theorem keyword?_eq_some_iff :
    keyword? text = some (kind, rest) ↔ text = kind.keyword.toList ++ rest := by
  rw [keyword?]
  constructor
  · intro read
    split at read
    · next after found =>
      cases read
      exact Markup.literal?_eq_some.1 found
    · obtain ⟨after, found, eq⟩ := Option.map_eq_some_iff.1 read
      cases eq
      exact Markup.literal?_eq_some.1 found
  · rintro rfl
    cases kind with
    | inclusion =>
      have found := Markup.literal?_eq_some.2 (rfl : Kind.inclusion.keyword.toList ++ rest = _)
      rw [found]
    | layout =>
      have other : Markup.literal? Kind.inclusion.keyword.toList
          (Kind.layout.keyword.toList ++ rest) = none := rfl
      have found := Markup.literal?_eq_some.2 (rfl : Kind.layout.keyword.toList ++ rest = _)
      rw [other, found]
      rfl

theorem reference?_eq_some_iff : reference? text = some (reference, rest) ↔
    (∃ c more, reference = '@' :: c :: more) ∧ '"' ∉ reference ∧
      text = '"' :: (reference ++ '"' :: rest) := by
  constructor
  · intro read
    obtain ⟨-, free, eq⟩ := Markup.quoted?_eq_some_iff.1 (reference?_eq_some read)
    refine ⟨?_, free, eq⟩
    unfold reference? at read
    split at read
    · cases read
      exact ⟨_, _, rfl⟩
    · cases read
  · rintro ⟨⟨c, more, rfl⟩, free, rfl⟩
    have read : Markup.quoted? ('"' :: ('@' :: c :: more ++ '"' :: rest)) =
        some ('@' :: c :: more, rest) :=
      Markup.quoted?_eq_some_iff.2 ⟨List.cons_ne_nil '@' (c :: more), free, rfl⟩
    simp only [reference?, read]

theorem firm_keyword (kind : Kind) (rest : List Char) : Firm (kind.keyword.toList ++ rest) := by
  cases kind
  · exact Markup.firm_cons (by decide) _
  · exact Markup.firm_cons (by decide) _

/-- A directive is read where a text begins with its markup. -/
theorem read?_eq_some_iff : read? text = some (kind, reference, rest) ↔
    ∃ markup, Spells kind reference markup ∧ text = markup ++ rest := by
  simp only [read?, Option.bind_eq_bind, Option.bind_eq_some_iff, Option.some.injEq,
    Prod.mk.injEq, Prod.exists]
  constructor
  · rintro ⟨inside, opened, kind', word, named, quoted, spaced, reference', after, referred, rest',
      finished, rfl, rfl, rfl⟩
    obtain ⟨-, gap, blank, rfl⟩ := Markup.open?_eq_some_iff.1 opened
    obtain rfl := keyword?_eq_some_iff.1 named
    obtain ⟨-, space, nonempty, blank', rfl⟩ := Markup.blanks?_eq_some_iff.1 spaced
    obtain ⟨marked, free, rfl⟩ := reference?_eq_some_iff.1 referred
    obtain ⟨tail, free', rfl⟩ := Markup.finish?_eq_some_iff.1 finished
    exact ⟨_, ⟨gap, space, tail, blank, nonempty, blank', marked, free, free', rfl⟩, by simp⟩
  · rintro ⟨markup, ⟨gap, space, tail, blank, nonempty, blank', marked, free, free', rfl⟩, rfl⟩
    refine ⟨kind.keyword.toList ++
        (space ++ '"' :: (reference ++ '"' :: (tail ++ '}' :: '}' :: rest))),
      Markup.open?_eq_some_iff.2 ⟨firm_keyword kind _, gap, blank, by simp⟩, kind,
      space ++ '"' :: (reference ++ '"' :: (tail ++ '}' :: '}' :: rest)),
      keyword?_eq_some_iff.2 rfl, '"' :: (reference ++ '"' :: (tail ++ '}' :: '}' :: rest)),
      Markup.blanks?_eq_some_iff.2 ⟨Markup.firm_cons (by decide) _, space, nonempty, blank', rfl⟩,
      reference, tail ++ '}' :: '}' :: rest, reference?_eq_some_iff.2 ⟨marked, free, rfl⟩, rest,
      Markup.finish?_eq_some_iff.2 ⟨tail, free', rfl⟩, rfl, rfl, rfl⟩

/-! ## Markup by its ends -/

theorem Spells.eq_cons (spells : Spells kind reference markup) :
    ∃ inside, markup = '{' :: '{' :: inside := by
  obtain ⟨gap, space, tail, -, -, -, -, -, -, rfl⟩ := spells
  exact ⟨_, rfl⟩

theorem Spells.eq_concat (spells : Spells kind reference markup) :
    ∃ inside, markup = inside ++ ['}', '}'] := by
  obtain ⟨gap, space, tail, -, -, -, -, -, -, rfl⟩ := spells
  exact ⟨'{' :: '{' :: (gap ++ (kind.keyword.toList ++
    (space ++ '"' :: (reference ++ '"' :: tail)))), by simp⟩

/-- No directive begins with three braces: its keyword stands behind two. -/
theorem read?_of_third_brace (text : List Char) : read? ('{' :: '{' :: '{' :: text) = none := by
  have opened : Markup.open? ('{' :: '{' :: '{' :: text) = some ('{' :: text) :=
    Markup.open?_eq_some_iff.2 ⟨Markup.firm_cons (by decide) text, [], by simp [Blanks], rfl⟩
  rw [read?, opened]
  rfl

/-! ## Sightings -/

/-- A directive is sighted at a place where nothing escapes it and its markup comes next. -/
theorem sight?_eq_some_iff : sight? before ahead = some s ↔
    isEscaped before = false ∧ Spells s.kind s.reference s.markup ∧ s.before = before ∧
      ahead = s.markup ++ s.rest := by
  unfold sight?
  cases escaped : isEscaped before with
  | true => simp
  | false =>
    simp only [Bool.false_eq_true, if_false, true_and]
    rw [Option.map_eq_some_iff]
    constructor
    · rintro ⟨⟨kind, reference, rest⟩, read, rfl⟩
      obtain ⟨markup, spells, rfl⟩ := read?_eq_some_iff.1 read
      simp only [List.length_append, Nat.add_sub_cancel, List.take_left, and_self, and_true]
      exact spells
    · rintro ⟨spells, rfl, rfl⟩
      refine ⟨⟨s.kind, s.reference, s.rest⟩, read?_eq_some_iff.2 ⟨s.markup, spells, rfl⟩, ?_⟩
      simp

end Collage.Directive
