import Collage.Markup

/-! # What the pieces of markup are

Each reader of a piece is told exactly: the texts it accepts are those that begin with a piece of a
certain spelling, and what it gives is the rest.  So whether a piece is read does not depend on what
stands behind it.
-/

namespace Collage.Markup

variable {text rest inside content : List Char}

/-- Nothing but blanks. -/
def Blanks (text : List Char) : Prop := ∀ c ∈ text, Text.isBlank c = true

instance (text : List Char) : Decidable (Blanks text) :=
  decidable_of_iff (text.all Text.isBlank = true) List.all_eq_true

theorem Blanks.not_mem {c : Char} (all : Blanks text) (sharp : Text.isBlank c = false) :
    c ∉ text := by
  intro member
  rw [all c member] at sharp
  cases sharp

/-- A text that does not begin with a blank. -/
def Firm (text : List Char) : Prop := ∀ c, text.head? = some c → Text.isBlank c = false

theorem firm_cons {c : Char} (sharp : Text.isBlank c = false) (text : List Char) :
    Firm (c :: text) := by
  intro d head
  cases head
  exact sharp

theorem skipBlanks_append {blanks : List Char} (all : Blanks blanks) (firm : Firm rest) :
    skipBlanks (blanks ++ rest) = rest := by
  rw [skipBlanks, List.dropWhile_append_of_pos all]
  cases rest with
  | nil => rfl
  | cons c rest => rw [List.dropWhile_cons_of_neg (by simp [firm c rfl])]

theorem exists_blanks (text : List Char) :
    ∃ blanks, Blanks blanks ∧ text = blanks ++ skipBlanks text ∧ Firm (skipBlanks text) := by
  refine ⟨text.takeWhile Text.isBlank, ?_, (List.takeWhile_append_dropWhile).symm, ?_⟩
  · exact List.all_eq_true.1 List.all_takeWhile
  · intro c head
    have stopped := List.head?_dropWhile_not Text.isBlank text
    have same : (text.dropWhile Text.isBlank).head? = some c := head
    rw [same] at stopped
    simpa using stopped

theorem open?_eq_some_iff : open? text = some inside ↔
    Firm inside ∧ ∃ blanks, Blanks blanks ∧ text = '{' :: '{' :: (blanks ++ inside) := by
  rw [open?, Option.map_eq_some_iff]
  constructor
  · rintro ⟨after, opened, rfl⟩
    obtain ⟨blanks, all, eq, firm⟩ := exists_blanks after
    refine ⟨firm, blanks, all, ?_⟩
    rw [literal?_eq_some] at opened
    rw [← eq, opened]
    rfl
  · rintro ⟨firm, blanks, all, rfl⟩
    exact ⟨blanks ++ inside, literal?_eq_some.2 rfl, skipBlanks_append all firm⟩

theorem blanks?_eq_some_iff : blanks? text = some rest ↔
    Firm rest ∧ ∃ blanks, blanks ≠ [] ∧ Blanks blanks ∧ text = blanks ++ rest := by
  cases text with
  | nil =>
    refine ⟨nofun, ?_⟩
    rintro ⟨-, blanks, nonempty, -, eq⟩
    exact absurd (List.append_eq_nil_iff.1 eq.symm).1 nonempty
  | cons c text =>
    rw [blanks?]
    constructor
    · intro read
      split at read
      · next blank =>
        cases read
        obtain ⟨blanks, all, eq, firm⟩ := exists_blanks text
        exact ⟨firm, c :: blanks, List.cons_ne_nil c blanks, List.forall_mem_cons.2 ⟨blank, all⟩,
          congrArg (c :: ·) eq⟩
      · cases read
    · rintro ⟨firm, blanks, nonempty, all, eq⟩
      cases blanks with
      | nil => exact absurd rfl nonempty
      | cons d blanks =>
        rw [List.cons_append] at eq
        obtain ⟨rfl, rfl⟩ := List.cons.inj eq
        obtain ⟨blank, all⟩ := List.forall_mem_cons.1 all
        rw [if_pos blank, skipBlanks_append all firm]

theorem close?_eq_some_iff : close? text = some rest ↔
    ∃ blanks, Blanks blanks ∧ text = blanks ++ '}' :: '}' :: rest := by
  rw [close?, literal?_eq_some]
  constructor
  · intro closed
    obtain ⟨blanks, all, eq, -⟩ := exists_blanks text
    exact ⟨blanks, all, eq.trans (congrArg (blanks ++ ·) closed)⟩
  · rintro ⟨blanks, all, rfl⟩
    exact skipBlanks_append all (firm_cons (by decide) _)

/-- Up to a character, and from there on. -/
theorem dropWhile_ne_append {c : Char} {front : List Char} (free : c ∉ front) (rest : List Char) :
    (front ++ c :: rest).dropWhile (· ≠ c) = c :: rest := by
  rw [List.dropWhile_append_of_pos]
  · rw [List.dropWhile_cons_of_neg (by simp)]
  · intro d member
    simpa using fun same : d = c => free (same ▸ member)

theorem takeWhile_ne_append {c : Char} {front : List Char} (free : c ∉ front) (rest : List Char) :
    (front ++ c :: rest).takeWhile (· ≠ c) = front := by
  rw [List.takeWhile_append_of_pos]
  · rw [List.takeWhile_cons_of_neg (by simp), List.append_nil]
  · intro d member
    simpa using fun same : d = c => free (same ▸ member)

theorem not_mem_takeWhile_ne (c : Char) (text : List Char) : c ∉ text.takeWhile (· ≠ c) := by
  intro member
  have differs := List.all_eq_true.1 List.all_takeWhile c member
  simp at differs

theorem quoted?_eq_some_iff : quoted? text = some (content, rest) ↔
    content ≠ [] ∧ '"' ∉ content ∧ text = '"' :: (content ++ '"' :: rest) := by
  simp only [quoted?, Option.bind_eq_bind, Option.bind_eq_some_iff, literal?_eq_some]
  constructor
  · rintro ⟨inside, rfl, after, closed, read⟩
    split at read
    · cases read
    · next nonempty =>
      cases read
      refine ⟨nonempty, not_mem_takeWhile_ne '"' inside, ?_⟩
      have joined := List.takeWhile_append_dropWhile (p := fun c => decide (c ≠ '"')) (l := inside)
      rw [closed] at joined
      exact congrArg ('"' :: ·) joined.symm
  · rintro ⟨nonempty, free, rfl⟩
    refine ⟨content ++ '"' :: rest, rfl, rest, dropWhile_ne_append free rest, ?_⟩
    rw [takeWhile_ne_append free, if_neg nonempty]

theorem finish?_eq_some_iff : finish? text = some rest ↔
    ∃ tail, '}' ∉ tail ∧ text = tail ++ '}' :: '}' :: rest := by
  rw [finish?, literal?_eq_some]
  constructor
  · intro closed
    refine ⟨text.takeWhile (· ≠ '}'), not_mem_takeWhile_ne '}' text, ?_⟩
    have joined := List.takeWhile_append_dropWhile (p := fun c => decide (c ≠ '}')) (l := text)
    rw [closed] at joined
    exact joined.symm
  · rintro ⟨tail, free, rfl⟩
    exact dropWhile_ne_append free _

end Collage.Markup
