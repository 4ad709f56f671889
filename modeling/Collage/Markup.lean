import Collage.Text.Blank

/-! # Pieces of action markup

An action is written between doubled braces.  The functions here read one piece of it from the
front of a text and give what follows; each gives less text than it got, or as much only where the
piece may be empty.  Directives, define blocks and invocations are put together from them.
-/

namespace Collage.Markup

/-- The text after a fixed piece at its front. -/
def literal? : List Char → List Char → Option (List Char)
  | [], text => some text
  | _ :: _, [] => none
  | p :: piece, c :: text => if p = c then literal? piece text else none

/-- The text after the blanks at its front. -/
def skipBlanks (text : List Char) : List Char := text.dropWhile Text.isBlank

/-- The text after at least one blank at its front. -/
def blanks? : List Char → Option (List Char)
  | [] => none
  | c :: text => if Text.isBlank c then some (skipBlanks text) else none

/-- The text after two opening braces and any blanks. -/
def open? (text : List Char) : Option (List Char) :=
  (literal? ['{', '{'] text).map skipBlanks

/-- The text after any blanks and two closing braces. -/
def close? (text : List Char) : Option (List Char) :=
  literal? ['}', '}'] (skipBlanks text)

/-- A quoted literal of at least one character: its content, and the text after it. -/
def quoted? (text : List Char) : Option (List Char × List Char) := do
  let inside ← literal? ['"'] text
  let content := inside.takeWhile (· ≠ '"')
  let rest ← literal? ['"'] (inside.dropWhile (· ≠ '"'))
  if content = [] then none else some (content, rest)

/-- The text after the remainder of an action, which runs up to the first closing brace and has
to end there with two of them. -/
def finish? (text : List Char) : Option (List Char) :=
  literal? ['}', '}'] (text.dropWhile (· ≠ '}'))

/-! ## Every piece leaves less text -/

theorem literal?_eq_some {piece text rest : List Char} :
    literal? piece text = some rest ↔ text = piece ++ rest := by
  induction piece generalizing text with
  | nil => simp [literal?, eq_comm]
  | cons p piece ih =>
    cases text with
    | nil => simp [literal?]
    | cons c text =>
      by_cases h : p = c
      · subst h; simp [literal?, ih]
      · simp only [literal?, h, if_false, List.cons_append, List.cons.injEq, false_iff,
          reduceCtorEq]
        exact fun e => h e.1.symm

theorem length_skipBlanks (text : List Char) : (skipBlanks text).length ≤ text.length :=
  (List.dropWhile_sublist _).length_le

theorem length_blanks? {text rest : List Char} (h : blanks? text = some rest) :
    rest.length < text.length := by
  cases text with
  | nil => simp [blanks?] at h
  | cons c text =>
    simp only [blanks?] at h
    split at h
    · cases h
      have := length_skipBlanks text
      simp only [List.length_cons]
      omega
    · cases h

theorem length_open? {text rest : List Char} (h : open? text = some rest) :
    rest.length + 2 ≤ text.length := by
  obtain ⟨inside, hi, rfl⟩ := Option.map_eq_some_iff.1 h
  rw [literal?_eq_some] at hi
  subst hi
  have := length_skipBlanks inside
  simp only [List.length_append, List.length_cons, List.length_nil]
  omega

theorem length_close? {text rest : List Char} (h : close? text = some rest) :
    rest.length + 2 ≤ text.length := by
  have hs := length_skipBlanks text
  rw [close?, literal?_eq_some] at h
  rw [h] at hs
  simp only [List.length_append, List.length_cons, List.length_nil] at hs
  omega

theorem length_finish? {text rest : List Char} (h : finish? text = some rest) :
    rest.length + 2 ≤ text.length := by
  have hs : (text.dropWhile (· ≠ '}')).length ≤ text.length := (List.dropWhile_sublist _).length_le
  rw [finish?, literal?_eq_some] at h
  rw [h] at hs
  simp only [List.length_append, List.length_cons, List.length_nil] at hs
  omega

theorem length_quoted? {text content rest : List Char} (h : quoted? text = some (content, rest)) :
    rest.length < text.length := by
  simp only [quoted?, Option.bind_eq_bind, Option.bind_eq_some_iff] at h
  obtain ⟨inside, hi, after, ha, h⟩ := h
  split at h
  · cases h
  · simp only [Option.some.injEq, Prod.mk.injEq] at h
    obtain ⟨-, rfl⟩ := h
    rw [literal?_eq_some] at hi ha
    have hd : (inside.dropWhile (· ≠ '"')).length ≤ inside.length :=
      (List.dropWhile_sublist _).length_le
    rw [ha] at hd
    subst hi
    simp only [List.length_append, List.length_cons, List.length_nil] at hd ⊢
    omega

end Collage.Markup
