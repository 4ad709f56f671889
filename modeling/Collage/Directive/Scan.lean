import Collage.Directive.Basic

/-! # Finding directives in a text

A place in a text is given by what lies before it, nearest character first, and what lies ahead.
`Directive.next?` walks ahead to the nearest directive; `Directive.findAt?` starts the walk at a
byte, and `Directive.scan` lists the directives of a whole text, each sought after the one before.

Markup right after an opening brace is literal text, unless a backslash stands before that brace.
-/

namespace Collage.Directive

/-- Whether markup at a place is literal text, judged by the two characters before it. -/
def isEscaped : List Char → Bool
  | '{' :: '\\' :: _ => false
  | '{' :: _ => true
  | _ => false

/-- A directive met on a walk through a text. -/
structure Sighting where
  /-- What lies before the markup, nearest character first. -/
  before : List Char
  kind : Kind
  reference : List Char
  markup : List Char
  rest : List Char
  deriving DecidableEq, Repr

namespace Sighting

/-- What lies before the place right after the markup. -/
def passed (s : Sighting) : List Char := s.markup.reverse ++ s.before

/-- What lies before the place from which a walk goes on after the directive was resolved: the
markup of a layout is taken out of the text. -/
def onward (s : Sighting) : List Char :=
  match s.kind with
  | .layout => s.before
  | .inclusion => s.passed

/-- The directive, with its place counted in bytes. -/
def directive (s : Sighting) : Directive where
  kind := s.kind
  reference := String.ofList s.reference
  start := Text.size s.before
  stop := Text.size s.passed

end Sighting

/-- The directive whose markup starts right at a place. -/
def sight? (before ahead : List Char) : Option Sighting :=
  if isEscaped before then none
  else (read? ahead).map fun (kind, reference, rest) =>
    ⟨before, kind, reference, ahead.take (ahead.length - rest.length), rest⟩

/-- The nearest directive that starts at a place or ahead of it. -/
def next? (before : List Char) : List Char → Option Sighting
  | [] => none
  | c :: ahead =>
    match sight? before (c :: ahead) with
    | some s => some s
    | none => next? (c :: before) ahead

theorem length_sight? {before ahead : List Char} {s : Sighting} (h : sight? before ahead = some s) :
    s.rest.length < ahead.length := by
  unfold sight? at h
  split at h
  · cases h
  · obtain ⟨⟨kind, reference, rest⟩, hr, rfl⟩ := Option.map_eq_some_iff.1 h
    exact length_read? hr

/-- After the nearest directive there is less text than there was ahead of the place. -/
theorem length_next? {before ahead : List Char} {s : Sighting} (h : next? before ahead = some s) :
    s.rest.length < ahead.length := by
  induction ahead generalizing before with
  | nil => simp [next?] at h
  | cons c ahead ih =>
    simp only [next?] at h
    split at h
    · next s' hs =>
      cases h
      exact length_sight? hs
    · have := ih h
      simp only [List.length_cons]
      omega

/-- The first place of a text at or after a byte, when `done` bytes lie before it. -/
def seek (offset : Nat) (done : Nat) (before : List Char) : List Char → List Char × List Char
  | [] => (before, [])
  | c :: ahead =>
    if offset ≤ done then (before, c :: ahead)
    else seek offset (done + c.utf8Size) (c :: before) ahead

/-- The first directive that starts at or after a byte of a text. -/
def findAt? (text : String) (offset : Nat) : Option Directive :=
  let (before, ahead) := seek offset 0 [] text.toList
  (next? before ahead).map (·.directive)

/-- The directives at a place and ahead of it, each sought after the end of the one before. -/
def scanFrom (before ahead : List Char) : List Directive :=
  match _found : next? before ahead with
  | none => []
  | some s => s.directive :: scanFrom s.passed s.rest
termination_by ahead.length
decreasing_by exact length_next? _found

def scan (text : String) : List Directive := scanFrom [] text.toList

end Collage.Directive
