import Collage.Directive.Scan
import Collage.Proofs.Name.Normal

/-! # The directives that are met

`Directive.course` lists the directives that resolving a text meets when each of them can be
resolved, and `Directive.remainder` is the text that is left of it.  Both depend on the text alone.
The markup of a layout is taken out of the text when it is met, so a course may hold directives
that the text itself does not show.
-/

namespace Collage.Directive

/-- A directive refers to a template by its normal name. -/
theorem normalize_name (d : Directive) : Name.normalize d.name = d.name :=
  Name.normalize_normalize _

/-- The directives met from a place on.  A second layout is met but not passed. -/
def course (hasLayout : Bool) (before ahead : List Char) : List Sighting :=
  match _found : next? before ahead with
  | none => []
  | some sight =>
    if hasLayout = true ∧ sight.kind = .layout then [sight]
    else sight :: course (hasLayout || sight.kind = .layout) sight.onward sight.rest
termination_by ahead.length
decreasing_by exact length_next? _found

/-- The text that is left when all directives from a place on were met. -/
def remainder (hasLayout : Bool) (before ahead : List Char) : List Char :=
  match _found : next? before ahead with
  | none => before.reverse ++ ahead
  | some sight =>
    if hasLayout = true ∧ sight.kind = .layout then sight.onward.reverse ++ sight.rest
    else remainder (hasLayout || sight.kind = .layout) sight.onward sight.rest
termination_by ahead.length
decreasing_by exact length_next? _found

section

variable {hasLayout : Bool} {before ahead : List Char} {sight : Sighting}

theorem course_of_none (none : next? before ahead = none) :
    course hasLayout before ahead = [] := by
  rw [course]
  split
  · rfl
  · next found => rw [none] at found; cases found

theorem course_of_some (found : next? before ahead = some sight) :
    course hasLayout before ahead =
      if hasLayout = true ∧ sight.kind = .layout then [sight]
      else sight :: course (hasLayout || sight.kind = .layout) sight.onward sight.rest := by
  rw [course]
  split
  · next none => rw [found] at none; cases none
  · next other eq => rw [found] at eq; cases eq; rfl

theorem remainder_of_none (none : next? before ahead = none) :
    remainder hasLayout before ahead = before.reverse ++ ahead := by
  rw [remainder]
  split
  · rfl
  · next found => rw [none] at found; cases found

theorem remainder_of_some (found : next? before ahead = some sight) :
    remainder hasLayout before ahead =
      if hasLayout = true ∧ sight.kind = .layout then sight.onward.reverse ++ sight.rest
      else remainder (hasLayout || sight.kind = .layout) sight.onward sight.rest := by
  rw [remainder]
  split
  · next none => rw [found] at none; cases none
  · next other eq => rw [found] at eq; cases eq; rfl

end

/-- The directives that a whole text meets. -/
def met (text : String) : List Sighting := course false [] text.toList

/-- What is left of a whole text. -/
def left (text : String) : String := String.ofList (remainder false [] text.toList)

end Collage.Directive
