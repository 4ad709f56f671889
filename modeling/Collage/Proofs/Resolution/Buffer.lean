import Collage.Proofs.Directive.Bytes
import Collage.Proofs.Resolution.Strip

/-! # The loop over a buffer

The cursor of a buffer stays between two characters, whatever is passed (`Buffer.Stands.pass`), so no
access of the loop goes astray and each directive brings the end of the loop nearer
(`Buffer.Sound.pass`).  This is so whatever becomes of the directives: they may be taken into any
state by any means (`Buffer.sweep_reaches`).

With the directives of a template taken into its draft, the loop is `Session.gather`
(`Buffer.sweep_taking`).
-/

namespace Collage

open Directive (Sighting findAt? next?)
open Text (size)

/-- Takes one directive of `parent` into its draft; the text on its two sides does not matter. -/
def Session.taking (kind : OutputKind) (visit : Visit) (parent : String) (d : Directive)
    (state : Draft × Session) : Except (Halt × Session) (Draft × Session) :=
  match meet kind visit parent ⟨[], d.kind, d.reference.toList, [], []⟩ state.1 state.2 with
  | (.error halt, s) => .error (halt, s)
  | (.ok draft, s) => .ok (draft, s)

/-- What the loop over a buffer comes to where the resolution of its directives comes to this. -/
def Session.swept (cursor : Nat) :
    Outcome (Draft × List Char) × Session → Except (Halt × Session) ((Draft × Session) × Buffer)
  | (.error halt, s) => .error (halt, s)
  | (.ok (draft, left), s) => .ok ((draft, s), ⟨String.ofList left, cursor⟩)

namespace Directive

variable {text : String} {d : Directive}

/-- A directive that stands in a text stands between two places of it.  So the bytes before it can be
judged, its marker can be cut off, and its markup can be taken out. -/
theorem StandsIn.accesses (stands : d.StandsIn text) :
    String.Pos.Raw.IsValid text ⟨d.start⟩ ∧ String.Pos.Raw.IsValid text ⟨d.stop⟩ ∧
      isEscapedAt text d.start = .ok false ∧
      (∃ name, Text.cut d.reference 1 = .ok (['@'], name) ∧
        d.name = Name.normalize (String.ofList name)) ∧
      ∃ left, Text.remove text d.start d.stop = .ok left ∧
        left.utf8ByteSize + (d.stop - d.start) = text.utf8ByteSize := by
  obtain ⟨front, ahead, s, eq, sighted, rfl⟩ := standsIn_iff.1 stands
  obtain ⟨free, spells, place, rfl⟩ := sight?_eq_some_iff.1 sighted
  have start : s.directive.start = size front := by simp [Sighting.directive, place]
  have stop : s.directive.stop = size (front ++ s.markup) := by
    simp [Sighting.directive, Sighting.passed, place, Nat.add_comm]
  have eq' : text.toList = (front ++ s.markup) ++ s.rest := by rw [eq, List.append_assoc]
  have removed := Text.remove_of_append eq
  rw [← start, ← stop] at removed
  refine ⟨?_, ?_, ?_, cut_marker spells, _, removed, (Text.size_remove removed).1⟩
  · exact start ▸ Text.isValid_of_append eq
  · exact stop ▸ Text.isValid_of_append eq'
  · have turned : text.toList = front.reverse.reverse ++ (s.markup ++ s.rest) := by simpa using eq
    have judged := isEscapedAt_eq turned
    rwa [free, Text.size_reverse, ← start] at judged

end Directive

namespace Buffer

variable {b c : Buffer} {before ahead : List Char} {sight : Sighting} {d : Directive}

/-- The cursor of the buffer is between what lies before it and what lies ahead. -/
structure Stands (b : Buffer) (before ahead : List Char) : Prop where
  text_eq : b.text.toList = before.reverse ++ ahead
  cursor_eq : b.cursor = size before

theorem stands_start (text : String) : Stands ⟨text, 0⟩ [] text.toList := ⟨rfl, rfl⟩

theorem Stands.search (stands : b.Stands before ahead) :
    Directive.search b.text b.cursor = .ok ((next? before ahead).map (·.directive)) := by
  rw [Directive.search_eq, stands.cursor_eq, Directive.findAt?_size stands.text_eq]

/-- What is passed is passed without an access going astray, and the cursor is behind it. -/
theorem Stands.pass (stands : b.Stands before ahead) (found : next? before ahead = some sight) :
    ∃ c, b.pass sight.directive = .ok c ∧ c.Stands sight.onward sight.rest := by
  have whole := Directive.passed_append_rest found
  rw [← stands.text_eq, Sighting.passed, List.reverse_append, List.reverse_reverse,
    List.append_assoc] at whole
  have kindOf : sight.directive.kind = sight.kind := rfl
  cases kinds : sight.kind with
  | layout =>
    have removed := Text.remove_of_append whole.symm
    have start : sight.directive.start = size sight.before.reverse := by
      simp [Sighting.directive]
    have stop : sight.directive.stop = size (sight.before.reverse ++ sight.markup) := by
      simp [Sighting.directive, Sighting.passed, Nat.add_comm]
    refine ⟨⟨String.ofList (sight.before.reverse ++ sight.rest), sight.directive.start⟩, ?_, ?_⟩
    · simp only [Buffer.pass, kindOf, kinds, start, stop, removed, bind, Except.bind, pure,
        Except.pure]
    · rw [Sighting.onward_of_layout kinds]
      exact ⟨String.toList_ofList, rfl⟩
  | inclusion =>
    refine ⟨⟨b.text, sight.directive.stop⟩, ?_, ?_⟩
    · simp only [Buffer.pass, kindOf, kinds]
    · rw [Sighting.onward_of_inclusion kinds]
      exact ⟨by simpa [Sighting.passed] using whole.symm, rfl⟩

/-! ## Along the loop -/

/-- The cursor is between two characters of the text. -/
def Sound (b : Buffer) : Prop := ∃ before ahead, b.Stands before ahead

theorem sound_start (text : String) : Sound ⟨text, 0⟩ := ⟨[], text.toList, stands_start text⟩

theorem Sound.cursor (sound : b.Sound) :
    b.cursor ≤ b.text.utf8ByteSize ∧ String.Pos.Raw.IsValid b.text ⟨b.cursor⟩ := by
  obtain ⟨before, ahead, stands⟩ := sound
  have whole := congrArg size stands.text_eq
  rw [Text.size_toList, Text.size_append, Text.size_reverse] at whole
  refine ⟨?_, ?_⟩
  · rw [stands.cursor_eq, whole]
    exact Nat.le_add_right _ _
  · have valid := Text.isValid_of_append stands.text_eq
    rwa [Text.size_reverse, ← stands.cursor_eq] at valid

/-- A directive that is found can be passed, and fewer bytes are ahead then. -/
theorem Sound.pass (sound : b.Sound)
    (found : Directive.search b.text b.cursor = .ok (some d)) :
    ∃ c, b.pass d = .ok c ∧ c.Sound ∧ c.ahead < b.ahead := by
  obtain ⟨before, ahead, stands⟩ := sound
  have met := found
  rw [stands.search, Except.ok.injEq, Option.map_eq_some_iff] at met
  obtain ⟨sight, met, rfl⟩ := met
  obtain ⟨c, passed, stands'⟩ := stands.pass met
  exact ⟨c, passed, ⟨_, _, stands'⟩, (ahead_pass_lt found passed).1⟩

/-- The buffers that come of one when directives are found and passed. -/
inductive Reaches : Buffer → Buffer → Prop where
  | refl (b : Buffer) : Reaches b b
  | pass {b c e : Buffer} {d : Directive}
      (found : Directive.search b.text b.cursor = .ok (some d)) (passed : b.pass d = .ok c)
      (onward : Reaches c e) : Reaches b e

theorem Reaches.sound (reaches : Reaches b c) (sound : b.Sound) : c.Sound := by
  induction reaches with
  | refl => exact sound
  | pass found passed _ ih =>
    obtain ⟨c', passed', sound', -⟩ := sound.pass found
    rw [passed, Except.ok.injEq] at passed'
    exact ih (passed' ▸ sound')

section

variable {ε σ : Type} {take : Directive → σ → Except ε σ} {state state' : σ} {e : ε}

theorem sweep_of_none (none : Directive.search b.text b.cursor = .ok none) :
    sweep take b state = .ok (.ok (state, b)) := by
  rw [sweep]
  split
  · next failed => rw [none] at failed; cases failed
  · rfl
  · next found => rw [none] at found; cases found

theorem sweep_of_error (found : Directive.search b.text b.cursor = .ok (some d))
    (refused : take d state = .error e) : sweep take b state = .ok (.error e) := by
  rw [sweep]
  split
  · next failed => rw [found] at failed; cases failed
  · next none => rw [found] at none; cases none
  · next other eq =>
    rw [found] at eq
    cases eq
    rw [refused]

theorem sweep_of_ok (found : Directive.search b.text b.cursor = .ok (some d))
    (taken : take d state = .ok state') (passed : b.pass d = .ok c) :
    sweep take b state = sweep take c state' := by
  rw [sweep]
  split
  · next failed => rw [found] at failed; cases failed
  · next none => rw [found] at none; cases none
  · next other eq =>
    rw [found] at eq
    cases eq
    rw [taken]
    simp only
    split
    · next failed => rw [passed] at failed; cases failed
    · next other eq => rw [passed] at eq; cases eq; rfl

/-- The loop comes to an end, at a buffer without a further directive or with one that cannot be
taken. -/
theorem sweep_reaches (take : Directive → σ → Except ε σ) {b : Buffer} (sound : b.Sound)
    (state : σ) :
    ∃ c state', Reaches b c ∧
      ((Directive.search c.text c.cursor = .ok none ∧
          sweep take b state = .ok (.ok (state', c))) ∨
        ∃ d e, Directive.search c.text c.cursor = .ok (some d) ∧ take d state' = .error e ∧
          sweep take b state = .ok (.error e)) := by
  have searched : ∃ found, Directive.search b.text b.cursor = .ok found :=
    ⟨_, Directive.search_eq b.text b.cursor⟩
  obtain ⟨none | d, found⟩ := searched
  · exact ⟨b, state, .refl b, .inl ⟨found, sweep_of_none found⟩⟩
  · cases taken : take d state with
    | error e => exact ⟨b, state, .refl b, .inr ⟨d, e, found, taken, sweep_of_error found taken⟩⟩
    | ok next =>
      obtain ⟨c, passed, sound', fewer⟩ := sound.pass found
      obtain ⟨last, state', reaches, ends⟩ := sweep_reaches take sound' next
      rw [sweep_of_ok found taken passed]
      exact ⟨last, state', .pass found passed reaches, ends⟩
termination_by b.ahead

end

/-! ## The loop of a resolution -/

section

variable {kind : OutputKind} {visit : Session.Visit} {parent : String} {draft : Draft} {s : Session}

theorem taking_directive (sight : Sighting) :
    Session.taking kind visit parent sight.directive (draft, s) =
      match Session.meet kind visit parent sight draft s with
      | (.error halt, s) => .error (halt, s)
      | (.ok draft, s) => .ok (draft, s) := by
  have same : Directive.request (Sighting.directive
      ⟨[], sight.directive.kind, sight.directive.reference.toList, [], []⟩) =
        sight.directive.request := by
    simp [Directive.request, Sighting.directive, Directive.name]
  rw [Session.taking, Session.meet_congr same]

/-- From any place on the loop over a buffer does what `Session.gather` does. -/
theorem sweep_taking (kind : OutputKind) (visit : Session.Visit) (parent : String)
    (stands : b.Stands before ahead) (draft : Draft) (s : Session) :
    ∃ cursor, sweep (Session.taking kind visit parent) b (draft, s) =
      .ok (Session.swept cursor (Session.gather kind visit parent before ahead draft s)) := by
  fun_induction Session.gather kind visit parent before ahead draft s generalizing b with
  | case1 before ahead draft s none =>
    have searched := stands.search
    rw [none] at searched
    refine ⟨b.cursor, ?_⟩
    rw [sweep_of_none searched, Session.swept, ← stands.text_eq, String.ofList_toList]
  | case2 before ahead draft s sight found halt t refused =>
    have searched := stands.search
    rw [found] at searched
    refine ⟨b.cursor, sweep_of_error searched ?_⟩
    rw [taking_directive, refused]
  | case3 before ahead draft s sight found next t taken ih =>
    have searched := stands.search
    rw [found] at searched
    obtain ⟨c, passed, stands'⟩ := stands.pass found
    obtain ⟨cursor, same⟩ := ih stands'
    refine ⟨cursor, ?_⟩
    have took : Session.taking kind visit parent sight.directive (draft, s) = .ok (next, t) := by
      rw [taking_directive, taken]
    rw [sweep_of_ok searched took passed, same]

end

/-- Searching a text from any byte on comes to an end without an access going astray, and finds what
is to be found: a directive that is not empty, in the text at the byte or behind it, between places
of the text.  So it can be judged by the bytes before it, lose its marker, and be taken out.

Along the loop over a text, whatever becomes of its directives, the cursor is at a place of the
buffer, and with each directive fewer bytes are ahead of it.  So the loop ends, where no directive is
left or one cannot be taken, and none of its accesses goes astray.  The loop that resolves the
directives of a template is one of these. -/
theorem sweep_safe (text : String) :
    (∀ offset, Directive.search text offset = .ok (findAt? text offset) ∧
      ∀ d, findAt? text offset = some d →
        offset ≤ d.start ∧ d.start < d.stop ∧ d.stop ≤ text.utf8ByteSize ∧
        String.Pos.Raw.IsValid text ⟨d.start⟩ ∧ String.Pos.Raw.IsValid text ⟨d.stop⟩ ∧
        Directive.isEscapedAt text d.start = .ok false ∧
        (∃ name, Text.cut d.reference 1 = .ok (['@'], name) ∧
          d.name = Name.normalize (String.ofList name)) ∧
        ∃ left, Text.remove text d.start d.stop = .ok left ∧
          left.utf8ByteSize + (d.stop - d.start) = text.utf8ByteSize) ∧
    (∀ b, Reaches ⟨text, 0⟩ b →
      b.cursor ≤ b.text.utf8ByteSize ∧ String.Pos.Raw.IsValid b.text ⟨b.cursor⟩ ∧
      ∀ d, Directive.search b.text b.cursor = .ok (some d) →
        ∃ c, b.pass d = .ok c ∧ c.ahead < b.ahead ∧ c.cursor ≤ c.text.utf8ByteSize) ∧
    (∀ (ε σ : Type) (take : Directive → σ → Except ε σ) (state : σ),
      ∃ b state', Reaches ⟨text, 0⟩ b ∧
        ((Directive.search b.text b.cursor = .ok none ∧
            sweep take ⟨text, 0⟩ state = .ok (.ok (state', b))) ∨
          ∃ d e, Directive.search b.text b.cursor = .ok (some d) ∧ take d state' = .error e ∧
            sweep take ⟨text, 0⟩ state = .ok (.error e))) ∧
    ∀ kind visit parent draft s, ∃ cursor,
      sweep (Session.taking kind visit parent) ⟨text, 0⟩ (draft, s) =
        .ok (Session.swept cursor (Session.gather kind visit parent [] text.toList draft s)) := by
  refine ⟨fun offset => ⟨Directive.search_eq text offset, fun d found => ?_⟩,
    fun b reaches => ?_,
    fun ε σ take state => sweep_reaches take (sound_start text) state,
    fun kind visit parent => sweep_taking kind visit parent (stands_start text)⟩
  · obtain ⟨stands, behind, -⟩ := Directive.findAt?_eq_some_iff.1 found
    exact ⟨behind, stands.start_lt_stop, stands.stop_le, stands.accesses⟩
  · have sound := reaches.sound (sound_start text)
    refine ⟨sound.cursor.1, sound.cursor.2, fun d found => ?_⟩
    obtain ⟨c, passed, sound', fewer⟩ := sound.pass found
    exact ⟨c, passed, fewer, sound'.cursor.1⟩

end Buffer

end Collage
