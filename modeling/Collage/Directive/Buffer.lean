import Collage.Directive.Scan

/-! # Buffers

While the directives of a text are resolved, the text is a buffer with a cursor.  Both places and
spans are counted in bytes, so an access can go astray: beyond the text, or through a character
(`Text.Misplaced`).

`Directive.search` looks for the next directive from a byte on, `Buffer.pass` moves the cursor past
a directive, and `Buffer.sweep` does so until there is none.  The markup of a layout is taken out of
the buffer.  With each directive fewer bytes are ahead of the cursor.
-/

namespace Collage

namespace Text

/-- An access to a text at a byte that is beyond its end or inside of a character. -/
structure Misplaced where
  byte : Nat
  deriving DecidableEq, Repr

def byteAt (text : String) (index : Nat) : Except Misplaced UInt8 :=
  match text.toByteArray[index]? with
  | some byte => .ok byte
  | none => .error ⟨index⟩

/-- A text cut in two behind its first bytes. -/
def cut (text : String) (bytes : Nat) : Except Misplaced (List Char × List Char) :=
  match cut? bytes text.toList with
  | some halves => .ok halves
  | none => .error ⟨bytes⟩

/-- A text without the bytes from `start` up to but not including `stop`. -/
def remove (text : String) (start stop : Nat) : Except Misplaced String := do
  let (front, _) ← cut text start
  let (_, rest) ← cut text stop
  if start ≤ stop then return String.ofList (front ++ rest) else throw ⟨stop⟩

theorem eq_append_of_cut {text : String} {bytes : Nat} {front rest : List Char}
    (h : cut text bytes = .ok (front, rest)) :
    text.toList = front ++ rest ∧ size front = bytes := by
  unfold cut at h
  split at h
  · next halves found =>
    cases h
    exact eq_append_of_cut? found
  · cases h

theorem size_toList (text : String) : size text.toList = text.utf8ByteSize := by
  rw [size_eq_utf8ByteSize, String.ofList_toList]

/-- What is left has the bytes that were not removed. -/
theorem size_remove {text left : String} {start stop : Nat}
    (removed : remove text start stop = .ok left) :
    left.utf8ByteSize + (stop - start) = text.utf8ByteSize ∧ start ≤ stop := by
  simp only [remove, bind, Except.bind] at removed
  split at removed
  · cases removed
  · next first front =>
    split at removed
    · cases removed
    · next second rest =>
      split at removed
      · next ordered =>
        cases removed
        obtain ⟨eq, sizes⟩ := eq_append_of_cut front
        obtain ⟨eq', sizes'⟩ := eq_append_of_cut rest
        have whole := congrArg size eq'
        rw [size_append, size_toList, sizes'] at whole
        rw [← size_eq_utf8ByteSize, size_append, sizes]
        omega
      · cases removed

end Text

namespace Directive

open Text (Misplaced size)

/-! ## Searching -/

/-- Whether the markup that starts at a byte is literal text, judged by the two bytes before it. -/
def isEscapedAt (text : String) : Nat → Except Misplaced Bool
  | 0 => .ok false
  | 1 => do
    return (← Text.byteAt text 0) = '{'.toUInt8
  | place + 2 => do
    if (← Text.byteAt text (place + 1)) = '{'.toUInt8 then
      return (← Text.byteAt text place) ≠ '\\'.toUInt8
    else return false

/-- The nearest markup of a directive at a place or ahead of it, whether it is literal or not. -/
def markup? (before : List Char) : List Char → Option Sighting
  | [] => none
  | c :: ahead =>
    match read? (c :: ahead) with
    | some (kind, reference, rest) =>
      some ⟨before, kind, reference, (c :: ahead).take ((c :: ahead).length - rest.length), rest⟩
    | none => markup? (c :: before) ahead

/-- The first markup of a directive that starts at or after a byte of a text. -/
def markupAt (text : String) (offset : Nat) : Except Misplaced (Option Directive) :=
  if offset ≤ text.utf8ByteSize then
    let (before, ahead) := seek offset 0 [] text.toList
    .ok ((markup? before ahead).map (·.directive))
  else .error ⟨offset⟩

theorem bounds_markup? {before ahead : List Char} {s : Sighting}
    (found : markup? before ahead = some s) :
    size before ≤ size s.before ∧ 0 < size s.markup ∧
      size s.before + size s.markup ≤ size before + size ahead := by
  induction ahead generalizing before with
  | nil => simp [markup?] at found
  | cons c ahead ih =>
    rw [markup?] at found
    split at found
    · next kind reference rest read =>
      cases found
      have fewer := length_read? read
      have parts := congrArg size
        (List.take_append_drop ((c :: ahead).length - rest.length) (c :: ahead))
      have long := Text.length_le_size ((c :: ahead).take ((c :: ahead).length - rest.length))
      rw [Text.size_append] at parts
      rw [List.length_take] at long
      refine ⟨Nat.le_refl _, ?_, ?_⟩
      · simp only
        omega
      · simp only
        omega
    · have later := ih found
      simp only [Text.size_cons] at later ⊢
      omega

/-- The search begins at the byte or behind it, unless nothing is ahead. -/
theorem bounds_seek (offset : Nat) (before ahead : List Char) :
    size (seek offset (size before) before ahead).1 +
        size (seek offset (size before) before ahead).2 = size before + size ahead ∧
      ((seek offset (size before) before ahead).2 = [] ∨
        offset ≤ size (seek offset (size before) before ahead).1) := by
  induction ahead generalizing before with
  | nil => exact ⟨rfl, .inl rfl⟩
  | cons c ahead ih =>
    rw [seek]
    split
    · next reached => exact ⟨rfl, .inr reached⟩
    · have sizes : size before + c.utf8Size = size (c :: before) := Nat.add_comm _ _
      obtain ⟨whole, reached⟩ := ih (c :: before)
      rw [sizes]
      refine ⟨?_, reached⟩
      rw [whole, ← sizes, Text.size_cons, Nat.add_assoc]

theorem bounds_markupAt {text : String} {offset : Nat} {d : Directive}
    (found : markupAt text offset = .ok (some d)) :
    offset ≤ d.start ∧ d.start < d.stop ∧ d.stop ≤ text.utf8ByteSize := by
  unfold markupAt at found
  split at found
  · simp only [Except.ok.injEq, Option.map_eq_some_iff] at found
    obtain ⟨s, met, rfl⟩ := found
    obtain ⟨le, some, within⟩ := bounds_markup? met
    obtain ⟨whole, reached⟩ := bounds_seek offset [] text.toList
    rw [Text.size_nil, Text.size_toList, Nat.zero_add] at whole
    rw [Text.size_nil] at reached
    simp only [Sighting.directive, Sighting.passed, Text.size_append, Text.size_reverse]
    cases reached with
    | inl nothing =>
      rw [nothing] at met
      cases met
    | inr reached => omega
  · cases found

/-- The first directive that starts at or after a byte of a text: markup that is literal is stepped
into by one byte, and the reference of any other loses its marker. -/
def search (text : String) (cursor : Nat) : Except Misplaced (Option Directive) :=
  if cursor ≤ text.utf8ByteSize then
    match _met : markupAt text cursor with
    | .error e => .error e
    | .ok none => .ok none
    | .ok (some d) =>
      match isEscapedAt text d.start with
      | .error e => .error e
      | .ok true => search text (d.start + 1)
      | .ok false =>
        match Text.cut d.reference 1 with
        | .error e => .error e
        | .ok _ => .ok (some d)
  else .ok none
termination_by text.utf8ByteSize + 1 - cursor
decreasing_by
  have := bounds_markupAt _met
  omega

theorem bounds_search {text : String} {cursor : Nat} {d : Directive}
    (found : search text cursor = .ok (some d)) :
    cursor ≤ d.start ∧ d.start < d.stop ∧ d.stop ≤ text.utf8ByteSize := by
  rw [search] at found
  split at found
  · split at found
    · cases found
    · cases found
    · next e met =>
      have bounds := bounds_markupAt met
      split at found
      · cases found
      · have later := bounds_search found
        omega
      · split at found
        · cases found
        · cases found
          exact bounds
  · cases found
termination_by text.utf8ByteSize + 1 - cursor

end Directive

/-! ## The loop -/

/-- A text whose directives are being resolved, and the byte that has been reached. -/
structure Buffer where
  text : String
  cursor : Nat
  deriving DecidableEq, Repr

namespace Buffer

open Text (Misplaced)

/-- The bytes ahead of the cursor. -/
def ahead (b : Buffer) : Nat := b.text.utf8ByteSize - b.cursor

/-- The buffer with a directive passed: a layout is taken out, and what stood behind it is next. -/
def pass (b : Buffer) (d : Directive) : Except Misplaced Buffer :=
  match d.kind with
  | .layout => do return ⟨← Text.remove b.text d.start d.stop, d.start⟩
  | .inclusion => .ok ⟨b.text, d.stop⟩

/-- With each directive fewer bytes are ahead, also where the buffer gets shorter. -/
theorem ahead_pass_lt {b c : Buffer} {d : Directive}
    (found : Directive.search b.text b.cursor = .ok (some d)) (passed : b.pass d = .ok c) :
    c.ahead < b.ahead ∧ c.cursor ≤ c.text.utf8ByteSize := by
  have bounds := Directive.bounds_search found
  unfold pass at passed
  split at passed
  · simp only [bind, Except.bind] at passed
    split at passed
    · cases passed
    · next removed =>
      cases passed
      have sizes := Text.size_remove removed
      simp only [ahead]
      omega
  · cases passed
    simp only [ahead]
    omega

/-- Takes the directives from the cursor on into a state, one after the other, up to one that cannot
be taken. -/
def sweep {ε σ : Type} (take : Directive → σ → Except ε σ) (b : Buffer) (state : σ) :
    Except Misplaced (Except ε (σ × Buffer)) :=
  match _found : Directive.search b.text b.cursor with
  | .error e => .error e
  | .ok none => .ok (.ok (state, b))
  | .ok (some d) =>
    match take d state with
    | .error e => .ok (.error e)
    | .ok state =>
      match _passed : b.pass d with
      | .error e => .error e
      | .ok b => sweep take b state
termination_by b.ahead
decreasing_by exact (ahead_pass_lt _found _passed).1

end Buffer

end Collage
