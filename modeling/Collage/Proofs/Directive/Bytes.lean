import Collage.Directive.Buffer
import Collage.Proofs.Directive.Finding

/-! # Searching by bytes

A place of a text is a byte at which the text can be cut.  At each of them the two bytes before it
tell what the two characters before it do (`Directive.isEscapedAt_eq`): a character beyond ASCII
ends in a byte that no ASCII character has.

So `Directive.search`, which steps over literal markup byte by byte, finds at every byte of every
text what `findAt?` does, and none of its accesses goes astray (`Directive.search_eq`).
-/

namespace Collage

namespace Text

variable {text : String} {before ahead front rest : List Char}

theorem exists_size_cons (c : Char) (chars : List Char) :
    ∃ place, size (c :: chars) = place + 1 := by
  have first := c.utf8Size_pos
  exact ⟨c.utf8Size - 1 + size chars, by simp only [size_cons]; omega⟩

theorem cut?_size (front rest : List Char) :
    cut? (size front) (front ++ rest) = some (front, rest) := by
  induction front with
  | nil => rw [size_nil, cut?, List.nil_append]
  | cons c front ih =>
    obtain ⟨bytes, sizes⟩ := exists_size_cons c front
    have fits : c.utf8Size ≤ bytes + 1 := by
      rw [← sizes]
      exact Nat.le_add_right _ _
    have behind : bytes + 1 - c.utf8Size = size front := by
      rw [← sizes]
      exact Nat.add_sub_cancel_left _ _
    rw [sizes, List.cons_append, cut?, if_pos fits, behind, ih, Option.map_some]
    exact nofun

/-- A text can be cut between any two of its characters. -/
theorem cut_of_append (eq : text.toList = front ++ rest) :
    cut text (size front) = .ok (front, rest) := by
  rw [cut, eq, cut?_size]

theorem remove_of_append {markup : List Char} (eq : text.toList = front ++ (markup ++ rest)) :
    remove text (size front) (size (front ++ markup)) = .ok (String.ofList (front ++ rest)) := by
  have eq' : text.toList = (front ++ markup) ++ rest := by rw [eq, List.append_assoc]
  have ordered : size front ≤ size (front ++ markup) := by
    rw [size_append]
    exact Nat.le_add_right _ _
  simp only [remove, cut_of_append eq, cut_of_append eq', bind, Except.bind, if_pos ordered, pure,
    Except.pure]

/-- A byte that two halves of a text meet at is no byte inside of a character. -/
theorem isValid_of_append (eq : text.toList = front ++ rest) :
    String.Pos.Raw.IsValid text ⟨size front⟩ := by
  refine String.Pos.Raw.isValid_iff_exists_append.2
    ⟨String.ofList front, String.ofList rest, ?_, ?_⟩
  · rw [← String.ofList_append, ← eq, String.ofList_toList]
  · rw [String.rawEndPos, ← size_eq_utf8ByteSize]

/-! ## The bytes of a character -/

theorem byte?_eq (text : String) (index : Nat) :
    text.toByteArray[index]? = (text.toList.flatMap String.utf8EncodeChar)[index]? := by
  obtain ⟨chars, rfl⟩ : ∃ chars, text = String.ofList chars := ⟨text.toList, by simp⟩
  rw [String.toByteArray_ofList, String.toList_ofList, List.utf8Encode]
  simp [getElem?_def, ByteArray.getElem_eq_getElem_data, List.data_toByteArray]

theorem length_flatMap_encode (chars : List Char) :
    (chars.flatMap String.utf8EncodeChar).length = size chars := by
  induction chars with
  | nil => rfl
  | cons c chars ih => simp [ih]

/-- A character ends in the byte of an ASCII character only if it is that one. -/
theorem encode_eq_concat (c : Char) : ∃ start last, String.utf8EncodeChar c = start ++ [last] ∧
    ∀ x : Char, x.toNat ≤ 127 → (last = x.toUInt8 ↔ c = x) := by
  have wide : ∀ n, (UInt8.ofNat (n % 64 + 128)).toNat = n % 64 + 128 := fun n => by
    rw [UInt8.toNat_ofNat']
    omega
  -- Where a character takes several bytes, the last one is 128 or more.
  have beyond : 127 < c.toNat → ∀ x : Char, x.toNat ≤ 127 →
      (UInt8.ofNat (c.val.toNat % 64 + 128) = x.toUInt8 ↔ c = x) := by
    intro several x ascii
    refine iff_of_false (fun same => ?_) (fun same => ?_)
    · have := congrArg UInt8.toNat same
      rw [wide, Char.toUInt8, UInt32.toNat_toUInt8] at this
      have small : x.val.toNat ≤ 127 := ascii
      omega
    · subst same
      omega
  simp only [String.utf8EncodeChar]
  split
  · next one =>
    refine ⟨[], _, rfl, fun x ascii => ⟨fun same => ?_, fun same => by subst same; rfl⟩⟩
    have codes := congrArg UInt8.toNat same
    rw [Char.toUInt8, UInt32.toNat_toUInt8, UInt8.toNat_ofNat'] at codes
    have small : x.val.toNat ≤ 127 := ascii
    exact Char.ext (UInt32.toNat_inj.1 (by omega))
  · next several =>
    split
    · exact ⟨[_], _, rfl, beyond (Nat.lt_of_not_le several)⟩
    · split
      · exact ⟨[_, _], _, rfl, beyond (Nat.lt_of_not_le several)⟩
      · exact ⟨[_, _, _], _, rfl, beyond (Nat.lt_of_not_le several)⟩

/-- The byte before a place is the last one of the character before it. -/
theorem byteAt_before {c : Char} {place : Nat} (eq : text.toList = (c :: before).reverse ++ ahead)
    (sizes : size (c :: before) = place + 1) :
    ∃ last, byteAt text place = .ok last ∧
      ∀ x : Char, x.toNat ≤ 127 → (last = x.toUInt8 ↔ c = x) := by
  obtain ⟨start, last, encoded, ascii⟩ := encode_eq_concat c
  refine ⟨last, ?_, ascii⟩
  have bytes : text.toList.flatMap String.utf8EncodeChar =
      (before.reverse.flatMap String.utf8EncodeChar ++ start) ++
        last :: ahead.flatMap String.utf8EncodeChar := by
    rw [eq, List.reverse_cons, List.append_assoc, List.flatMap_append, List.singleton_append,
      List.flatMap_cons, encoded]
    simp
  have place_eq : place = (before.reverse.flatMap String.utf8EncodeChar ++ start).length := by
    rw [size_cons, ← String.length_utf8EncodeChar, encoded, List.length_append,
      List.length_singleton] at sizes
    rw [List.length_append, length_flatMap_encode, size_reverse]
    omega
  rw [byteAt, byte?_eq, bytes, place_eq, List.getElem?_append_right (Nat.le_refl _), Nat.sub_self,
    List.getElem?_cons_zero]

end Text

namespace Directive

open Text (size byteAt cut)

variable {text : String} {before ahead rest : List Char} {d : Directive} {s : Sighting}
  {offset : Nat}

/-! ## Literal markup -/

theorem isEscapedAt_of_other {place : Nat} {last : UInt8} (known : byteAt text place = .ok last)
    (other : last ≠ '{'.toUInt8) : isEscapedAt text (place + 1) = .ok false := by
  cases place with
  | zero =>
    rw [isEscapedAt, known]
    exact congrArg Except.ok (decide_eq_false other)
  | succ place =>
    rw [isEscapedAt, known]
    exact if_neg other

theorem isEscapedAt_of_brace {place : Nat} {last : UInt8}
    (brace : byteAt text (place + 1) = .ok '{'.toUInt8) (known : byteAt text place = .ok last) :
    isEscapedAt text (place + 2) = .ok (decide (last ≠ '\\'.toUInt8)) := by
  rw [isEscapedAt, brace, known]
  rfl

/-- The two bytes before a place of a text tell what the two characters before it do. -/
theorem isEscapedAt_eq (eq : text.toList = before.reverse ++ ahead) :
    isEscapedAt text (size before) = .ok (isEscaped before) := by
  cases before with
  | nil => rfl
  | cons c before =>
    obtain ⟨place, sizes⟩ := Text.exists_size_cons c before
    obtain ⟨last, known, ascii⟩ := Text.byteAt_before eq sizes
    rw [sizes]
    by_cases brace : c = '{'
    · subst brace
      obtain rfl := (ascii '{' (by decide)).2 rfl
      -- A brace takes one byte, so the place of the character before it is known.
      obtain rfl : size before = place := by
        rw [Text.size_cons, Nat.add_comm] at sizes
        exact Nat.succ.inj sizes
      cases before with
      | nil =>
        rw [Text.size_nil] at known ⊢
        rw [isEscapedAt, known]
        rfl
      | cons c' before =>
        obtain ⟨place', sizes'⟩ := Text.exists_size_cons c' before
        have eq' : text.toList = (c' :: before).reverse ++ '{' :: ahead := by simpa using eq
        obtain ⟨last', known', plain⟩ := Text.byteAt_before eq' sizes'
        rw [sizes'] at known ⊢
        rw [isEscapedAt_of_brace known known']
        by_cases slash : c' = '\\'
        · subst slash
          simp [isEscaped, (plain '\\' (by decide)).2 rfl]
        · have other := mt (plain '\\' (by decide)).1 slash
          simp [isEscaped, slash, other]
    · have other := mt (ascii '{' (by decide)).1 brace
      rw [isEscapedAt_of_other known other]
      simp [isEscaped, brace]

/-! ## Markup, literal or not -/

/-- What was read and what comes after it are the text. -/
theorem take_append_rest {kind : Kind} {reference : List Char}
    (read : read? ahead = some (kind, reference, rest)) :
    ahead.take (ahead.length - rest.length) ++ rest = ahead ∧
      Spells kind reference (ahead.take (ahead.length - rest.length)) := by
  obtain ⟨markup, spells, rfl⟩ := read?_eq_some_iff.1 read
  rw [List.length_append, Nat.add_sub_cancel, List.take_left]
  exact ⟨rfl, spells⟩

/-- The nearest markup stands behind what is skipped. -/
theorem of_markup? (found : markup? before ahead = some s) :
    ∃ skipped, s.before = skipped.reverse ++ before ∧ ahead = skipped ++ (s.markup ++ s.rest) ∧
      Spells s.kind s.reference s.markup := by
  induction ahead generalizing before with
  | nil => cases found
  | cons c ahead ih =>
    rw [markup?] at found
    split at found
    · next kind reference rest read =>
      cases found
      obtain ⟨whole, spells⟩ := take_append_rest read
      exact ⟨[], rfl, whole.symm, spells⟩
    · obtain ⟨skipped, place, eq, spells⟩ := ih found
      exact ⟨c :: skipped, by simpa using place, by simp [eq], spells⟩

/-- The nearest directive is the nearest markup, unless that is literal.  Then it is the nearest one
behind the first brace of it. -/
theorem next?_eq (before ahead : List Char) :
    next? before ahead =
      match markup? before ahead with
      | none => none
      | some s =>
        if isEscaped s.before then next? ('{' :: s.before) (s.markup ++ s.rest).tail
        else some s := by
  induction ahead generalizing before with
  | nil => rfl
  | cons c ahead ih =>
    cases read : read? (c :: ahead) with
    | none =>
      have unsighted : sight? before (c :: ahead) = none := by simp [sight?, read]
      simp only [next?, unsighted, markup?, read]
      exact ih (c :: before)
    | some parts =>
      obtain ⟨kind, reference, rest⟩ := parts
      obtain ⟨whole, spells⟩ := take_append_rest read
      obtain ⟨inside, braced⟩ := spells.eq_cons
      obtain rfl : '{' = c := by
        rw [braced] at whole
        exact (List.cons.inj whole).1
      simp only [markup?, read, whole, List.tail_cons]
      cases escaped : isEscaped before with
      | true => simp [next?, sight?, escaped]
      | false => simp [next?, sight?, escaped, read]

/-- The reference of a directive can be cut behind its marker, and what is left is the name. -/
theorem cut_marker (spells : Spells s.kind s.reference s.markup) :
    ∃ name, cut s.directive.reference 1 = .ok (['@'], name) ∧
      s.directive.name = Name.normalize (String.ofList name) := by
  obtain ⟨-, -, -, -, -, -, ⟨c, more, marked⟩, -⟩ := spells
  have marker : s.directive.reference.toList = ['@'] ++ c :: more := by
    simp [Sighting.directive, marked]
  refine ⟨c :: more, Text.cut_of_append marker, ?_⟩
  rw [name, nameOf, marker]
  rfl

/-- Where a search from a byte on begins. -/
theorem exists_start (text : String) (offset : Nat) :
    ∃ before ahead, text.toList = before.reverse ++ ahead ∧
      findAt? text offset = (next? before ahead).map (·.directive) ∧
      (offset ≤ text.utf8ByteSize →
        markupAt text offset = .ok ((markup? before ahead).map (·.directive))) ∧
      (text.utf8ByteSize < offset → ahead = []) := by
  obtain ⟨skipped, ahead, sought, eq, -⟩ := seek_eq offset [] text.toList
  have bounds := bounds_seek offset [] text.toList
  rw [Text.size_nil, List.append_nil] at sought
  rw [Text.size_nil, sought, Text.size_toList] at bounds
  refine ⟨skipped.reverse, ahead, by simpa using eq, by rw [findAt?, sought], fun inside => ?_,
    fun beyond => ?_⟩
  · rw [markupAt, if_pos inside, sought]
  · simp only at bounds
    exact bounds.2.resolve_right (by omega)

/-- The markup from a byte on stands in the text, and is the directive there unless it is literal. -/
theorem of_markupAt (met : markupAt text offset = .ok (some d)) :
    ∃ s : Sighting, s.directive = d ∧ text.toList = s.before.reverse ++ (s.markup ++ s.rest) ∧
      Spells s.kind s.reference s.markup ∧
      findAt? text offset =
        if isEscaped s.before then findAt? text (d.start + 1) else some d := by
  have inside : offset ≤ text.utf8ByteSize := by
    have := bounds_markupAt met
    omega
  obtain ⟨before, ahead, eq, found, marked, -⟩ := exists_start text offset
  rw [marked inside, Except.ok.injEq, Option.map_eq_some_iff] at met
  obtain ⟨s, met, rfl⟩ := met
  obtain ⟨skipped, place, rfl, spells⟩ := of_markup? met
  have whole : text.toList = s.before.reverse ++ (s.markup ++ s.rest) := by
    rw [eq, place]
    simp
  refine ⟨s, rfl, whole, spells, ?_⟩
  rw [found, next?_eq, met]
  cases escaped : isEscaped s.before with
  | false => simp [escaped]
  | true =>
    -- The byte after the start of markup is the place right behind its first brace.
    obtain ⟨inside, braced⟩ := spells.eq_cons
    have behind : s.directive.start + 1 = size ('{' :: s.before) := Nat.add_comm _ _
    simp only [escaped, braced, List.cons_append, List.tail_cons, if_true] at whole ⊢
    have whole' : text.toList = ('{' :: s.before).reverse ++ '{' :: (inside ++ s.rest) := by
      simpa using whole
    rw [behind, findAt?_size whole']

/-- At every byte of every text the search comes to an end, no access of it goes astray, and it
finds what is to be found. -/
theorem search_eq (text : String) (cursor : Nat) :
    search text cursor = .ok (findAt? text cursor) := by
  obtain ⟨before, ahead, eq, found, marked, beyond⟩ := exists_start text cursor
  rw [search]
  split
  · next inside =>
    split
    · next met =>
      rw [marked inside] at met
      cases met
    · next met =>
      rw [marked inside, Except.ok.injEq, Option.map_eq_none_iff] at met
      rw [found, next?_eq, met]
      rfl
    · next d met =>
      have bounds := bounds_markupAt met
      obtain ⟨s, rfl, whole, spells, found⟩ := of_markupAt met
      have judged : isEscapedAt text s.directive.start = .ok (isEscaped s.before) :=
        isEscapedAt_eq whole
      rw [judged, found]
      cases isEscaped s.before with
      | true => exact search_eq text (s.directive.start + 1)
      | false =>
        obtain ⟨name, marker, -⟩ := cut_marker spells
        simp only [marker]
        rfl
  · next outside =>
    rw [found, beyond (by omega)]
    rfl
termination_by text.utf8ByteSize + 1 - cursor

end Directive

end Collage
