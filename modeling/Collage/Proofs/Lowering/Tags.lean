import Collage.Proofs.Lowering.Parts

/-! # Include tags in a lowered text

Lowering writes an include tag for each invocation.  In a text that begins no tag by hand
(`Lowering.Tagless`) there are no others: neither does what is kept of the text join with a tag, nor
does the name inside of a tag begin another one (`Lowering.exists_of_includeTag`).
-/

namespace Collage.Lowering

variable {name reference text before skipped rest front back : List Char}

/-- What an include tag begins with, up to the quote before the name. -/
def tagWord : List Char := ['{', '%', ' ', 'i', 'n', 'c', 'l', 'u', 'd', 'e', ' ']

/-- What an include tag begins with. -/
def tagHead : List Char := tagWord ++ ['"']

/-- No include tag begins in a text. -/
def Tagless (text : List Char) : Prop := ¬ tagHead <:+: text

instance (text : List Char) : Decidable (Tagless text) :=
  inferInstanceAs (Decidable (¬ tagHead <:+: text))

theorem Tagless.of_infix {part : List Char} (tagless : Tagless text) (inside : part <:+: text) :
    Tagless part := fun tag => tagless (tag.trans inside)

theorem includeTag_eq (name : List Char) :
    includeTag name = tagHead ++ (name ++ ['"'] ++ [' ', '%', '}']) := by
  have head : "\x7b% include \"".toList = tagHead := rfl
  have tail : "\" %\x7d".toList = ['"'] ++ [' ', '%', '}'] := by decide
  calc includeTag name = "\x7b% include \"".toList ++ name ++ "\" %\x7d".toList := rfl
    _ = tagHead ++ name ++ (['"'] ++ [' ', '%', '}']) := by rw [head, tail]
    _ = tagHead ++ (name ++ ['"'] ++ [' ', '%', '}']) := by simp only [List.append_assoc]

/-! ## Where a tag may begin -/

/-- A tag begins with a brace. -/
theorem eq_cons_of_tagHead (eq : tagHead ++ rest = front ++ back) (nonempty : front ≠ []) :
    ∃ more, front = '{' :: more := by
  cases front with
  | nil => exact absurd rfl nonempty
  | cons c front =>
    obtain ⟨rfl, -⟩ := List.cons.inj eq
    exact ⟨front, rfl⟩

/-- What ends a text without a brace does not begin a tag. -/
theorem eq_nil_of_suffix (eq : tagHead ++ rest = front ++ back) (ends : front <:+ text)
    (free : '{' ∉ text) : front = [] := by
  by_contra nonempty
  obtain ⟨more, rfl⟩ := eq_cons_of_tagHead eq nonempty
  exact free (ends.subset List.mem_cons_self)

/-- Where a brace follows a text, no tag begins in the text and goes on behind it, unless its head
is in the text. -/
theorem of_tag_kept (tag : tagHead ++ reference <:+: skipped ++ '{' :: rest) :
    tagHead <:+: skipped ∨ tagHead ++ reference <:+: '{' :: rest := by
  rcases List.infix_append_iff_ne_nil.1 tag with inside | behind | ⟨front, back, opened, more, eq,
    ends, begins⟩
  · exact .inl ((List.prefix_append _ _).isInfix.trans inside)
  · exact .inr behind
  · obtain ⟨c, back, rfl⟩ := List.exists_cons_of_ne_nil more
    obtain rfl := (List.cons_prefix_cons.1 begins).1
    rcases List.append_eq_append_iff.1 eq with ⟨within, rfl, -⟩ | ⟨within, head, following⟩
    · exact .inl ((List.prefix_append _ _).isInfix.trans ends.isInfix)
    · cases within with
      | nil =>
        rw [List.append_nil] at head
        exact .inl (head ▸ ends.isInfix)
      | cons d within =>
        -- The brace that follows would be one of the head behind its first.
        obtain ⟨rfl, -⟩ := List.cons.inj following
        obtain ⟨front, rfl⟩ := eq_cons_of_tagHead eq opened
        have inside : '{' ∈ tagHead.tail := by
          rw [head]
          simp
        exact absurd inside (by decide)

/-- Of two quoted names at one place, one without a quote is not the longer one. -/
theorem prefix_of_quoted (free : '"' ∉ name)
    (begins : reference ++ ['"'] <+: name ++ ['"'] ++ rest) :
    name ++ ['"'] <+: reference ++ ['"'] := by
  rcases List.prefix_or_prefix_of_prefix (List.prefix_append _ rest) begins with first | first
  · exact first
  · rcases List.prefix_concat_iff.1 first with same | shorter
    · exact same ▸ List.prefix_rfl
    · exact absurd (shorter.subset (by simp)) free

/-- A tag that is begun in a quoted name is begun there with its quote. -/
theorem of_tag_quoted (free : '"' ∉ name) (nonempty : front ≠ [])
    (eq : tagHead ++ rest = front ++ back) (ends : front <:+ name ++ ['"']) :
    tagHead <:+: name ++ ['"'] := by
  rcases List.suffix_concat_iff.1 ends with rfl | ⟨inner, rfl, within⟩
  · exact absurd rfl nonempty
  · rw [tagHead, List.append_assoc, List.append_assoc] at eq
    have unquoted := congrArg (List.takeWhile (· ≠ '"')) eq
    have word : '"' ∉ tagWord := by decide
    simp only [List.singleton_append] at unquoted
    rw [Markup.takeWhile_ne_append word,
      Markup.takeWhile_ne_append fun quote => free (within.subset quote)] at unquoted
    rw [tagHead, unquoted]
    exact ends.isInfix

/-- A tag in a text that begins with the tag of a name is that one, or begins inside of the name, or
comes later. -/
theorem of_tag_includeTag (free : '"' ∉ name)
    (tag : tagHead ++ (reference ++ ['"']) <:+: includeTag name ++ rest) :
    name ++ ['"'] <+: reference ++ ['"'] ∨ tagHead <:+: name ++ ['"'] ∨
      tagHead ++ (reference ++ ['"']) <:+: rest := by
  rw [includeTag_eq, List.append_assoc, List.append_assoc (name ++ ['"'])] at tag
  rcases List.infix_append_iff_ne_nil.1 tag with inside | behind | ⟨front, back, opened, -, eq,
    ends, begins⟩
  · -- The head alone is too short.
    have short := inside.length_le
    simp only [List.length_append, List.length_cons, List.length_nil] at short
    omega
  · rcases List.infix_append_iff_ne_nil.1 behind with inside | behind | ⟨front, back, opened, -, eq,
      ends, -⟩
    · exact .inr (.inl ((List.prefix_append _ _).isInfix.trans inside))
    · rcases List.infix_append_iff_ne_nil.1 behind with inside | later | ⟨front, back, opened, -,
        eq, ends, -⟩
      · exact absurd (inside.subset (List.mem_append_left _ (List.mem_cons_self (a := '{'))))
          (by decide)
      · exact .inr (.inr later)
      · exact absurd (eq_nil_of_suffix eq ends (by decide)) opened
    · exact .inr (.inl (of_tag_quoted free opened eq ends))
  · -- The tag begins with the head, so it is the one of the name.
    rcases List.suffix_cons_iff.1 ends with rfl | ends
    · obtain rfl := List.append_cancel_left eq
      exact .inl (prefix_of_quoted free begins)
    · exact absurd (eq_nil_of_suffix eq ends (by decide)) opened

/-! ## Tags and invocations -/

/-- A tag in a lowered text stands there for an invocation, if the text begins no tags itself: the
name of the tag is the one that is invoked, if there is no quote in it. -/
theorem exists_of_includeTag (before : List Char) (tagless : Tagless text)
    (tag : includeTag reference <:+: lowerActions text) :
    ∃ s ∈ invocations before text, s.reference ++ ['"'] <+: reference ++ ['"'] := by
  replace tag : tagHead ++ (reference ++ ['"']) <:+: lowerActions text := by
    rw [includeTag_eq, ← List.append_assoc] at tag
    exact (List.prefix_append _ _).isInfix.trans tag
  induction size : text.length using Nat.strongRecOn generalizing before text with
  | ind _ ih =>
    rcases lowerActions_cases before text with ⟨-, kept⟩ | ⟨skipped, s, first, -, split, -, invokes,
      lowered⟩
    · rw [kept] at tag
      exact absurd ((List.prefix_append _ _).isInfix.trans tag) tagless
    · have opens : includeTag s.reference ++ lowerActions s.rest =
          '{' :: (tagHead.tail ++ (s.reference ++ ['"'] ++ [' ', '%', '}']) ++
            lowerActions s.rest) := by
        rw [includeTag_eq]
        rfl
      have shown : skipped <:+: text ∧ s.markup <:+: text ∧ s.rest <:+: text := by
        rw [split]
        exact ⟨(List.prefix_append _ _).isInfix, ⟨skipped, s.rest, by simp⟩,
          ⟨skipped ++ s.markup, [], by simp⟩⟩
      rw [lowered, opens] at tag
      rcases of_tag_kept tag with inside | tag
      · exact absurd inside (tagless.of_infix shown.1)
      · rw [← opens] at tag
        rcases of_tag_includeTag invokes.free tag with here | inside | later
        · exact ⟨s, by simp [first], here⟩
        · exact absurd (inside.trans invokes.quoted_infix) (tagless.of_infix shown.2.1)
        · have shorter : s.rest.length < text.length := split ▸ invokes.length_lt skipped s.rest
          obtain ⟨t, member, same⟩ :=
            ih _ (size ▸ shorter) s.passed (tagless.of_infix shown.2.2) later rfl
          exact ⟨t, by simp [first, member], same⟩

end Collage.Lowering
