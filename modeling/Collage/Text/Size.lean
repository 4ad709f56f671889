/-! # Sizes in bytes

Places in a text are counted in the bytes of its UTF-8 form.  `Text.size` is that count for a list
of characters; a character is never empty, so a longer text is a larger one, and the bytes before a
place tell which place of the text it is (`eq_of_size_eq`).  `cut?` cuts a text at such a count,
which has to fall between two characters (`eq_append_of_cut?`).
-/

namespace Collage.Text

/-- The number of bytes a text takes in UTF-8. -/
def size : List Char → Nat
  | [] => 0
  | c :: rest => c.utf8Size + size rest

@[simp] theorem size_nil : size [] = 0 := rfl

@[simp] theorem size_cons (c : Char) (rest : List Char) :
    size (c :: rest) = c.utf8Size + size rest := rfl

@[simp] theorem size_append (a b : List Char) : size (a ++ b) = size a + size b := by
  induction a with
  | nil => simp
  | cons c rest ih => simp [ih, Nat.add_assoc]

@[simp] theorem size_reverse (a : List Char) : size a.reverse = size a := by
  induction a with
  | nil => rfl
  | cons c rest ih => simp [ih, Nat.add_comm]

theorem size_eq_utf8ByteSize (text : List Char) : size text = (String.ofList text).utf8ByteSize := by
  induction text with
  | nil => rfl
  | cons c rest ih =>
    rw [size_cons, ih, String.ofList_cons, String.utf8ByteSize_append, String.utf8ByteSize_singleton]

/-- No text has fewer bytes than characters. -/
theorem length_le_size (text : List Char) : text.length ≤ size text := by
  induction text with
  | nil => simp
  | cons c rest ih =>
    have := c.utf8Size_pos
    simp only [List.length_cons, size_cons]
    omega

theorem size_eq_zero_iff {text : List Char} : size text = 0 ↔ text = [] := by
  constructor
  · intro zero
    have short := length_le_size text
    exact List.length_eq_zero_iff.1 (by omega)
  · rintro rfl
    rfl

/-- Two places of one text stand in the order of the bytes that lie before them. -/
theorem exists_of_size_le {front rest front' rest' : List Char}
    (same : front ++ rest = front' ++ rest') (le : size front ≤ size front') :
    ∃ between, front' = front ++ between ∧ rest = between ++ rest' := by
  rcases List.append_eq_append_iff.1 same with ⟨between, further⟩ | ⟨between, rfl, nearer⟩
  · exact ⟨between, further⟩
  · have none : between = [] := size_eq_zero_iff.1 (by simp only [size_append] at le; omega)
    subst none
    exact ⟨[], by simp, by simpa using nearer.symm⟩

theorem eq_of_size_eq {front rest front' rest' : List Char}
    (same : front ++ rest = front' ++ rest') (sizes : size front = size front') :
    front = front' ∧ rest = rest' := by
  obtain ⟨between, rfl, rfl⟩ := exists_of_size_le same (Nat.le_of_eq sizes)
  have none : between = [] := size_eq_zero_iff.1 (by simp only [size_append] at sizes; omega)
  simp [none]

/-- A text cut behind its first bytes; none where the cut would go through a character or beyond the
end. -/
def cut? : Nat → List Char → Option (List Char × List Char)
  | 0, text => some ([], text)
  | _, [] => none
  | bytes, c :: text =>
    if c.utf8Size ≤ bytes then
      (cut? (bytes - c.utf8Size) text).map fun (front, rest) => (c :: front, rest)
    else none

theorem eq_append_of_cut? {bytes : Nat} {text front rest : List Char}
    (h : cut? bytes text = some (front, rest)) : text = front ++ rest ∧ size front = bytes := by
  fun_induction cut? bytes text generalizing front rest with
  | case1 => simp_all
  | case2 => simp at h
  | case3 bytes c text _ hc ih =>
    obtain ⟨⟨front', rest'⟩, hcut, heq⟩ := Option.map_eq_some_iff.1 h
    cases heq
    obtain ⟨rfl, hs⟩ := ih hcut
    exact ⟨rfl, by simp only [size_cons]; omega⟩
  | case4 => simp at h

end Collage.Text
