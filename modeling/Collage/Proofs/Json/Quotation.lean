import Collage.Json.Printer
import Collage.Json.Reader

/-! # Strings in JSON

A string is written between quotes, with an escape for each character that may not stand there as it
is.  The reader takes one character at a time, as it was written (`Reader.characters_escapeChar`),
up to the closing quote, so it finds the string again (`Reader.stringTail_quote`).
-/

namespace Collage.Json.Reader

variable {c : Char} {fuel : Nat} {done rest : List Char}

theorem hexValue?_hexDigit : ∀ n < 16, hexValue? (hexDigit n) = some n := by
  decide

theorem hexEscape_of_digits {a b c d : Char} {i j k l : Nat} (first : hexValue? a = some i)
    (second : hexValue? b = some j) (third : hexValue? c = some k) (fourth : hexValue? d = some l)
    (rest : List Char) :
    hexEscape (a :: b :: c :: d :: rest) = .ok (((i * 16 + j) * 16 + k) * 16 + l, rest) := by
  have long := Text.length_le_size (a :: b :: c :: d :: rest)
  simp only [List.length_cons] at long
  rw [hexEscape, if_neg (by omega)]
  simp only [first, second, third, fourth]

/-- A control character is written with the two hexadecimal digits of its code point. -/
theorem unicodeEscape_control (control : c.toNat < 0x20) :
    unicodeEscape ('0' :: '0' :: hexDigit (c.toNat / 16) :: hexDigit (c.toNat % 16) :: rest) =
      .ok (c, rest) := by
  have zero : hexValue? '0' = some 0 := by decide
  have high := hexValue?_hexDigit (c.toNat / 16) (by omega)
  have low := hexValue?_hexDigit (c.toNat % 16) (by omega)
  have value : ((0 * 16 + 0) * 16 + c.toNat / 16) * 16 + c.toNat % 16 = c.toNat := by omega
  have read := hexEscape_of_digits zero zero high low rest
  rw [value] at read
  rw [unicodeEscape, read]
  simp only [bind, Except.bind]
  rw [if_neg (by omega), if_pos (.inl (by omega)), Char.ofNat_toNat]

theorem characters_of_escape {text : List Char} (read : escape text = .ok (c, rest)) :
    characters (fuel + 1) done ('\\' :: text) = characters fuel (c :: done) rest := by
  simp [characters, read, bind, Except.bind]

/-- A character is read as it was written. -/
theorem characters_escapeChar (c : Char) (rest : List Char) :
    characters (fuel + 1) done (escapeChar c ++ rest) = characters fuel (c :: done) rest := by
  rw [escapeChar]
  split
  · next quote =>
    subst quote
    exact characters_of_escape rfl
  split
  · next backslash =>
    subst backslash
    exact characters_of_escape rfl
  split
  · next back =>
    subst back
    exact characters_of_escape rfl
  split
  · next feed =>
    subst feed
    exact characters_of_escape rfl
  split
  · next line =>
    subst line
    exact characters_of_escape rfl
  split
  · next carriage =>
    subst carriage
    exact characters_of_escape rfl
  split
  · next tab =>
    subst tab
    exact characters_of_escape rfl
  split
  · next control =>
    refine characters_of_escape ?_
    simp [escape, unicodeEscape_control control]
  · next quote backslash _ _ _ _ _ plain =>
    simp [characters, quote, backslash, plain]

theorem length_le_flatMap (s : List Char) : s.length ≤ (s.flatMap escapeChar).length := by
  induction s with
  | nil => exact Nat.le_refl 0
  | cons c s ih =>
    have some : 0 < (escapeChar c).length := by
      unfold escapeChar
      repeat' split
      all_goals simp
    rw [List.flatMap_cons, List.length_append, List.length_cons]
    omega

/-- The characters of a string are read up to its closing quote. -/
theorem characters_flatMap (s : List Char) (enough : s.length < fuel) :
    characters fuel done (s.flatMap escapeChar ++ '"' :: rest) =
      .ok (done.reverse ++ s, rest) := by
  induction s generalizing fuel done with
  | nil =>
    cases fuel with
    | zero => cases enough
    | succ fuel => simp [characters]
  | cons c s ih =>
    cases fuel with
    | zero => cases enough
    | succ fuel =>
      have shorter : s.length < fuel := Nat.lt_of_succ_lt_succ enough
      rw [List.flatMap_cons, List.append_assoc, characters_escapeChar, ih shorter,
        List.reverse_cons, List.append_assoc]
      rfl

/-- The rest of what is written for a string is read as that. -/
theorem stringTail_quote (s : String) (rest : List Char) :
    stringTail (s.toList.flatMap escapeChar ++ '"' :: rest) = .ok (s, rest) := by
  have enough : s.toList.length < (s.toList.flatMap escapeChar ++ '"' :: rest).length + 1 := by
    have written := length_le_flatMap s.toList
    rw [List.length_append]
    omega
  rw [stringTail, characters_flatMap _ enough]
  simp [bind, Except.bind]

/-- What is written for a string is read as that. -/
theorem valueWith_quote (nested : Option ValueReader) (s : String) (rest : List Char) :
    valueWith nested ('"' :: (s.toList.flatMap escapeChar ++ '"' :: rest)) =
      .ok (.string s, rest) := by
  simp [valueWith, skipBlanks, isDigit, stringTail_quote, Except.map]

end Collage.Json.Reader
