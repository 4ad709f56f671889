import Collage.Json.Printer
import Collage.Json.Reader

/-! # Integers in JSON

An integer is written as its decimal digits, behind a minus sign if it is negative.  The reader
takes the digits up to the first character that is none of a number (`Reader.Apart`), and finds the
integer that they are the digits of, since it fits 64 bits (`Reader.valueWith_whole`).
-/

namespace Collage.Json.Reader

/-- Nothing at the front of a text continues a number. -/
def Apart (rest : List Char) : Prop :=
  ∀ c, rest.head? = some c → isDigit c = false ∧ c ≠ '.' ∧ c ≠ 'e' ∧ c ≠ 'E'

theorem apart_nil : Apart [] := by
  intro c head
  cases head

theorem apart_cons {c : Char} (rest : List Char)
    (plain : isDigit c = false ∧ c ≠ '.' ∧ c ≠ 'e' ∧ c ≠ 'E') : Apart (c :: rest) := by
  intro d head
  cases head
  exact plain

variable {negative : Bool} {rest digits : List Char} {significand count n : Nat}

theorem Apart.any_isDigit (apart : Apart rest) : rest.head?.any isDigit = false := by
  cases head : rest.head? with
  | none => rfl
  | some c => exact (apart c head).1

/-! ## Digits -/

theorem isDigit_of_mem_toDigits {c : Char} (member : c ∈ Nat.toDigits 10 n) : isDigit c = true :=
  Nat.isDigit_of_mem_toDigits (by decide) (by decide) member

theorem ofDigitChars_cons (c : Char) (digits : List Char) (significand : Nat) :
    Nat.ofDigitChars 10 (c :: digits) significand =
      Nat.ofDigitChars 10 digits (significand * 10 + digitValue c) := by
  rw [Nat.ofDigitChars_cons, Nat.mul_comm, digitValue]

/-- More digits make no smaller number. -/
theorem le_ofDigitChars (digits : List Char) (significand : Nat) :
    significand ≤ Nat.ofDigitChars 10 digits significand := by
  induction digits generalizing significand with
  | nil => exact Nat.le_refl _
  | cons c rest ih =>
    rw [ofDigitChars_cons]
    exact Nat.le_trans (by omega) (ih _)

/-- Digits are taken up to the end of the number, if it fits 64 bits. -/
theorem takeDigits_append (all : ∀ c ∈ digits, isDigit c = true) (apart : Apart rest)
    (fits : Nat.ofDigitChars 10 digits significand < unsignedBound) :
    takeDigits significand count (digits ++ rest) =
      (Nat.ofDigitChars 10 digits significand, count + digits.length, rest) := by
  induction digits generalizing significand count with
  | nil =>
    cases rest with
    | nil => rfl
    | cons c rest => simp [takeDigits, (apart c rfl).1]
  | cons c digits ih =>
    obtain ⟨digit, all⟩ := List.forall_mem_cons.1 all
    rw [ofDigitChars_cons] at fits ⊢
    -- With one more digit the number is no greater than in the end, where it fits.
    have room : hasRoom significand c = true :=
      decide_eq_true (Nat.lt_of_le_of_lt (le_ofDigitChars digits _) fits)
    rw [List.cons_append, takeDigits, digit, room, Bool.and_self, if_pos rfl, ih all fits,
      List.length_cons, Nat.add_assoc, Nat.add_comm 1]

/-- A number that is not zero does not begin with the digit zero. -/
theorem head?_toDigits_ne (pos : 0 < n) : (Nat.toDigits 10 n).head? ≠ some '0' := by
  induction n using Nat.strongRecOn with
  | ind n ih =>
    rw [Nat.toDigits_eq_if (by decide)]
    split
    · intro zero
      exact absurd (Nat.digitChar_eq_zero.1 (Option.some.inj zero)) (by omega)
    · rw [List.head?_append, Option.or_of_isSome (by simp)]
      exact ih (n / 10) (by omega) (by omega)

/-! ## Integers -/

theorem numberTail_apart (apart : Apart rest) :
    numberTail negative n rest = .ok (numberTail.whole negative n, rest) := by
  cases rest with
  | nil => rfl
  | cons c rest =>
    obtain ⟨-, point, small, large⟩ := apart c rfl
    simp [numberTail, point, small, large]

/-- The digits of a number are read as this number. -/
theorem unsigned_toDigits (fits : n < unsignedBound) (apart : Apart rest) :
    unsigned negative (Nat.toDigits 10 n ++ rest) =
      .ok (numberTail.whole negative n, rest) := by
  -- Of all numbers only zero begins with the digit zero, and no digit may follow that.
  by_cases zero : n = 0
  · subst zero
    simp [unsigned, apart.any_isDigit, numberTail_apart apart]
  · have value : Nat.ofDigitChars 10 (Nat.toDigits 10 n) 0 = n := Nat.ofDigitChars_ten_toDigits
    have leading := head?_toDigits_ne (Nat.pos_of_ne_zero zero)
    have all : ∀ c ∈ Nat.toDigits 10 n, isDigit c = true := fun _ => isDigit_of_mem_toDigits
    cases written : Nat.toDigits 10 n with
    | nil => exact absurd written Nat.toDigits_ne_nil
    | cons c digits =>
      rw [written] at value leading all
      obtain ⟨digit, all⟩ := List.forall_mem_cons.1 all
      have nonzero : c ≠ '0' := fun same => leading (congrArg some same)
      rw [ofDigitChars_cons, Nat.zero_mul, Nat.zero_add] at value
      have taken : takeDigits (digitValue c) 1 (digits ++ rest) = (n, 1 + digits.length, rest) := by
        rw [takeDigits_append all apart (value.symm ▸ fits), value]
      simp [unsigned, nonzero, digit, taken, apart.any_isDigit, numberTail_apart apart]

theorem ofInt_value (w : Whole) : Number.ofInt w.value = .int w := by
  have inside : Whole.ofInt? w.value = some w := dif_pos ⟨w.le_value, w.value_lt⟩
  rw [Number.ofInt, inside]

theorem valueWith_digit {c : Char} (nested : Option ValueReader) (digit : isDigit c = true) :
    valueWith nested (c :: rest) =
      (unsigned false (c :: rest)).map fun (n, rest) => (.number n, rest) := by
  have other (d : Char) (none : isDigit d = false) : c ≠ d := by
    rintro rfl
    rw [digit] at none
    cases none
  simp [valueWith, skipBlanks, digit, other ' ' rfl, other '\n' rfl, other '\t' rfl,
    other '\r' rfl, other 'n' rfl, other 't' rfl, other 'f' rfl, other '-' rfl]

theorem valueWith_toDigits (nested : Option ValueReader) (fits : n < unsignedBound)
    (apart : Apart rest) :
    valueWith nested (Nat.toDigits 10 n ++ rest) = .ok (.number (.ofNat n), rest) := by
  have read : unsigned false (Nat.toDigits 10 n ++ rest) = .ok (numberTail.whole false n, rest) :=
    unsigned_toDigits fits apart
  cases written : Nat.toDigits 10 n with
  | nil => exact absurd written Nat.toDigits_ne_nil
  | cons c digits =>
    have digit : isDigit c = true :=
      isDigit_of_mem_toDigits (n := n) (written ▸ List.mem_cons_self)
    rw [written, List.cons_append] at read
    rw [List.cons_append, valueWith_digit nested digit, read, numberTail.whole,
      if_neg (by decide)]
    rfl

theorem valueWith_minus (nested : Option ValueReader) (text : List Char) :
    valueWith nested ('-' :: text) =
      (unsigned true text).map fun (n, rest) => (.number n, rest) := by
  simp [valueWith, skipBlanks]

/-- What is written for an integer is read as that. -/
theorem valueWith_whole (nested : Option ValueReader) (w : Whole) (apart : Apart rest) :
    valueWith nested ((Number.int w).text.toList ++ rest) = .ok (.number (.int w), rest) := by
  have same := ofInt_value w
  obtain ⟨least, most⟩ := And.intro w.le_value w.value_lt
  change valueWith nested ((Int.repr w.value).toList ++ rest) = _
  cases value : w.value with
  | ofNat n =>
    rw [value] at same most
    have written : (Int.repr (.ofNat n)).toList = Nat.toDigits 10 n := Nat.toList_repr
    rw [written, valueWith_toDigits nested (Int.ofNat_lt.1 most) apart, ← same]
    rfl
  | negSucc n =>
    rw [value] at same least
    have written : (Int.repr (.negSucc n)).toList = '-' :: Nat.toDigits 10 (n + 1) := by
      rw [Int.repr, String.toList_append, Nat.toList_repr]
      rfl
    -- The reader gives the sign to whatever is no greater than the least integer without it.
    have inside : n + 1 ≤ signedBound := by omega
    have fits : n + 1 < unsignedBound := Nat.lt_of_le_of_lt inside (by decide)
    have whole : numberTail.whole true (n + 1) = Number.ofInt (.negSucc n) := by
      rw [numberTail.whole, if_pos rfl, if_pos ⟨Nat.succ_pos n, inside⟩]
      rfl
    rw [written, List.cons_append, valueWith_minus, unsigned_toDigits fits apart, whole, same]
    rfl

end Collage.Json.Reader
