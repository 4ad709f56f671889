import Mathlib
import Collage.Json.Number

/-! # Integers as doubles

Doubles other than NaN are in one line (`Double.lt_iff`), in which the double of a greater integer
never stands before that of a smaller one (`Whole.not_toFloat_lt`).  Integers of a size up to
`2 ^ 53` have doubles of their own (`Whole.toFloat_lt`); beyond that two integers may share one.
-/

namespace Collage

namespace Double

open Float.Model Float.Model.UnpackedFloat

/-! ## Rounding -/

/-- A natural number without its last `d` binary digits, rounded to the nearest number, and from
the middle to the even one. -/
def nearest (m d : Nat) : Nat :=
  if 2 * (m % 2 ^ d) < 2 ^ d then m / 2 ^ d
  else if 2 * (m % 2 ^ d) = 2 ^ d then m / 2 ^ d + m / 2 ^ d % 2
  else m / 2 ^ d + 1

theorem nearest_bounds (m d : Nat) : m / 2 ^ d ≤ nearest m d ∧ nearest m d ≤ m / 2 ^ d + 1 := by
  unfold nearest
  split
  · omega
  · split <;> omega

theorem nearest_mul (m d : Nat) : nearest (m * 2 ^ d) d = m := by
  simp [nearest]

theorem nearest_scale (m d e : Nat) : nearest (m * 2 ^ e) (d + e) = nearest m d := by
  have positive : 0 < 2 ^ e := Nat.two_pow_pos e
  have quotient : m * 2 ^ e / (2 ^ d * 2 ^ e) = m / 2 ^ d := Nat.mul_div_mul_right _ _ positive
  have remainder : m * 2 ^ e % (2 ^ d * 2 ^ e) = m % 2 ^ d * 2 ^ e := Nat.mul_mod_mul_right _ _ _
  have less : 2 * (m % 2 ^ d * 2 ^ e) < 2 ^ d * 2 ^ e ↔ 2 * (m % 2 ^ d) < 2 ^ d := by
    rw [← Nat.mul_assoc, Nat.mul_lt_mul_right positive]
  have same : 2 * (m % 2 ^ d * 2 ^ e) = 2 ^ d * 2 ^ e ↔ 2 * (m % 2 ^ d) = 2 ^ d := by
    rw [← Nat.mul_assoc, Nat.mul_left_inj (by omega)]
  simp only [nearest, Nat.pow_add, quotient, remainder, less, same]

theorem nearest_mono {m n : Nat} (le : m ≤ n) (d : Nat) : nearest m d ≤ nearest n d := by
  have quotients : m / 2 ^ d ≤ n / 2 ^ d := Nat.div_le_div_right le
  have left := Nat.div_add_mod m (2 ^ d)
  have right := Nat.div_add_mod n (2 ^ d)
  -- Numbers of different quotients are a whole step apart, which rounding up does not pass.
  by_cases same : m / 2 ^ d = n / 2 ^ d
  · rw [same] at left
    unfold nearest
    rw [same]
    split <;> split <;> (try split) <;> (try split) <;> omega
  · have bound := (nearest_bounds m d).2
    have bound' := (nearest_bounds n d).1
    omega

/-- What is left of `m` after `d` shifts: of the digits that went, the first and whether any other
was set. -/
def shifted (m d : Nat) : ExtendedMantissa :=
  ⟨m / 2 ^ d, decide (2 ^ d ≤ 2 * (m % 2 ^ d)),
    decide (2 * (m % 2 ^ d) ≠ 0 ∧ 2 * (m % 2 ^ d) ≠ 2 ^ d)⟩

theorem shiftRight_eq (m d : Nat) :
    ExtendedMantissa.ofMantissaAndAccuracy m .exact >>> d = shifted m d := by
  change Nat.repeat ExtendedMantissa.shiftRightOne d ⟨m, false, false⟩ = shifted m d
  induction d with
  | zero => simp [Nat.repeat, shifted, Nat.mod_one]
  | succ d ih =>
    have positive : 0 < 2 ^ d := Nat.two_pow_pos d
    have small : m % 2 ^ d < 2 ^ d := Nat.mod_lt m positive
    have remainder : m % (2 ^ d * 2) = m % 2 ^ d + 2 ^ d * (m / 2 ^ d % 2) := Nat.mod_mul
    have quotient : m / (2 ^ d * 2) = m / 2 ^ d / 2 := (Nat.div_div_eq_div_mul _ _ _).symm
    have digit := Nat.mod_two_eq_zero_or_one (m / 2 ^ d)
    rw [Nat.repeat, ih]
    simp only [ExtendedMantissa.shiftRightOne, shifted, Nat.pow_succ, remainder, quotient]
    -- The digit that goes weighs more than all that went before it.
    have round : (m / 2 ^ d % 2 != 0) =
        decide (2 ^ d * 2 ≤ 2 * (m % 2 ^ d + 2 ^ d * (m / 2 ^ d % 2))) := by
      cases digit with
      | inl even => simp [even]; omega
      | inr odd => simp [odd]; omega
    have rest : (decide (2 ^ d ≤ 2 * (m % 2 ^ d)) ||
          decide (2 * (m % 2 ^ d) ≠ 0 ∧ 2 * (m % 2 ^ d) ≠ 2 ^ d)) =
        decide (2 * (m % 2 ^ d + 2 ^ d * (m / 2 ^ d % 2)) ≠ 0 ∧
          2 * (m % 2 ^ d + 2 ^ d * (m / 2 ^ d % 2)) ≠ 2 ^ d * 2) := by
      rw [Bool.eq_iff_iff, Bool.or_eq_true, decide_eq_true_eq, decide_eq_true_eq,
        decide_eq_true_eq]
      cases digit with
      | inl even => rw [even]; omega
      | inr odd => rw [odd]; omega
    rw [round, rest]

theorem roundedMantissa_shifted (m d : Nat) : (shifted m d).roundedMantissa = nearest m d := by
  unfold shifted ExtendedMantissa.roundedMantissa nearest
  by_cases half : 2 ^ d ≤ 2 * (m % 2 ^ d)
  · by_cases middle : 2 * (m % 2 ^ d) = 2 ^ d
    · simp [middle, ExtendedMantissa.accuracy, Accuracy.roundToNearestEven]
    · have positive : 0 < 2 ^ d := Nat.two_pow_pos d
      have above : ¬ 2 * (m % 2 ^ d) < 2 ^ d := by omega
      have rest : m % 2 ^ d ≠ 0 := by omega
      simp [half, middle, above, rest, ExtendedMantissa.accuracy, Accuracy.roundToNearestEven]
  · have below : 2 * (m % 2 ^ d) < 2 ^ d := by omega
    by_cases rest : m % 2 ^ d = 0
    · simp [rest, ExtendedMantissa.accuracy, Accuracy.roundToNearestEven]
    · have middle : 2 * (m % 2 ^ d) ≠ 2 ^ d := by omega
      simp [half, below, rest, middle, ExtendedMantissa.accuracy, Accuracy.roundToNearestEven]

/-! ## The double of an integer -/

/-- The significand of the double nearest to a natural number, before a digit is carried: a number
of 53 binary digits, or the first one that has 54. -/
def significand (n : Nat) : Nat := nearest (n * 2 ^ 52) n.log2

variable {n : Nat}

theorem significand_bounds (positive : 0 < n) :
    2 ^ 52 ≤ significand n ∧ significand n ≤ 2 ^ 53 := by
  have least : 2 ^ n.log2 ≤ n := Nat.log2_self_le (by omega)
  have most : n < 2 ^ (n.log2 + 1) := Nat.lt_log2_self
  have bounds := nearest_bounds (n * 2 ^ 52) n.log2
  have lower : 2 ^ 52 ≤ n * 2 ^ 52 / 2 ^ n.log2 := by
    rw [Nat.le_div_iff_mul_le (Nat.two_pow_pos _), Nat.mul_comm]
    exact Nat.mul_le_mul_right _ least
  have upper : n * 2 ^ 52 / 2 ^ n.log2 < 2 ^ 53 := by
    rw [Nat.div_lt_iff_lt_mul (Nat.two_pow_pos _)]
    have power : 2 ^ 53 * 2 ^ n.log2 = 2 ^ (n.log2 + 1) * 2 ^ 52 := by ring
    rw [power]
    exact Nat.mul_lt_mul_of_pos_right most (by decide)
  unfold significand
  omega

/-- A number of up to 53 digits is its own significand. -/
theorem significand_of_small (small : n.log2 ≤ 52) : significand n = n * 2 ^ (52 - n.log2) := by
  have power : n * 2 ^ 52 = n * 2 ^ (52 - n.log2) * 2 ^ n.log2 := by
    rw [Nat.mul_assoc, ← Nat.pow_add]
    congr 2
    omega
  rw [significand, power, nearest_mul]

theorem significand_of_large (large : 52 < n.log2) : significand n = nearest n (n.log2 - 52) := by
  have digits : n.log2 = n.log2 - 52 + 52 := by omega
  rw [significand, digits, nearest_scale]
  rfl

theorem targetExponent_whole (m : Nat) (e : Int) (low : -1074 ≤ m.log2 + e - 52) :
    Format.binary64.targetExponent (totalExponent m e) = m.log2 + e - 52 := by
  simp only [Format.targetExponent, totalExponent, Format.mantissaBits, Format.minExponent]
  norm_num
  omega

theorem shiftToTargetExponent_whole (m : Nat) (e : Int) (low : -1074 ≤ m.log2 + e - 52) :
    shiftToTargetExponent .binary64 m e .exact =
      (shifted m (m.log2 - 52), e + (m.log2 - 52 : Nat)) := by
  have amount : ((m.log2 : Int) + e - 52 - e).toNat = m.log2 - 52 := by omega
  simp only [shiftToTargetExponent, targetExponent_whole m e low, shiftToExponent, amount,
    shiftRight_eq]

theorem log2_mul_two_pow (positive : 0 < n) (d : Nat) : (n * 2 ^ d).log2 = n.log2 + d := by
  induction d with
  | zero => simp
  | succ d ih =>
    have nonzero : n * 2 ^ d ≠ 0 := by positivity
    have double : n * 2 ^ (d + 1) = 2 * (n * 2 ^ d) := by ring
    rw [double, Nat.log2_two_mul nonzero, ih, Nat.add_assoc]

theorem roundWithAccuracy_eq {s : Sign} {m r : Nat} {e : Int}
    (low : -1074 ≤ m.log2 + e - 52) (rounded : nearest m (m.log2 - 52) = r) (least : 2 ^ 52 ≤ r) :
    ∃ positive, roundWithAccuracy .binary64 s m e .exact =
      .finite s (r / 2 ^ (r.log2 - 52)) (e + (m.log2 - 52 : Nat) + (r.log2 - 52 : Nat))
        positive := by
  -- It is shifted twice: to 53 digits, and once more where rounding has carried a digit.
  have length : 52 ≤ r.log2 := (Nat.le_log2 (by omega)).2 least
  have remains : 0 < r / 2 ^ (r.log2 - 52) := by
    apply Nat.div_pos _ (Nat.two_pow_pos _)
    exact Nat.le_trans (Nat.pow_le_pow_right (by decide) (by omega)) (Nat.log2_self_le (by omega))
  have first := shiftToTargetExponent_whole m e low
  have second := shiftToTargetExponent_whole r (e + (m.log2 - 52 : Nat)) (by omega)
  have nonzero : (shifted r (r.log2 - 52)).mantissa ≠ 0 := Nat.ne_of_gt remains
  refine ⟨remains, ?_⟩
  simp only [roundWithAccuracy, first, roundedMantissa_shifted, rounded, second, nonzero, dif_neg,
    not_false_eq_true]
  rfl

/-- The 53 binary digits of the double nearest to `n`. -/
def mantissa (n : Nat) : Nat := significand n / 2 ^ ((significand n).log2 - 52)

def exponent (n : Nat) : Int := n.log2 - 52 + ((significand n).log2 - 52 : Nat)

theorem round_whole (s : Sign) (positive : 0 < n) :
    ∃ nonzero, UnpackedFloat.round .binary64 s n 0 =
      .finite s (mantissa n) (exponent n) nonzero := by
  have digits := log2_mul_two_pow positive (52 - n.log2)
  -- A short number is first padded with zeros, so that nothing is lost of it.
  have rounded : nearest (n * 2 ^ (52 - n.log2)) (n.log2 + (52 - n.log2) - 52) = significand n := by
    by_cases small : n.log2 ≤ 52
    · have none : n.log2 + (52 - n.log2) - 52 = 0 := by omega
      rw [significand_of_small small, none]
      simpa using nearest_mul (n * 2 ^ (52 - n.log2)) 0
    · have none : 52 - n.log2 = 0 := by omega
      rw [significand_of_large (by omega), none]
      simp
  rw [← digits] at rounded
  have padding : (0 - ((n.log2 : Int) + 0 - 52)).toNat = 52 - n.log2 := by omega
  obtain ⟨nonzero, eq⟩ := roundWithAccuracy_eq (s := s) (e := 0 - (52 - n.log2 : Nat)) (by omega)
    rounded (significand_bounds positive).1
  have place : 0 - ((52 - n.log2 : Nat) : Int) + ((n * 2 ^ (52 - n.log2)).log2 - 52 : Nat) =
      n.log2 - 52 := by omega
  simp only [UnpackedFloat.round, targetExponent_whole n 0 (by omega), decreaseExponent, padding,
    Nat.shiftLeft_eq]
  rw [eq]
  simp only [place]
  exact ⟨nonzero, rfl⟩

theorem log2_le_log2 {m : Nat} (positive : 0 < m) (le : m ≤ n) : m.log2 ≤ n.log2 :=
  (Nat.le_log2 (by omega)).2 (Nat.le_trans (Nat.log2_self_le (by omega)) le)

/-- A digit is carried exactly where the significand has come to its bound. -/
theorem carry_cases (positive : 0 < n) :
    (significand n < 2 ^ 53 ∧ mantissa n = significand n ∧ exponent n = n.log2 - 52) ∨
      (significand n = 2 ^ 53 ∧ mantissa n = 2 ^ 52 ∧ exponent n = n.log2 - 51) := by
  have bounds := significand_bounds positive
  by_cases fits : significand n < 2 ^ 53
  · have length : (significand n).log2 = 52 := (Nat.log2_eq_iff (by omega)).2 ⟨bounds.1, fits⟩
    exact .inl ⟨fits, by simp [mantissa, length], by simp [exponent, length]⟩
  · have carried : significand n = 2 ^ 53 := by omega
    have length : (significand n).log2 = 53 := by rw [carried, Nat.log2_two_pow]
    refine .inr ⟨carried, ?_, ?_⟩
    · rw [mantissa, length, carried]
      decide
    · simp only [exponent, length]
      omega

theorem mantissa_bounds (positive : 0 < n) : 2 ^ 52 ≤ mantissa n ∧ mantissa n < 2 ^ 53 := by
  have bounds := significand_bounds positive
  have cases := carry_cases positive
  omega

/-- A greater number has no smaller double. -/
theorem nearest_le {m : Nat} (positive : 0 < m) (le : m ≤ n) :
    exponent m < exponent n ∨ exponent m = exponent n ∧ mantissa m ≤ mantissa n := by
  have positive' : 0 < n := by omega
  have lengths := log2_le_log2 positive le
  have cases := carry_cases positive
  have cases' := carry_cases positive'
  have bounds := mantissa_bounds positive'
  -- A shorter number catches up only by a carried digit, and then its digits are the least ones.
  by_cases same : m.log2 = n.log2
  · have significands : significand m ≤ significand n := by
      unfold significand
      rw [same]
      exact nearest_mono (Nat.mul_le_mul_right _ le) _
    omega
  · omega

/-- Up to `2 ^ 53` every number has a double of its own. -/
theorem nearest_lt {m : Nat} (positive : 0 < m) (lt : m < n) (small : n ≤ 2 ^ 53) :
    exponent m < exponent n ∨ exponent m = exponent n ∧ mantissa m < mantissa n := by
  have positive' : 0 < n := by omega
  have lengths := log2_le_log2 positive (Nat.le_of_lt lt)
  have short : m.log2 ≤ 52 := by
    have below : m.log2 < 53 := (Nat.log2_lt (by omega)).2 (by omega)
    omega
  have most : m < 2 ^ (m.log2 + 1) := Nat.lt_log2_self
  have exact := significand_of_small short
  have fits : m * 2 ^ (52 - m.log2) < 2 ^ 53 := by
    have power : (2 : Nat) ^ 53 = 2 ^ (m.log2 + 1) * 2 ^ (52 - m.log2) := by
      rw [← Nat.pow_add]
      congr 1
      omega
    rw [power]
    exact Nat.mul_lt_mul_of_pos_right most (Nat.two_pow_pos _)
  have cases := carry_cases positive
  have cases' := carry_cases positive'
  by_cases same : m.log2 = n.log2
  · have exact' := significand_of_small (same ▸ short)
    have significands : significand m < significand n := by
      rw [exact, exact', same]
      exact Nat.mul_lt_mul_of_pos_right lt (Nat.two_pow_pos _)
    omega
  · omega

theorem exponent_bounds (positive : 0 < n) (small : n < 2 ^ 64) :
    -52 ≤ exponent n ∧ exponent n ≤ 12 := by
  have length : n.log2 < 64 := (Nat.log2_lt (by omega)).2 small
  have cases := carry_cases positive
  omega

/-! ## The bits of a double -/

theorem toNat_append_one (v : BitVec 52) : (1#1 ++ v).toNat = 2 ^ 52 + v.toNat := by
  rw [BitVec.toNat_append, ← Nat.shiftLeft_add_eq_or_of_lt v.isLt]
  simp [Nat.shiftLeft_eq]

/-- A significand of 53 digits is found again in the bits of a double. -/
theorem unpack_pack {s : Sign} {m : Nat} {e : Int} {positive : 0 < m} (least : 2 ^ 52 ≤ m)
    (most : m < 2 ^ 53) (low : -1074 ≤ e) (high : e ≤ 971) :
    (Float.Model.pack (.finite s m e positive)).unpack = .finite s m e positive := by
  have length : m.log2 = 52 := (Nat.log2_eq_iff (by omega)).2 ⟨least, most⟩
  have bias : (Format.binary64.exponentBias : Int) = 1023 := rfl
  have field : (e + 1023 + 52).toNat < 2 ^ 11 := by omega
  have packed : UnpackedFloat.pack .binary64 (.finite s m e positive) =
      packComponents .binary64 s (BitVec.ofNat 11 (e + 1023 + 52).toNat) (BitVec.ofNat 52 m) := by
    simp only [UnpackedFloat.pack, length, bias]
    rw [if_neg (by simp; omega), if_pos (by rfl)]
    rfl
  -- An exponent of ones only would be an infinity or NaN, one of zeros only a number without the
  -- first digit.
  have ones : BitVec.ofNat 11 (e + 1023 + 52).toNat ≠ -1#11 := by
    intro same
    have value := congrArg BitVec.toNat same
    simp [BitVec.toNat_ofNat] at value
    omega
  have zeros : BitVec.ofNat 11 (e + 1023 + 52).toNat ≠ 0#11 := by
    intro same
    have value := congrArg BitVec.toNat same
    simp [BitVec.toNat_ofNat] at value
    omega
  have digits : (1#1 ++ BitVec.ofNat 52 m).toNat = m := by
    rw [toNat_append_one, BitVec.toNat_ofNat]
    omega
  have place : ((BitVec.ofNat 11 (e + 1023 + 52).toNat).toNat : Int) - (1023 + 52) = e := by
    rw [BitVec.toNat_ofNat, Nat.mod_eq_of_lt field]
    omega
  simp only [Float.Model.unpack, Float.Model.pack, packed, UnpackedFloat.unpack,
    unpackMantissa_packComponents, unpackExponent_packComponents, unpackSign_packComponents,
    Sign.ofBitVec_toBitVec, bias]
  rw [if_neg ones, if_neg zeros]
  simp only [UnpackedFloat.finite.injEq, digits, true_and]
  simpa using place

/-! ## The order of doubles -/

/-- Where a double stands among all others: by its sign, its exponent and its significand. -/
def rank : UnpackedFloat → Int ×ₗ Int ×ₗ Int
  | .infinity .negative => toLex (-2, toLex (0, 0))
  | .finite .negative m e _ => toLex (-1, toLex (-e, -m))
  | .zero _ | .notANumber => toLex (0, toLex (0, 0))
  | .finite .positive m e _ => toLex (1, toLex (e, m))
  | .infinity .positive => toLex (2, toLex (0, 0))

theorem then_eq_lt_iff {e f : Int} {m n : Nat} :
    (compare e f).then (compare m n) = .lt ↔ e < f ∨ e = f ∧ m < n := by
  simp [Ordering.then_eq_lt, compare_lt_iff_lt]

theorem then_eq_gt_iff {e f : Int} {m n : Nat} :
    (compare e f).then (compare m n) = .gt ↔ f < e ∨ e = f ∧ n < m := by
  simp [Ordering.then_eq_gt, compare_gt_iff_gt]

theorem lt_iff_rank {u v : UnpackedFloat} (left : u ≠ .notANumber) (right : v ≠ .notANumber) :
    u.lt v = true ↔ rank u < rank v := by
  cases u with
  | notANumber => exact absurd rfl left
  | infinity s =>
    cases v with
    | notANumber => exact absurd rfl right
    | infinity t => cases s <;> cases t <;> decide
    | zero t => cases s <;> cases t <;> decide
    | finite t n f _ =>
      cases s <;> cases t <;>
        simp [UnpackedFloat.lt, UnpackedFloat.compare, rank, Prod.Lex.toLex_lt_toLex]
  | zero s =>
    cases v with
    | notANumber => exact absurd rfl right
    | infinity t => cases s <;> cases t <;> decide
    | zero t => cases s <;> cases t <;> decide
    | finite t n f _ =>
      cases s <;> cases t <;>
        simp [UnpackedFloat.lt, UnpackedFloat.compare, rank, Prod.Lex.toLex_lt_toLex]
  | finite s m e _ =>
    cases v with
    | notANumber => exact absurd rfl right
    | infinity t =>
      cases s <;> cases t <;>
        simp [UnpackedFloat.lt, UnpackedFloat.compare, rank, Prod.Lex.toLex_lt_toLex]
    | zero t =>
      cases s <;> cases t <;>
        simp [UnpackedFloat.lt, UnpackedFloat.compare, rank, Prod.Lex.toLex_lt_toLex]
    | finite t n f _ =>
      cases s <;> cases t <;>
        simp [UnpackedFloat.lt, UnpackedFloat.compare, rank, Prod.Lex.toLex_lt_toLex,
          then_eq_lt_iff, then_eq_gt_iff, Ordering.swap_eq_lt]

theorem not_lt_notANumber (u : UnpackedFloat) : u.lt .notANumber = false := by
  cases u <;> rfl

theorem not_notANumber_lt (v : UnpackedFloat) : UnpackedFloat.notANumber.lt v = false := by
  cases v <;> rfl

theorem isNaN_eq_true_iff {x : Float} : x.isNaN = true ↔ x.toModel.unpack = .notANumber :=
  isNaN_iff

theorem lt_iff_unpack {x y : Float} : x < y ↔ x.toModel.unpack.lt y.toModel.unpack = true := by
  change decide (x.toModel < y.toModel) = true ↔ _
  rw [decide_eq_true_eq]
  rfl

/-- Of two doubles one is less exactly if neither is NaN and they stand in that order. -/
theorem lt_iff {x y : Float} :
    x < y ↔ x.isNaN = false ∧ y.isNaN = false ∧
      rank x.toModel.unpack < rank y.toModel.unpack := by
  rw [lt_iff_unpack]
  by_cases left : x.toModel.unpack = .notANumber
  · simp only [isNaN_eq_true_iff.2 left, left, not_notANumber_lt, Bool.false_eq_true,
      Bool.true_eq_false, false_and]
  · by_cases right : y.toModel.unpack = .notANumber
    · simp only [isNaN_eq_true_iff.2 right, right, not_lt_notANumber, Bool.false_eq_true,
        Bool.true_eq_false, false_and, and_false]
    · have number : x.isNaN = false := Bool.eq_false_iff.2 (mt isNaN_eq_true_iff.1 left)
      have number' : y.isNaN = false := Bool.eq_false_iff.2 (mt isNaN_eq_true_iff.1 right)
      simp only [number, number', lt_iff_rank left right, true_and]

/-! ## Integers among doubles -/

theorem unpack_toFloat (positive : 0 < n) (small : n < 2 ^ 64) :
    ∃ nonzero, (UInt64.ofNat n).toFloat.toModel.unpack =
      .finite .positive (mantissa n) (exponent n) nonzero := by
  obtain ⟨nonzero, rounded⟩ := round_whole .positive positive
  have same : (UInt64.ofNat n).toNat = n := by
    rw [UInt64.toNat_ofNat', Nat.mod_eq_of_lt small]
  have greater : compare (n : Int) 0 = .gt := by
    rw [compare_gt_iff_gt]
    omega
  have bounds := mantissa_bounds positive
  have range := exponent_bounds positive small
  refine ⟨nonzero, ?_⟩
  rw [UInt64.toFloat, Float.Model.ofUInt64, UnpackedFloat.ofUInt64, UnpackedFloat.ofNat,
    UnpackedFloat.ofInt, UnpackedFloat.normalize, same]
  simp only [greater, Int.toNat_natCast, rounded]
  exact unpack_pack bounds.1 bounds.2 (by omega) (by omega)

theorem unpack_neg_toFloat (positive : 0 < n) (small : n < 2 ^ 64) :
    ∃ nonzero, (-(UInt64.ofNat n).toFloat).toModel.unpack =
      .finite .negative (mantissa n) (exponent n) nonzero := by
  obtain ⟨nonzero, eq⟩ := unpack_toFloat positive small
  have bounds := mantissa_bounds positive
  have range := exponent_bounds positive small
  refine ⟨nonzero, ?_⟩
  change (Float.Model.pack (UnpackedFloat.neg (UInt64.ofNat n).toFloat.toModel.unpack)).unpack = _
  rw [eq]
  exact unpack_pack bounds.1 bounds.2 (by omega) (by omega)

/-- Where an integer stands as a double. -/
def place (i : Int) : Int ×ₗ Int ×ₗ Int :=
  if 0 < i then toLex (1, toLex (exponent i.toNat, (mantissa i.toNat : Int)))
  else if i < 0 then toLex (-1, toLex (-exponent (-i).toNat, -(mantissa (-i).toNat : Int)))
  else toLex (0, toLex (0, 0))

theorem place_mono {i j : Int} (le : i ≤ j) : place i ≤ place j := by
  -- Below zero the order of the sizes is turned round.
  by_cases left : 0 < i
  · have right : 0 < j := by omega
    have nearest := nearest_le (m := i.toNat) (n := j.toNat) (by omega) (by omega)
    simp [place, left, right, Prod.Lex.toLex_le_toLex]
    omega
  · by_cases right : j < 0
    · have nearest := nearest_le (m := (-j).toNat) (n := (-i).toNat) (by omega) (by omega)
      have left' : i < 0 := by omega
      have right' : ¬ 0 < j := by omega
      simp [place, left, left', right, right', Prod.Lex.toLex_le_toLex]
      omega
    · -- One of the two is zero, or the signs differ.
      by_cases below : i < 0 <;> by_cases above : 0 < j
      all_goals simp [place, left, right, below, above, Prod.Lex.toLex_le_toLex]

theorem place_lt {i j : Int} (lt : i < j) (low : -2 ^ 53 ≤ i) (high : j ≤ 2 ^ 53) :
    place i < place j := by
  by_cases left : 0 < i
  · have right : 0 < j := by omega
    have nearest := nearest_lt (m := i.toNat) (n := j.toNat) (by omega) (by omega) (by omega)
    simp [place, left, right, Prod.Lex.toLex_lt_toLex]
    omega
  · by_cases right : j < 0
    · have nearest := nearest_lt (m := (-j).toNat) (n := (-i).toNat) (by omega) (by omega)
        (by omega)
      have left' : i < 0 := by omega
      have right' : ¬ 0 < j := by omega
      simp [place, left, left', right, right', Prod.Lex.toLex_lt_toLex]
      omega
    · by_cases below : i < 0 <;> by_cases above : 0 < j
      all_goals first | omega | simp [place, left, right, below, above, Prod.Lex.toLex_lt_toLex]

end Double

namespace Whole

open Double

theorem rank_toFloat (w : Whole) :
    w.toFloat.isNaN = false ∧ rank w.toFloat.toModel.unpack = place w.value := by
  have low := w.le_value
  have high := w.value_lt
  simp only [signedBound, unsignedBound] at low high
  rw [Bool.eq_false_iff, ne_eq, isNaN_eq_true_iff]
  by_cases positive : 0 < w.value
  · have sign : 0 ≤ w.value := by omega
    obtain ⟨nonzero, eq⟩ := unpack_toFloat (n := w.value.toNat) (by omega) (by omega)
    rw [toFloat, if_pos sign, eq, place, if_pos positive]
    exact ⟨by simp, rfl⟩
  · by_cases negative : w.value < 0
    · have sign : ¬ 0 ≤ w.value := by omega
      obtain ⟨nonzero, eq⟩ := unpack_neg_toFloat (n := (-w.value).toNat) (by omega) (by omega)
      rw [toFloat, if_neg sign, eq, place, if_neg positive, if_pos negative]
      exact ⟨by simp, rfl⟩
    · have zero : w.value = 0 := by omega
      have eq : (UInt64.ofNat 0).toFloat.toModel.unpack = .zero .positive := rfl
      rw [toFloat, zero, place, if_pos (Int.le_refl 0), Int.toNat_zero, eq]
      exact ⟨by simp, rfl⟩

variable {v w : Whole}

theorem toFloat_lt_iff : v.toFloat < w.toFloat ↔ place v.value < place w.value := by
  simp only [lt_iff, rank_toFloat, true_and]

theorem not_toFloat_lt (le : v.value ≤ w.value) : ¬ w.toFloat < v.toFloat := by
  rw [toFloat_lt_iff]
  exact not_lt_of_ge (place_mono le)

theorem toFloat_lt (lt : v.value < w.value) (low : -2 ^ 53 ≤ v.value) (high : w.value ≤ 2 ^ 53) :
    v.toFloat < w.toFloat :=
  toFloat_lt_iff.2 (place_lt lt low high)

end Whole

end Collage
