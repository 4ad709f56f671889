import Collage.Library.Stock

/-! # Filters that take an amount

An amount is an integer of 64 bits with a sign.  `sub` is exact on every integer that has such a
sign, and never on those above (`sub_exact_iff`).  `prefix` and `suffix` cut a text between two of
its characters, at any amount (`parts_fit`).
-/

namespace Collage.Library

variable {args args' : Arguments} {filter : String} {n m : Int}

/-! ## Amounts -/

/-- The argument `n` is an integer of 64 bits with a sign. -/
def Gives (args : Arguments) (n : Int) : Prop :=
  ∃ w : Whole, args.lookup "n" = some (.number (.int w)) ∧ w.isSigned = true ∧ w.value = n

theorem intArgument?_of_gives (given : Gives args n) :
    intArgument? filter "n" args = .ok (some n) := by
  obtain ⟨w, found, signed, rfl⟩ := given
  simp [intArgument?, found, Number.signed?, signed]

theorem intArgument_of_gives (given : Gives args n) : intArgument filter "n" args = .ok n := by
  rw [intArgument, intArgument?_of_gives given]
  rfl

/-- An argument that is refused is not an integer. -/
theorem intArgument_cases (filter : String) (args : Arguments) :
    (∃ n, Gives args n ∧ intArgument filter "n" args = .ok n) ∨
      intArgument filter "n" args = .error (.needs filter "an integer" "n") := by
  cases found : args.lookup "n" with
  | none =>
    right
    simp only [intArgument, intArgument?, found]
    rfl
  | some value =>
    cases value with
    | number number =>
      cases number with
      | int w =>
        by_cases signed : w.isSigned = true
        · have given : Gives args w.value := ⟨w, found, signed, rfl⟩
          exact .inl ⟨w.value, given, intArgument_of_gives given⟩
        · right
          simp only [intArgument, intArgument?, found, Number.signed?, signed]
          rfl
      | double x =>
        right
        simp only [intArgument, intArgument?, found, Number.signed?]
        rfl
    | _ =>
      right
      simp only [intArgument, intArgument?, found]
      rfl

/-! ## Differences -/

/-- What `sub` takes away: the argument `n`, or 1 if there is none. -/
def Subtracts (args : Arguments) (n : Int) : Prop :=
  args.lookup "n" = none ∧ n = 1 ∨ Gives args n

/-- A result is an integer of this value, or an error. -/
def IsExact (difference : Int) : Except Refusal Json → Prop
  | .ok value => ∃ w : Whole, value = .number (.int w) ∧ w.value = difference
  | .error _ => True

theorem intArgument?_of_subtracts (subtracts : Subtracts args n) :
    ∃ given, intArgument? "sub" "n" args = .ok given ∧ given.getD 1 = n := by
  cases subtracts with
  | inl absent => exact ⟨none, by simp [intArgument?, absent.1], absent.2.symm⟩
  | inr given => exact ⟨some n, intArgument?_of_gives given, rfl⟩

variable {v : Whole}

/-- The difference is told, or it does not fit 64 bits with a sign. -/
theorem sub_of_signed (subtracts : Subtracts args n) (signed : v.value < signedBound) :
    (∃ w : Whole, w.value = v.value - n ∧ w.value < signedBound ∧
        sub (.number (.int v)) args = .ok (.number (.int w))) ∨
      (¬ (-(signedBound : Int) ≤ v.value - n ∧ v.value - n < signedBound) ∧
        sub (.number (.int v)) args = .error (.overflow "sub")) := by
  obtain ⟨given, read, rfl⟩ := intArgument?_of_subtracts subtracts
  have whole : (Number.int v).signed? = some v.value := by
    apply if_pos
    simpa [Whole.isSigned] using signed
  -- What is too large for a sign may still fit without one; it is refused all the same.
  by_cases fits : -(signedBound : Int) ≤ v.value - given.getD 1 ∧
      v.value - given.getD 1 < unsignedBound
  · have difference : Whole.ofInt? (v.value - given.getD 1) =
        some ⟨v.value - given.getD 1, fits.1, fits.2⟩ := dif_pos fits
    by_cases below : v.value - given.getD 1 < signedBound
    · left
      refine ⟨⟨v.value - given.getD 1, fits.1, fits.2⟩, rfl, below, ?_⟩
      simp [sub, read, whole, difference, bind, Except.bind, Whole.isSigned, below]
    · right
      refine ⟨fun range => below range.2, ?_⟩
      simp [sub, read, whole, difference, bind, Except.bind, Whole.isSigned, below]
  · right
    have difference : Whole.ofInt? (v.value - given.getD 1) = none := dif_neg fits
    refine ⟨?_, by simp [sub, read, whole, difference, bind, Except.bind]⟩
    intro range
    apply fits
    simp only [signedBound, unsignedBound] at range ⊢
    omega

theorem sub_of_unsigned (subtracts : Subtracts args n) (unsigned : signedBound ≤ v.value) :
    sub (.number (.int v)) args = .ok (.number (.double (v.toFloat - Float.ofInt n))) := by
  obtain ⟨given, read, rfl⟩ := intArgument?_of_subtracts subtracts
  have whole : (Number.int v).signed? = none := by
    apply if_neg
    rw [Whole.isSigned, decide_eq_true_eq]
    omega
  simp only [sub, read, whole, bind, Except.bind, Number.toFloat]

/-- A difference is exact from every integer that 64 bits with a sign hold, where it is told or
refused as too large.  From an integer above those it is a double, whatever is taken away. -/
theorem sub_exact_iff (subtracts : Subtracts args n) (v : Whole) :
    (IsExact (v.value - n) (sub (.number (.int v)) args) ↔ v.value < signedBound) ∧
      (v.value < signedBound →
        (∃ w : Whole, w.value = v.value - n ∧ w.value < signedBound ∧
            sub (.number (.int v)) args = .ok (.number (.int w))) ∨
          (¬ (-(signedBound : Int) ≤ v.value - n ∧ v.value - n < signedBound) ∧
            sub (.number (.int v)) args = .error (.overflow "sub"))) ∧
      (signedBound ≤ v.value →
        sub (.number (.int v)) args = .ok (.number (.double (v.toFloat - Float.ofInt n)))) := by
  refine ⟨?_, sub_of_signed subtracts, sub_of_unsigned subtracts⟩
  by_cases signed : v.value < signedBound
  · refine iff_of_true ?_ signed
    cases sub_of_signed subtracts signed with
    | inl told =>
      obtain ⟨w, difference, -, eq⟩ := told
      rw [eq]
      exact ⟨w, rfl, difference⟩
    | inr refused =>
      rw [refused.2]
      trivial
  · refine iff_of_false ?_ signed
    rw [sub_of_unsigned subtracts (by omega)]
    intro exact
    obtain ⟨w, eq, -⟩ := exact
    cases eq

theorem sub_exact_of_four :
    Subtracts [("n", .ofNat 4)] 4 ∧
      (IsExact (10 - 4) (sub (.ofNat 10) [("n", .ofNat 4)]) ↔ (10 : Int) < signedBound) := by
  have subtracts : Subtracts [("n", .ofNat 4)] 4 :=
    .inr ⟨⟨4, by decide, by decide⟩, rfl, by decide, rfl⟩
  exact ⟨subtracts, (sub_exact_iff subtracts ⟨10, by decide, by decide⟩).1⟩

/-- The greatest integer of 64 bits less one is no integer any more. -/
theorem sub_not_exact :
    sub (.ofNat 18446744073709551615) [("n", .ofNat 1)] =
        .ok (.number (.double 18446744073709551615)) ∧
      ¬ IsExact (18446744073709551615 - 1)
        (sub (.ofNat 18446744073709551615) [("n", .ofNat 1)]) := by
  have eq : sub (.ofNat 18446744073709551615) [("n", .ofNat 1)] =
      .ok (.number (.double 18446744073709551615)) := by rfl
  refine ⟨eq, ?_⟩
  rw [eq]
  intro exact
  obtain ⟨w, eq, -⟩ := exact
  cases eq

/-! ## Parts of a text -/

theorem prefixOf_eq (given : Gives args n) (s : String) :
    prefixOf (.string s) args = .ok (.string (String.ofList (s.toList.take n.toNat))) := by
  simp only [prefixOf, textOf, intArgument_of_gives given]
  rfl

theorem suffixOf_eq (given : Gives args n) (s : String) :
    suffixOf (.string s) args =
      .ok (.string (String.ofList (s.toList.drop (s.toList.length - n.toNat)))) := by
  simp only [suffixOf, textOf, intArgument_of_gives given]
  rfl

theorem ofList_take_append_drop (s : String) (n : Nat) :
    String.ofList (s.toList.take n) ++ String.ofList (s.toList.drop n) = s := by
  rw [← String.ofList_append, List.take_append_drop, String.ofList_toList]

/-- The first characters of a text, as many as asked for and as there are. -/
theorem prefixOf_cuts (given : Gives args n) (s : String) :
    ∃ front, prefixOf (.string s) args = .ok (.string front) ∧ (∃ rest, front ++ rest = s) ∧
      (front.length : Int) = min (max n 0) s.length := by
  refine ⟨_, prefixOf_eq given s, ⟨_, ofList_take_append_drop s n.toNat⟩, ?_⟩
  rw [String.length_ofList, List.length_take, String.length_toList]
  omega

theorem suffixOf_cuts (given : Gives args n) (s : String) :
    ∃ back, suffixOf (.string s) args = .ok (.string back) ∧ (∃ rest, rest ++ back = s) ∧
      (back.length : Int) = min (max n 0) s.length := by
  refine ⟨_, suffixOf_eq given s, ⟨_, ofList_take_append_drop s _⟩, ?_⟩
  rw [String.length_ofList, List.length_drop, String.length_toList]
  omega

/-- The characters that are left of a text are as many as are not asked for. -/
theorem append_of_rest (given : Gives args n) (given' : Gives args' m) (s : String)
    (whole : n + m = s.length) (low : 0 ≤ n) (low' : 0 ≤ m) :
    ∃ front back, prefixOf (.string s) args = .ok (.string front) ∧
      suffixOf (.string s) args' = .ok (.string back) ∧ front ++ back = s := by
  refine ⟨_, _, prefixOf_eq given s, suffixOf_eq given' s, ?_⟩
  have place : s.toList.length - m.toNat = n.toNat := by
    rw [String.length_toList]
    omega
  rw [place, ofList_take_append_drop]

theorem parts_refused (refused : ∀ n, ¬ Gives args n) (s : String) :
    prefixOf (.string s) args = .error (.needs "prefix" "an integer" "n") ∧
      suffixOf (.string s) args = .error (.needs "suffix" "an integer" "n") := by
  have error : ∀ filter,
      intArgument filter "n" args = .error (.needs filter "an integer" "n") := by
    intro filter
    cases intArgument_cases filter args with
    | inl given =>
      obtain ⟨n, given, -⟩ := given
      exact absurd given (refused n)
    | inr error => exact error
  constructor
  · simp only [prefixOf, textOf, error]
    rfl
  · simp only [suffixOf, textOf, error]
    rfl

/-- At every amount the first and the last characters of a text are told, as many as asked for and
as there are, and the first ones fit those that remain.  Any other argument is refused. -/
theorem parts_fit (s : String) (args : Arguments) :
    (∀ n, Gives args n →
      (∃ front, prefixOf (.string s) args = .ok (.string front) ∧ (∃ rest, front ++ rest = s) ∧
        (front.length : Int) = min (max n 0) s.length) ∧
      (∃ back, suffixOf (.string s) args = .ok (.string back) ∧ (∃ rest, rest ++ back = s) ∧
        (back.length : Int) = min (max n 0) s.length) ∧
      ∀ args', 0 ≤ n → n ≤ s.length → Gives args' (s.length - n) →
        ∃ front back, prefixOf (.string s) args = .ok (.string front) ∧
          suffixOf (.string s) args' = .ok (.string back) ∧ front ++ back = s) ∧
    ((∀ n, ¬ Gives args n) →
      prefixOf (.string s) args = .error (.needs "prefix" "an integer" "n") ∧
        suffixOf (.string s) args = .error (.needs "suffix" "an integer" "n")) := by
  refine ⟨?_, fun refused => parts_refused refused s⟩
  intro n given
  refine ⟨prefixOf_cuts given s, suffixOf_cuts given s, ?_⟩
  intro args' low high given'
  exact append_of_rest given given' s (by omega) low (by omega)

theorem parts_fit_of_accents :
    Gives [("n", .ofNat 4)] 4 ∧ Gives [("n", .ofNat 7)] (("héllo wörld".length : Int) - 4) ∧
      ∃ front back, prefixOf (.string "héllo wörld") [("n", .ofNat 4)] = .ok (.string front) ∧
        suffixOf (.string "héllo wörld") [("n", .ofNat 7)] = .ok (.string back) ∧
        front ++ back = "héllo wörld" := by
  have first : Gives [("n", .ofNat 4)] 4 := ⟨⟨4, by decide, by decide⟩, rfl, by decide, rfl⟩
  have last : Gives [("n", .ofNat 7)] (("héllo wörld".length : Int) - 4) :=
    ⟨⟨7, by decide, by decide⟩, rfl, by decide, by decide⟩
  have fit := ((parts_fit "héllo wörld" [("n", .ofNat 4)]).1 4 first).2.2
  exact ⟨first, last, fit _ (by decide) (by decide) last⟩

end Collage.Library
