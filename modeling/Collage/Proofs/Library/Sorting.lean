import Mathlib.Data.List.Induction
import Mathlib.Data.List.SplitBy
import Collage.Library.Stock
import Collage.Proofs.Json.Doubles

/-! # Lists in falling order

Comparison is an order on values of one kind and where no value is greater than another
(`isOrdered_iff`).  Items that are put in their places one by one are sorted run by run: numbers
only pass numbers and texts only pass texts, so that each longest stretch of values of one kind is
sorted for itself (`descending_eq`).  Inside a run the greatest comes first as the filter compares
values; integers are compared as doubles there.  Where comparison is an order, this gives the one
list that a stable sort can give (`stablySorted_iff`).  `sortDescending_falls` says which lists come
out in falling order altogether.
-/

namespace Collage.Library

variable {a b c value : Json} {items more before : List Json}

/-! ## Kinds of values -/

theorem kindOf_of_isNaN {n : Number} (nan : n.toFloat.isNaN = true) :
    kindOf (.number n) = .other := if_pos nan

theorem kindOf_of_not_isNaN {n : Number} (number : n.toFloat.isNaN = false) :
    kindOf (.number n) = .number := if_neg (Bool.eq_false_iff.1 number)

theorem kindOf_eq_number_iff :
    kindOf a = .number ↔ ∃ n, a = .number n ∧ n.toFloat.isNaN = false := by
  constructor
  · intro same
    cases a with
    | number n =>
      cases nan : n.toFloat.isNaN with
      | true =>
        rw [kindOf_of_isNaN nan] at same
        cases same
      | false => exact ⟨n, rfl, nan⟩
    | _ => cases same
  · intro number
    obtain ⟨n, rfl, number⟩ := number
    exact kindOf_of_not_isNaN number

theorem exists_of_kindOf_eq_text (text : kindOf a = .text) : ∃ s, a = .string s := by
  cases a with
  | string s => exact ⟨s, rfl⟩
  | number n =>
    cases nan : n.toFloat.isNaN with
    | true =>
      rw [kindOf_of_isNaN nan] at text
      cases text
    | false =>
      rw [kindOf_of_not_isNaN nan] at text
      cases text
  | _ => cases text

theorem isGreater_iff :
    isGreater a b = true ↔
      (∃ m n, a = .number m ∧ b = .number n ∧ n.toFloat < m.toFloat) ∨
        ∃ s t, a = .string s ∧ b = .string t ∧ t < s := by
  cases a <;> cases b <;> simp [isGreater]

theorem kindOf_eq_of_isGreater (greater : isGreater a b = true) : kindOf a = kindOf b := by
  obtain ⟨m, n, rfl, rfl, less⟩ | ⟨s, t, rfl, rfl, less⟩ := isGreater_iff.1 greater
  · have numbers := Double.lt_iff.1 less
    rw [kindOf_eq_number_iff.2 ⟨m, rfl, numbers.2.1⟩, kindOf_eq_number_iff.2 ⟨n, rfl, numbers.1⟩]
  · rfl

theorem isGreater_asymm (greater : isGreater a b = true) : isGreater b a = false := by
  obtain ⟨m, n, rfl, rfl, less⟩ | ⟨s, t, rfl, rfl, less⟩ := isGreater_iff.1 greater
  · have below := (Double.lt_iff.1 less).2.2
    simp [isGreater, Double.lt_iff, lt_asymm below]
  · simpa [isGreater] using String.lt_asymm less

theorem isGreater_irrefl (a : Json) : isGreater a a = false := by
  by_cases greater : isGreater a a = true
  · exact isGreater_asymm greater
  · simpa using greater

/-- Of a greater and a smaller value, another one of their kind is less than the one or greater
than the other. -/
theorem isGreater_split (alike : kindOf b = kindOf a) (greater : isGreater a c = true) :
    isGreater a b = true ∨ isGreater b c = true := by
  obtain ⟨m, n, rfl, rfl, less⟩ | ⟨s, t, rfl, rfl, less⟩ := isGreater_iff.1 greater
  · have order := Double.lt_iff.1 less
    rw [kindOf_eq_number_iff.2 ⟨m, rfl, order.2.1⟩, kindOf_eq_number_iff] at alike
    obtain ⟨k, rfl, number⟩ := alike
    simp only [isGreater, decide_eq_true_eq, Double.lt_iff, number, order.1, order.2.1, true_and]
    exact (lt_or_ge _ _).imp_right fun le => lt_of_lt_of_le order.2.2 le
  · obtain ⟨u, rfl⟩ := exists_of_kindOf_eq_text (alike.trans rfl)
    simp only [isGreater, decide_eq_true_eq]
    by_cases below : u < s
    · exact .inl below
    · by_cases same : u = s
      · exact .inr (same ▸ less)
      · have above : s < u :=
          String.not_le.1 fun le => same (String.le_antisymm le (String.not_lt.1 below))
        exact .inr (String.lt_trans less above)

/-- Comparison is an order on some values: of a greater and a smaller one, any other is less than
the one or greater than the other. -/
def Comparable (items : List Json) : Prop :=
  ∀ a ∈ items, ∀ b ∈ items, ∀ c ∈ items, isGreater a c = true →
    isGreater a b = true ∨ isGreater b c = true

/-- Where one value is greater than another, comparison is an order on values of their kind only. -/
theorem Comparable.kindOf_eq (comparable : Comparable items) (member : a ∈ items)
    (member' : c ∈ items) (greater : isGreater a c = true) : ∀ b ∈ items, kindOf b = kindOf a := by
  intro b between
  cases comparable a member b between c member' greater with
  | inl below => exact (kindOf_eq_of_isGreater below).symm
  | inr above => exact (kindOf_eq_of_isGreater above).trans (kindOf_eq_of_isGreater greater).symm

theorem comparable_of_alike (alike : ∀ a ∈ items, ∀ b ∈ items, kindOf a = kindOf b) :
    Comparable items :=
  fun a left b between _ _ greater => isGreater_split (alike b between a left) greater

theorem Comparable.alike_or_even (comparable : Comparable items) :
    (∀ a ∈ items, ∀ b ∈ items, kindOf a = kindOf b) ∨
      ∀ a ∈ items, ∀ b ∈ items, isGreater a b = false := by
  by_cases even : ∀ a ∈ items, ∀ b ∈ items, isGreater a b = false
  · exact .inr even
  · push Not at even
    obtain ⟨a, left, c, right, greater⟩ := even
    have kinds := comparable.kindOf_eq left right (by simpa using greater)
    exact .inl fun b member b' member' => (kinds b member).trans (kinds b' member').symm

theorem isOrdered_iff : isOrdered items = true ↔ Comparable items := by
  cases items with
  | nil => simp [isOrdered, Comparable]
  | cons first rest =>
    rw [isOrdered, Bool.or_eq_true]
    constructor
    · rintro (same | none)
      · have kinds : ∀ a ∈ first :: rest, kindOf a = kindOf first := by
          simpa using same
        exact comparable_of_alike fun a left b right => (kinds a left).trans (kinds b right).symm
      · intro a left b _ c right greater
        rw [Bool.not_eq_true', List.any_eq_false] at none
        exact absurd (List.any_eq_true.2 ⟨c, right, greater⟩) (none a left)
    · intro comparable
      obtain alike | even := comparable.alike_or_even
      · refine .inl (List.all_eq_true.2 fun b member => decide_eq_true ?_)
        exact alike b (List.mem_cons_of_mem first member) first List.mem_cons_self
      · exact .inr (by simpa using even)

/-! ## Putting a value in its place -/

/-- A value passes no others of a kind that it is not greater than. -/
theorem filter_settle {p : Json → Bool}
    (even : p value = true → ∀ a ∈ before, p a = true → isGreater value a = false) :
    (settle value before).filter p = (value :: before).filter p := by
  induction before with
  | nil => rfl
  | cons last before ih =>
    -- A value and one that it passes are not both chosen.
    by_cases passes : isGreater value last = true
    · have rest := ih fun chosen a member => even chosen a (List.mem_cons_of_mem _ member)
      by_cases chosen : p value = true
      · have skipped : p last = false := by
          by_cases chosen' : p last = true
          · simp [even chosen last List.mem_cons_self chosen'] at passes
          · simpa using chosen'
        simp [settle, passes, rest, List.filter_cons, skipped]
      · simp [settle, passes, rest, List.filter_cons, chosen]
    · rw [settle, if_neg passes]

/-- A value does not get past one that it is not greater than. -/
theorem settle_append (stops : ∀ last ∈ before.head?, isGreater value last = false)
    (items : List Json) : settle value (items ++ before) = settle value items ++ before := by
  induction items with
  | nil =>
    cases before with
    | nil => rfl
    | cons last before => simp [settle, stops last rfl]
  | cons item items ih =>
    by_cases passes : isGreater value item = true
    · simp [settle, passes, ih]
    · simp [settle, passes]

theorem pairwise_settle (alike : ∀ a ∈ before, kindOf a = kindOf value)
    (sorted : before.Pairwise fun a b => isGreater a b = false) :
    (settle value before).Pairwise fun a b => isGreater a b = false := by
  induction before with
  | nil => simp [settle]
  | cons last before ih =>
    have first := (List.pairwise_cons.1 sorted).1
    by_cases passes : isGreater value last = true
    · rw [settle, if_pos passes, List.pairwise_cons]
      refine ⟨?_, ih (fun a member => alike a (List.mem_cons_of_mem _ member))
        (List.pairwise_cons.1 sorted).2⟩
      intro a member
      cases List.mem_cons.1 ((perm_settle value before).mem_iff.1 member) with
      | inl same => exact same ▸ isGreater_asymm passes
      | inr member => exact first a member
    · rw [settle, if_neg passes, List.pairwise_cons]
      refine ⟨?_, sorted⟩
      intro a member
      cases List.mem_cons.1 member with
      | inl same => simpa [same] using passes
      | inr member =>
        -- What is less than the value would be less than the last one.
        by_cases greater : isGreater value a = true
        · have between := isGreater_split (alike last List.mem_cons_self) greater
          simp [passes, first a member] at between
        · simpa using greater

/-! ## Sorting -/

theorem descending_concat (items : List Json) (value : Json) :
    descending (items ++ [value]) = (settle value (descending items).reverse).reverse := by
  simp [descending]

theorem mem_descending : a ∈ descending items ↔ a ∈ items := (perm_descending items).mem_iff

/-- Values that are not greater than each other keep their order. -/
theorem filter_descending {p : Json → Bool}
    (even : ∀ a ∈ items, p a = true → ∀ b ∈ items, p b = true → isGreater a b = false) :
    (descending items).filter p = items.filter p := by
  induction items using List.reverseRecOn with
  | nil => rfl
  | append_singleton items value ih =>
    have rest := ih fun a member chosen b member' chosen' =>
      even a (by simp [member]) chosen b (by simp [member']) chosen'
    have placed : (settle value (descending items).reverse).filter p =
        (value :: (descending items).reverse).filter p := by
      apply filter_settle
      intro chosen a member chosen'
      rw [List.mem_reverse, mem_descending] at member
      exact even value (by simp) chosen a (by simp [member]) chosen'
    rw [descending_concat, List.filter_reverse, placed, ← List.filter_reverse, List.reverse_cons,
      List.reverse_reverse, List.filter_append, List.filter_append, rest]

open Classical in
/-- Two values keep their order if neither is greater than the other. -/
theorem sublist_descending (even : isGreater a b = false) (even' : isGreater b a = false) :
    [a, b].Sublist (descending items) ↔ [a, b].Sublist items := by
  -- The two are told apart from the rest, which may pass them.
  let p : Json → Bool := fun c => decide (c = a ∨ c = b)
  have chosen : ∀ c, p c = true → c = a ∨ c = b := by
    intro c
    simp [p]
  have filtered : ∀ l : List Json, [a, b].Sublist l ↔ [a, b].Sublist (l.filter p) := by
    intro l
    constructor
    · intro sub
      simpa [p] using sub.filter p
    · exact fun sub => sub.trans List.filter_sublist
  have same : (descending items).filter p = items.filter p := by
    apply filter_descending
    intro c _ left d _ right
    obtain rfl | rfl := chosen c left <;> obtain rfl | rfl := chosen d right
    · exact isGreater_irrefl _
    · exact even
    · exact even'
    · exact isGreater_irrefl _
  rw [filtered, same, ← filtered]

/-- Values of one kind come out with no value behind one that it is greater than. -/
theorem pairwise_descending (alike : ∀ a ∈ items, ∀ b ∈ items, kindOf a = kindOf b) :
    (descending items).Pairwise fun a b => isGreater b a = false := by
  induction items using List.reverseRecOn with
  | nil => exact List.Pairwise.nil
  | append_singleton items value ih =>
    have rest := ih fun a member b member' => alike a (by simp [member]) b (by simp [member'])
    rw [descending_concat, List.pairwise_reverse]
    apply pairwise_settle
    · intro a member
      rw [List.mem_reverse, mem_descending] at member
      exact alike a (by simp [member]) value (by simp)
    · exact List.pairwise_reverse.2 rest

/-! ## Stable sorting -/

/-- Whether neither of two values is greater. -/
def isEven (a b : Json) : Bool := !isGreater a b && !isGreater b a

/-- What a stable sort makes of some items: an order of them in which none stands behind one that it
is greater than, and in which those of which neither is greater stand as they stood. -/
structure StablySorted (items sorted : List Json) : Prop where
  perm : sorted.Perm items
  falling : sorted.Pairwise fun a b => isGreater b a = false
  stable : ∀ a ∈ items, sorted.filter (isEven a) = items.filter (isEven a)

theorem eq_of_falling {first second : List Json} (perm : first.Perm second)
    (falling : first.Pairwise fun a b => isGreater b a = false)
    (falling' : second.Pairwise fun a b => isGreater b a = false)
    (even : ∀ a ∈ first, first.filter (isEven a) = second.filter (isEven a)) : first = second := by
  induction first generalizing second with
  | nil => exact perm.nil_eq
  | cons a first ih =>
    cases second with
    | nil => exact absurd perm.eq_nil (by simp)
    | cons b second =>
      obtain ⟨below, later⟩ := List.pairwise_cons.1 falling
      obtain ⟨below', later'⟩ := List.pairwise_cons.1 falling'
      -- Neither of the first two is greater, so they are the first of the same items.
      have here : isGreater a b = false := by
        cases List.mem_cons.1 (perm.mem_iff.1 List.mem_cons_self) with
        | inl same => exact same ▸ isGreater_irrefl a
        | inr member => exact below' a member
      have there : isGreater b a = false := by
        cases List.mem_cons.1 (perm.mem_iff.2 List.mem_cons_self) with
        | inl same => exact same ▸ isGreater_irrefl b
        | inr member => exact below b member
      have firsts := even a List.mem_cons_self
      rw [List.filter_cons_of_pos (by simp [isEven, isGreater_irrefl]),
        List.filter_cons_of_pos (by simp [isEven, here, there])] at firsts
      obtain ⟨rfl, -⟩ := List.cons.inj firsts
      refine congrArg (a :: ·) (ih perm.cons_inv later later' fun c member => ?_)
      have same := even c (List.mem_cons_of_mem a member)
      by_cases chosen : isEven c a = true
      · simpa [List.filter_cons, chosen] using same
      · simpa [List.filter_cons, chosen] using same

theorem stablySorted_descending (comparable : Comparable items) :
    StablySorted items (descending items) where
  perm := perm_descending items
  falling := by
    obtain alike | even := comparable.alike_or_even
    · exact pairwise_descending alike
    · apply List.pairwise_of_forall_mem_list
      intro a left b right
      exact even b (mem_descending.1 right) a (mem_descending.1 left)
  stable := by
    intro a member
    apply filter_descending
    intro b left even c right even'
    by_cases greater : isGreater b c = true
    · simp only [isEven, Bool.and_eq_true, Bool.not_eq_true'] at even even'
      cases comparable b left a member c right greater with
      | inl above => exact absurd above (by simp [even.2])
      | inr below => exact absurd below (by simp [even'.1])
    · simpa using greater

/-- Where comparison is an order there is one way to sort stably. -/
theorem stablySorted_iff {sorted : List Json} (comparable : Comparable items) :
    StablySorted items sorted ↔ sorted = descending items := by
  have placed := stablySorted_descending comparable
  constructor
  · intro stably
    refine eq_of_falling (stably.perm.trans placed.perm.symm) stably.falling placed.falling ?_
    intro a member
    have member := stably.perm.mem_iff.1 member
    rw [stably.stable a member, placed.stable a member]
  · rintro rfl
    exact placed

/-! ## Runs -/

/-- What nothing that follows is greater than parts a list in two. -/
theorem descending_append
    (stops : ∀ value ∈ more, ∀ last ∈ (descending items).getLast?, isGreater value last = false) :
    descending (items ++ more) = descending items ++ descending more := by
  induction more using List.reverseRecOn with
  | nil => simp [descending]
  | append_singleton more value ih =>
    have rest := ih fun a member => stops a (by simp [member])
    rw [← List.append_assoc, descending_concat, rest, List.reverse_append, settle_append,
      List.reverse_append, List.reverse_reverse, descending_concat]
    rw [List.head?_reverse]
    exact stops value (by simp)

/-- The longest stretches of values of one kind. -/
def runs (items : List Json) : List (List Json) :=
  items.splitBy fun a b => kindOf a = kindOf b

theorem flatten_runs (items : List Json) : (runs items).flatten = items := List.flatten_splitBy _ _

theorem nil_not_mem_runs (items : List Json) : [] ∉ runs items := List.nil_notMem_splitBy _ _

theorem kindOf_eq_of_mem_runs {run : List Json} (member : run ∈ runs items) :
    ∀ a ∈ run, ∀ b ∈ run, kindOf a = kindOf b := by
  have chain := List.isChain_of_mem_splitBy member
  simp only [decide_eq_true_eq] at chain
  have kinds : (run.map kindOf).IsChain Eq := (List.isChain_map kindOf).2 chain
  cases run with
  | nil => simp
  | cons first rest =>
    have same : ∀ a ∈ first :: rest, kindOf a = kindOf first := by
      intro a member
      have replicated := List.isChain_eq_iff_eq_replicate.1 kinds (kindOf first) rfl
      exact (List.eq_replicate_iff.1 replicated).2 _ (List.mem_map_of_mem member)
    intro a member b member'
    rw [same a member, same b member']

theorem runs_apart (items : List Json) :
    (runs items).IsChain fun r q => ∀ a ∈ r, ∀ b ∈ q, kindOf a ≠ kindOf b := by
  have ends := List.isChain_getLast_head_splitBy (fun a b => decide (kindOf a = kindOf b)) items
  refine ends.imp_of_mem_imp ?_
  intro r q left right apart a member b member'
  obtain ⟨filled, filled', differ⟩ := apart
  rw [decide_eq_false_iff_not] at differ
  rw [kindOf_eq_of_mem_runs left a member _ (List.getLast_mem filled),
    kindOf_eq_of_mem_runs right b member' _ (List.head_mem filled')]
  exact differ

/-- The last value of a list that is sorted run by run is of the last run. -/
theorem mem_of_getLast?_flatMap {runs : List (List Json)} (nonempty : [] ∉ runs)
    (last : a ∈ (runs.flatMap descending).getLast?) : ∃ run ∈ runs.getLast?, a ∈ run := by
  induction runs using List.reverseRecOn with
  | nil => simp at last
  | append_singleton runs run _ =>
    have filled : descending run ≠ [] := by
      intro empty
      have same := (perm_descending run).symm
      rw [empty, List.perm_nil] at same
      simp [same] at nonempty
    rw [List.flatMap_append, List.flatMap_singleton,
      List.getLast?_append_of_ne_nil _ filled] at last
    exact ⟨run, by simp, mem_descending.1 (List.mem_of_getLast? last)⟩

theorem descending_flatten {runs : List (List Json)} (nonempty : [] ∉ runs)
    (apart : runs.IsChain fun r q => ∀ a ∈ r, ∀ b ∈ q, kindOf a ≠ kindOf b) :
    descending runs.flatten = runs.flatMap descending := by
  induction runs using List.reverseRecOn with
  | nil => rfl
  | append_singleton runs run ih =>
    have front : [] ∉ runs := fun member => nonempty (by simp [member])
    have sorted := ih front (List.isChain_append.1 apart).1
    rw [List.flatten_append, List.flatten_singleton, descending_append, sorted,
      List.flatMap_append, List.flatMap_singleton]
    rw [sorted]
    intro value member last final
    -- The value that ends the part before is of another kind.
    obtain ⟨prev, ends, member'⟩ := mem_of_getLast?_flatMap front final
    have unlike := (List.isChain_append.1 apart).2.2 prev ends run rfl last member' value member
    by_cases greater : isGreater value last = true
    · exact absurd (kindOf_eq_of_isGreater greater).symm unlike
    · simpa using greater

/-- A list is sorted run by run. -/
theorem descending_eq (items : List Json) :
    descending items = (runs items).flatMap descending := by
  have sorted := descending_flatten (nil_not_mem_runs items) (runs_apart items)
  rwa [flatten_runs] at sorted

/-! ## Falling order -/

/-- Of two integers, and of two texts, the first is the larger one. -/
inductive Larger : Json → Json → Prop where
  | integer {v w : Whole} : w.value < v.value → Larger (.number (.int v)) (.number (.int w))
  | text {s t : String} : t < s → Larger (.string s) (.string t)

/-- No integer and no text stands behind a smaller one. -/
def Falls (items : List Json) : Prop := items.Pairwise fun a b => ¬ Larger b a

/-- Wherever an integer or a text stands behind a smaller one it compares as greater. -/
def InTurn (items : List Json) : Prop :=
  items.Pairwise fun a b => Larger b a → isGreater b a = true

def isRanked : Json → Bool
  | .number _ | .string _ => true
  | _ => false

/-- A smaller integer or text never compares as greater. -/
theorem not_isGreater_of_larger (larger : Larger a b) : isGreater b a = false := by
  cases larger with
  | integer less =>
    exact decide_eq_false (Whole.not_toFloat_lt (Int.le_of_lt less))
  | text less => simpa [isGreater] using String.lt_asymm less

/-- What compares as equal keeps its order, so that it was in falling order before. -/
theorem falls_descending_iff (alike : ∀ a ∈ items, ∀ b ∈ items, kindOf a = kindOf b) :
    Falls (descending items) ↔ InTurn items := by
  have sorted := pairwise_descending alike
  rw [List.pairwise_iff_forall_sublist] at sorted
  rw [Falls, InTurn, List.pairwise_iff_forall_sublist, List.pairwise_iff_forall_sublist]
  constructor
  · intro falls a b sub larger
    by_cases greater : isGreater b a = true
    · exact greater
    · have kept := (sublist_descending (not_isGreater_of_larger larger) (by simpa using greater)).2
        sub
      exact absurd larger (falls kept)
  · intro turn a b sub larger
    have even := sorted sub
    have before := (sublist_descending (not_isGreater_of_larger larger) even).1 sub
    simp [turn before larger] at even

theorem larger_ofNat {m n : Nat} (less : m < n) (fits : n < unsignedBound) :
    Larger (.ofNat n) (.ofNat m) := by
  have whole : ∀ k < unsignedBound,
      ∃ w : Whole, w.value = (k : Int) ∧ Json.ofNat k = .number (.int w) := by
    intro k bound
    have range : -(signedBound : Int) ≤ k ∧ (k : Int) < unsignedBound := by omega
    exact ⟨⟨k, range.1, range.2⟩, rfl,
      by rw [Json.ofNat, Number.ofNat, Number.ofInt, Whole.ofInt?, dif_pos range]⟩
  obtain ⟨v, same, eq⟩ := whole n fits
  obtain ⟨w, same', eq'⟩ := whole m (by omega)
  rw [eq, eq']
  exact .integer (by omega)

/-- Integers of a size up to `2 ^ 53` compare as what they are. -/
theorem isGreater_of_larger (larger : Larger a b)
    (small : ∀ w, .number (.int w) ∈ [a, b] → -2 ^ 53 ≤ w.value ∧ w.value ≤ 2 ^ 53) :
    isGreater a b = true := by
  cases larger with
  | integer less =>
    rename_i v w
    have low := (small w (by simp)).1
    have high := (small v (by simp)).2
    exact decide_eq_true (Whole.toFloat_lt less low high)
  | text less => simpa [isGreater] using less

theorem falls_of_small (alike : ∀ a ∈ items, ∀ b ∈ items, kindOf a = kindOf b)
    (small : ∀ w, .number (.int w) ∈ items → -2 ^ 53 ≤ w.value ∧ w.value ≤ 2 ^ 53) :
    Falls (descending items) := by
  rw [falls_descending_iff alike, InTurn, List.pairwise_iff_forall_sublist]
  intro a b sub larger
  apply isGreater_of_larger larger
  intro w member
  apply small w
  apply sub.subset
  simpa [or_comm] using member

/-! ## What the filter gives -/

theorem sortDescending_eq (d : Disorder) (args : Arguments)
    (sortable : items.length ≤ sortedOneByOne ∨ Comparable items) :
    sortDescending d (.array items) args = .ok (.array (descending items)) := by
  rw [sortDescending, falling, if_pos]
  · rfl
  · simpa [isOrdered_iff] using sortable

/-- No item is lost, wherever there is a result. -/
theorem perm_of_sortDescending {d : Disorder} {args : Arguments}
    (given : sortDescending d (.array items) args = .ok value) :
    ∃ sorted, value = .array sorted ∧ sorted.Perm items := by
  rw [sortDescending, falling] at given
  split at given
  · cases given
    exact ⟨_, rfl, perm_descending items⟩
  · cases left : d.leave items with
    | error refusal => simp [left, Except.map] at given
    | ok sorted =>
      rw [left] at given
      cases given
      exact ⟨sorted, rfl, d.perm_of_leave left⟩

theorem filter_unranked_descending (items : List Json) :
    (descending items).filter (!isRanked ·) = items.filter (!isRanked ·) := by
  apply filter_descending
  intro a _ unranked b _ _
  cases a with
  | number n => simp [isRanked] at unranked
  | string s => simp [isRanked] at unranked
  | _ => rfl

/-- Sorting run by run gives falling order exactly if no run has something larger than an earlier
run has, and inside each run what is larger compares as greater, unless it stands first already. -/
theorem falls_descending_iff_runs (items : List Json) :
    Falls (descending items) ↔
      (∀ run ∈ runs items, InTurn run) ∧
        (runs items).Pairwise fun r q => ∀ a ∈ r, ∀ b ∈ q, ¬ Larger b a := by
  rw [descending_eq, List.flatMap_def, Falls, List.pairwise_flatten, List.pairwise_map,
    List.forall_mem_map]
  simp only [mem_descending]
  apply and_congr_left'
  exact forall₂_congr fun run member => falls_descending_iff (kindOf_eq_of_mem_runs member)

/-- Wherever sorting has a result it is a permutation.  It has one on lists of up to twenty items
and where comparison is an order, and that keeps the order of all but numbers and texts.  It is in
falling order exactly if no run has something larger than an earlier run has, and inside each run
what is larger compares as greater, unless it stands first already.  Where comparison is an order,
the result is the one list that sorts the items stably.  That is so for values of one kind, which
come out in falling order if their integers are of a size up to `2 ^ 53`. -/
theorem sortDescending_falls (d : Disorder) (items : List Json) (args : Arguments) :
    (∀ value, sortDescending d (.array items) args = .ok value →
      ∃ sorted, value = .array sorted ∧ sorted.Perm items) ∧
    (items.length ≤ 20 ∨ Comparable items →
      ∃ sorted, sortDescending d (.array items) args = .ok (.array sorted) ∧ sorted.Perm items ∧
        sorted.filter (!isRanked ·) = items.filter (!isRanked ·) ∧
        (Falls sorted ↔
          (∀ run ∈ runs items, InTurn run) ∧
            (runs items).Pairwise fun r q => ∀ a ∈ r, ∀ b ∈ q, ¬ Larger b a)) ∧
    (Comparable items → ∀ sorted,
      sortDescending d (.array items) args = .ok (.array sorted) ↔ StablySorted items sorted) ∧
    ((∀ a ∈ items, ∀ b ∈ items, kindOf a = kindOf b) →
      Comparable items ∧
        ((∀ w, .number (.int w) ∈ items → -2 ^ 53 ≤ w.value ∧ w.value ≤ 2 ^ 53) →
          ∃ sorted, sortDescending d (.array items) args = .ok (.array sorted) ∧
            sorted.Perm items ∧ Falls sorted)) := by
  refine ⟨fun value given => perm_of_sortDescending given, ?_, ?_, ?_⟩
  · intro sortable
    exact ⟨descending items, sortDescending_eq d args sortable, perm_descending items,
      filter_unranked_descending items, falls_descending_iff_runs items⟩
  · intro comparable sorted
    rw [stablySorted_iff comparable, sortDescending_eq d args (.inr comparable)]
    simp [eq_comm]
  · intro alike
    have comparable := comparable_of_alike alike
    exact ⟨comparable, fun small => ⟨descending items, sortDescending_eq d args (.inr comparable),
      perm_descending items, falls_of_small alike small⟩⟩

/-- Neighbours above `2 ^ 53` share a double, and a text parts the numbers on its two sides. -/
theorem sortDescending_not_falls :
    sortDescending .settled (.array [.ofNat 9007199254740992, .ofNat 9007199254740993]) [] =
        .ok (.array [.ofNat 9007199254740992, .ofNat 9007199254740993]) ∧
      ¬ Falls [.ofNat 9007199254740992, .ofNat 9007199254740993] ∧
      sortDescending .settled (.array [.ofNat 1, .string "a", .ofNat 2]) [] =
        .ok (.array [.ofNat 1, .string "a", .ofNat 2]) ∧
      ¬ Falls [.ofNat 1, .string "a", .ofNat 2] := by
  refine ⟨by rfl, ?_, by rfl, ?_⟩
  · intro falls
    have larger : Larger (.ofNat 9007199254740993) (.ofNat 9007199254740992) :=
      larger_ofNat (by decide) (by decide)
    exact (List.pairwise_cons.1 falls).1 _ (by simp) larger
  · intro falls
    have larger : Larger (.ofNat 2) (.ofNat 1) := larger_ofNat (by decide) (by decide)
    exact (List.pairwise_cons.1 falls).1 _ (by simp) larger

end Collage.Library
