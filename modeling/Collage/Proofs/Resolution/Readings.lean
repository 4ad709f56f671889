import Mathlib.Data.Finset.Card
import Mathlib.Data.List.Dedup
import Collage.Proofs.Resolution.Walk
import Collage.Proofs.Source.Names

/-! # What a resolution reads

A name is read as soon as it has entered, so the readings of a session tell how far it went down.
While nothing disturbs, the names in flight are stored ones, each at most once
(`Session.preprocess_below`).

A name that is not spelled in its normal form is in flight beside the stored names, which lets a
resolution go down one step further.  It never makes use of that step: when the template comes up
again under its normal name, it cannot get past the directive that led there, and what it refers to
before that directive was resolved already (`Session.reads_while_stuck`).
-/

namespace Collage

namespace Source

variable {templates : List (String × ByteArray)} {name : String}

/-- All spellings of a name have one text. -/
theorem text?_normalize : (store templates).text? (Name.normalize name) =
    (store templates).text? name := by
  simp only [text?, read, Name.normalize_normalize]
  cases templates.lookup (Name.normalize name) <;> rfl

end Source

namespace Session

variable {kind : OutputKind} {room : Nat} {name : String} {s t u : Session}
  {P Q : Reading → Prop}

/-- Everything that was read from one session to a later one has a property. -/
def Reads (P : Reading → Prop) (s t : Session) : Prop :=
  ∃ more, t.readings = more ++ s.readings ∧ ∀ r ∈ more, P r

theorem Reads.refl (P : Reading → Prop) (s : Session) : Reads P s s := ⟨[], rfl, by simp⟩

theorem Reads.trans (first : Reads P s t) (second : Reads P t u) : Reads P s u := by
  obtain ⟨earlier, before, holds⟩ := first
  obtain ⟨later, after, holds'⟩ := second
  refine ⟨later ++ earlier, by rw [after, before, List.append_assoc], ?_⟩
  intro r member
  exact (List.mem_append.1 member).elim (holds' r) (holds r)

theorem Reads.mono (reads : Reads P s t) (imp : ∀ r, P r → Q r) : Reads Q s t := by
  obtain ⟨more, eq, holds⟩ := reads
  exact ⟨more, eq, fun r member => imp r (holds r member)⟩

theorem Reads.and (first : Reads P s t) (second : Reads Q s t) :
    Reads (fun r => P r ∧ Q r) s t := by
  obtain ⟨more, eq, holds⟩ := first
  obtain ⟨again, eq', holds'⟩ := second
  -- Both speak of the same readings, as those on record before are the same.
  obtain rfl := List.append_cancel_right (eq.symm.trans eq')
  exact ⟨more, eq, fun r member => ⟨holds r member, holds' r member⟩⟩

/-- What is read on behalf of a template is its own bytes and what its directives read. -/
theorem reads_step (calm : s.disturbances = [])
    (own : s.flight.isActive name = false → P ⟨name, s.flight.path ++ [name]⟩)
    (visited : ∀ text passed sight rest t, s.flight.isActive name = false →
      s.source.body name = .ok text → Directive.met text = passed ++ sight :: rest →
      Passed kind (s.entering name) passed t →
      (∀ p ∈ passed, p.directive.name ≠ sight.directive.name) →
      t.Needs kind sight.directive.name →
      Reads P t (preprocess kind room sight.directive.name t).2) :
    Reads P s (preprocess kind (room + 1) name s).2 := by
  have walk : Walk kind room name s (Reads P s) (fun _ t => Reads P s t) (fun _ t => Reads P s t) :=
    { active := fun _ => .refl P s
      entered := by
        intro idle
        rw [(s.entering name).read_of_undisturbed name calm]
        exact ⟨[⟨name, s.flight.path ++ [name]⟩], rfl, by simpa using own idle⟩
      own := fun _ _ _ reads => reads
      visited := by
        intro text passed sight rest t idle body met known fresh needed reads
        exact ends_snd_iff.2
          (reads.trans (visited text passed sight rest t idle body met known fresh needed))
      done := by
        intro t artifact dependencies reads
        simpa [Reads] using reads }
  exact ends_snd_iff.1 (walk_rule walk calm)

theorem reads_of_active (active : s.flight.isActive name = true) :
    Reads P s (preprocess kind room name s).2 := by
  cases room with
  | zero => exact .refl P s
  | succ room =>
    rw [preprocess_of_active active]
    exact .refl P s

/-! ## The names in flight at a reading -/

/-- A name was read right after it had entered below the names on a path, and below others that are
stored; no name entered twice. -/
structure Below (templates : List (String × ByteArray)) (path : List String) (entered : List String)
    (r : Reading) : Prop where
  within : r.within = path ++ entered ++ [r.name]
  normal : Name.normalize r.name = r.name
  outside : r.name ∉ path
  once : (entered ++ [r.name]).Nodup
  stored : ∀ x ∈ entered, x ∈ Sorted.keys templates ∧ x ∉ path

variable {templates : List (String × ByteArray)} {path entered : List String} {r : Reading}

/-- No more names entered than are stored. -/
theorem Below.length_le (below : Below templates path entered r) :
    entered.length ≤ (Sorted.keys templates).toFinset.card := by
  rw [← List.toFinset_card_of_nodup (List.Nodup.of_append_left below.once)]
  refine Finset.card_le_card ?_
  intro x member
  exact List.mem_toFinset.2 (below.stored x (List.mem_toFinset.1 member)).1

/-- If as many names entered as are stored, then every stored name entered. -/
theorem Below.mem_of_length_le (below : Below templates path entered r)
    (all : (Sorted.keys templates).toFinset.card ≤ entered.length) {x : String}
    (stored : x ∈ Sorted.keys templates) : x ∈ entered := by
  rw [← List.toFinset_card_of_nodup (List.Nodup.of_append_left below.once)] at all
  have subset : entered.toFinset ⊆ (Sorted.keys templates).toFinset := by
    intro x member
    exact List.mem_toFinset.2 (below.stored x (List.mem_toFinset.1 member)).1
  have same := Finset.eq_of_subset_of_card_le subset all
  exact List.mem_toFinset.1 (same ▸ List.mem_toFinset.2 stored)

/-- The names in flight at a reading are stored ones, apart from those that were in flight before
and from the name that is read. -/
theorem preprocess_below (room : Nat) (name : String) (s : Session)
    (store : s.source = .store templates) (calm : s.disturbances = [])
    (normal : Name.normalize name = name) :
    Reads (fun r => ∃ entered, Below templates s.flight.path entered r) s
      (preprocess kind room name s).2 := by
  induction room generalizing name s with
  | zero => exact .refl _ s
  | succ room ih =>
    refine reads_step calm ?_ ?_
    · intro idle
      have outside : name ∉ s.flight.path := by simpa [Flight.isActive] using idle
      exact ⟨[], by simp, normal, outside, by simp, by simp⟩
    · intro text passed sight rest t idle body met known fresh needed
      have outside : name ∉ s.flight.path := by simpa [Flight.isActive] using idle
      have stored : name ∈ Sorted.keys templates := by
        have given := Source.text?_of_body body
        rw [store] at given
        exact normal ▸ Source.mem_keys_of_text? given
      have path : t.flight.path = s.flight.path ++ [name] := congrArg Flight.path known.flight
      refine (ih sight.directive.name t (known.still.source.trans store) known.calm
        sight.directive.normalize_name).mono ?_
      rintro r ⟨entered, below⟩
      rw [path] at below
      -- What entered below the name entered below the path too, after the name.
      have others : ∀ x ∈ entered, x ∉ s.flight.path ∧ x ≠ name := by
        intro x member
        simpa [not_or] using (below.stored x member).2
      have other : r.name ∉ s.flight.path ∧ r.name ≠ name := by
        simpa [not_or] using below.outside
      refine ⟨name :: entered, ?_, below.normal, other.1, ?_, ?_⟩
      · simpa using below.within
      · refine List.nodup_cons.2 ⟨?_, below.once⟩
        intro member
        cases List.mem_append.1 member with
        | inl member => exact (others name member).2 rfl
        | inr member => exact other.2 (List.mem_singleton.1 member).symm
      · intro x member
        cases List.mem_cons.1 member with
        | inl same =>
          obtain rfl := same
          exact ⟨stored, outside⟩
        | inr member => exact ⟨(below.stored x member).1, (others x member).1⟩

/-! ## Names that are not normal -/

/-- On behalf of a name that is settled only templates are read that there are. -/
theorem reads_of_settled (room : Nat) (name : String) (s : Session) (calm : s.disturbances = [])
    (settled : s.source.Settled (s.Keeps kind) name)
    (needed : s.Needs kind name) :
    Reads (fun r => (s.source.text? r.name).isSome = true) s (preprocess kind room name s).2 := by
  induction room generalizing name s with
  | zero => exact .refl _ s
  | succ room ih =>
    -- A name that is not in flight is not kept, so its template is there and settled.
    have known : s.flight.isActive name = false → ∃ text, s.source.text? name = some text ∧
        ∀ sight ∈ Directive.met text, s.source.Settled (s.Keeps kind) sight.directive.name := by
      intro idle
      cases settled with
      | kept kept =>
        rw [Keeps, needed.absent idle] at kept
        cases kept
      | known given below => exact ⟨_, given, below⟩
    refine reads_step calm ?_ ?_
    · intro idle
      obtain ⟨text, given, -⟩ := known idle
      simp [given]
    · intro text passed sight rest t idle body met inside fresh needed
      obtain ⟨other, given, below⟩ := known idle
      obtain rfl := Option.some.inj (given.symm.trans (Source.text?_of_body body))
      have source : t.source = s.source := inside.still.source
      have settled : s.source.Settled (t.Keeps kind) sight.directive.name := by
        refine (below sight (by simp [met])).mono ?_
        intro other kept
        refine inside.still.grown other ?_
        rwa [entering, shelf_with_flight]
      rw [← source] at settled ⊢
      exact ih sight.directive.name t inside.calm settled needed

/-- A template that cannot get past one of its directives, which refers back to a name in flight,
comes to that directive or to one before it. -/
theorem Passed.stuck {passed before after rest : List Directive.Sighting}
    {e sight : Directive.Sighting} (known : Passed kind s passed t)
    (blocked : s.flight.isActive e.directive.name = true)
    (met : passed ++ sight :: rest = before ++ e :: after) : sight = e ∨ sight ∈ before := by
  rcases List.append_eq_append_iff.1 met with ⟨between, rfl, tail⟩ | ⟨between, rfl, tail⟩
  · cases between with
    | nil => exact .inl (List.cons.inj tail).1
    | cons first between =>
      obtain ⟨rfl, -⟩ := List.cons.inj tail
      exact .inr (by simp)
  · cases between with
    | nil => exact .inl (List.cons.inj tail).1.symm
    | cons first between =>
      -- It would have passed the directive that it cannot get past.
      have idle := known.idle e (by simp [(List.cons.inj tail).1])
      rw [blocked] at idle
      cases idle

/-- While the template `a` cannot get past one of its directives, which refers back to a name in
flight, and the directives before that one are settled, only templates are read below `a` that
there are. -/
theorem reads_while_stuck {a text : String} {before after : List Directive.Sighting}
    {e : Directive.Sighting} (room : Nat) (name : String) (s : Session)
    (calm : s.disturbances = []) (given : s.source.text? a = some text)
    (met : Directive.met text = before ++ e :: after)
    (settled : ∀ p ∈ before, s.source.Settled (s.Keeps kind) p.directive.name)
    (stuck : s.flight.isActive e.directive.name = true ∨ name = e.directive.name)
    (outside : a ∉ s.flight.path) :
    Reads (fun r => a ∈ r.within.dropLast → (s.source.text? r.name).isSome = true) s
      (preprocess kind room name s).2 := by
  induction room generalizing name s with
  | zero => exact .refl _ s
  | succ room ih =>
    refine reads_step calm ?_ ?_
    · intro _ below
      simp only [List.dropLast_concat] at below
      exact absurd below outside
    · intro text' passed sight rest t idle body met' known fresh needed
      have path : t.flight.path = s.flight.path ++ [name] := congrArg Flight.path known.flight
      have source : t.source = s.source := known.still.source
      -- From here on the directive refers to a name in flight.
      have blocked : (s.entering name).flight.isActive e.directive.name = true := by
        cases stuck with
        | inl active =>
          simp only [Flight.isActive, List.contains_iff_mem] at active
          simp [entering, Flight.isActive, active]
        | inr same =>
          obtain rfl := same
          simp [entering, Flight.isActive]
      have later : ∀ p ∈ before, s.source.Settled (t.Keeps kind) p.directive.name := by
        intro p member
        refine (settled p member).mono ?_
        intro other kept
        refine known.still.grown other ?_
        rwa [entering, shelf_with_flight]
      by_cases same : name = a
      · subst same
        obtain rfl := Option.some.inj (given.symm.trans (Source.text?_of_body body))
        cases known.stuck blocked (met'.symm.trans met) with
        | inl here =>
          obtain rfl := here
          exact reads_of_active (known.flight ▸ blocked)
        | inr member =>
          have there := reads_of_settled room sight.directive.name t known.calm
            (source ▸ later sight member) needed
          rw [source] at there
          exact there.mono fun r holds _ => holds
      · rw [← source] at given later ⊢
        refine ih sight.directive.name t known.calm given later (.inl (known.flight ▸ blocked)) ?_
        rw [path]
        simp [outside, Ne.symm same]

/-- On behalf of another spelling of `a` only templates are read below `a` that there are. -/
theorem reads_of_respelled {a : String} (room : Nat) (name : String) (s : Session)
    (calm : s.disturbances = []) (other : name ≠ a)
    (same : s.source.text? a = s.source.text? name) (outside : a ∉ s.flight.path) :
    Reads (fun r => a ∈ r.within.dropLast → (s.source.text? r.name).isSome = true) s
      (preprocess kind room name s).2 := by
  cases room with
  | zero => exact .refl _ s
  | succ room =>
    refine reads_step calm ?_ ?_
    · intro _ below
      simp only [List.dropLast_concat] at below
      exact absurd below outside
    · intro text passed sight rest t idle body met known fresh needed
      have path : t.flight.path = s.flight.path ++ [name] := congrArg Flight.path known.flight
      have source : t.source = s.source := known.still.source
      have given : s.source.text? a = some text := same.trans (Source.text?_of_body body)
      -- `a` has the same text, so it gets stuck where this spelling went down.
      have settled := known.settled
      have entering : (s.entering name).source = s.source := rfl
      rw [entering, ← source] at settled
      rw [← source] at given ⊢
      refine reads_while_stuck room sight.directive.name t known.calm given met settled (.inr rfl) ?_
      rw [path]
      simp [outside, Ne.symm other]

end Session

end Collage
