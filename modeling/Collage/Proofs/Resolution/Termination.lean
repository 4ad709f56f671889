import Collage.Proofs.Resolution.Readings
import Collage.Template.Engine

/-! # Resolutions end

Whatever the templates of a source refer to, there is room enough for a resolution: each template
that is put together inside of another one has a text and was not in flight, so there are fewer and
fewer names left (`Session.unseen`).  More room than enough makes no difference.
-/

namespace Collage.Session

variable {kind : OutputKind} {room : Nat} {name : String} {s : Session}
  {templates : List (String × ByteArray)}

/-! ## Room enough -/

/-- The number of names of a source that are not on a path. -/
def unseen (source : Source) (path : List String) : Nat :=
  (source.names.toFinset \ path.toFinset).card

theorem unseen_le (source : Source) (path : List String) :
    unseen source path ≤ source.names.toFinset.card :=
  Finset.card_le_card Finset.sdiff_subset

theorem unseen_lt {source : Source} {path : List String} (known : name ∈ source.names)
    (outside : name ∉ path) : unseen source (path ++ [name]) < unseen source path := by
  refine Finset.card_lt_card (Finset.ssubset_iff_subset_ne.2 ⟨?_, ?_⟩)
  · intro x member
    simp only [Finset.mem_sdiff, List.mem_toFinset, List.mem_append, not_or] at member ⊢
    exact ⟨member.1, member.2.1⟩
  · intro same
    have member : name ∈ source.names.toFinset \ path.toFinset := by
      simp [known, outside]
    rw [← same] at member
    simp at member

/-- A template has room if those it refers to have. -/
theorem room_step (calm : s.disturbances = [])
    (inside : ∀ text child t, s.flight.isActive name = false → s.source.body name = .ok text →
      Name.normalize child = child → t.source = s.source → t.disturbances = [] →
      t.flight.path = s.flight.path ++ [name] →
      Ends (fun _ _ => True) (fun halt _ => halt ≠ .outOfRoom) (preprocess kind room child t)) :
    Ends (fun _ _ => True) (fun halt _ => halt ≠ .outOfRoom)
      (preprocess kind (room + 1) name s) := by
  have walk : Walk kind room name s (fun _ => True) (fun _ _ => True)
      (fun halt _ => halt ≠ .outOfRoom) :=
    { active := fun _ => by simp
      entered := fun _ => trivial
      own := fun _ _ _ _ => by simp
      visited := by
        intro text passed sight rest t idle body _ known _ _ _
        refine (inside text sight.directive.name t idle body sight.directive.normalize_name
          known.still.source known.calm (congrArg Flight.path known.flight)).imp
          (fun _ _ _ => trivial) ?_
        intro halt u finished
        cases halt with
        | failed e => simp [Halt.within]
        | outOfRoom => exact absurd rfl finished
      done := fun _ _ _ _ => trivial }
  exact walk_rule walk calm

/-- Room for every name of the source that is not in flight, and for one more, is room enough. -/
theorem preprocess_has_room (room : Nat) (name : String) (s : Session) (calm : s.disturbances = [])
    (normal : Name.normalize name = name) (enough : unseen s.source s.flight.path < room) :
    Ends (fun _ _ => True) (fun halt _ => halt ≠ .outOfRoom) (preprocess kind room name s) := by
  induction room generalizing name s with
  | zero => omega
  | succ room ih =>
    refine room_step calm ?_
    intro text child t idle body normal' source calm' path
    have outside : name ∉ s.flight.path := by simpa [Flight.isActive] using idle
    have known := Source.mem_names_of_text? normal (Source.text?_of_body body)
    -- The name that has entered has a text and was not in flight, so one fewer is left.
    have fewer := unseen_lt known outside
    refine ih child t calm' normal' ?_
    rw [path, source]
    omega

/-- A name that is not normal takes at most one step more. -/
theorem preprocess_has_room_respelled (name : String) (s : Session) (calm : s.disturbances = [])
    (enough : s.source.names.toFinset.card + 2 ≤ room) :
    Ends (fun _ _ => True) (fun halt _ => halt ≠ .outOfRoom) (preprocess kind room name s) := by
  -- The name itself may have no text, but those that it refers to are normal.
  obtain ⟨room, rfl⟩ : ∃ r, room = r + 1 := ⟨room - 1, by omega⟩
  refine room_step calm ?_
  intro text child t _ _ normal source calm' path
  refine preprocess_has_room room child t calm' normal ?_
  have bound := unseen_le t.source t.flight.path
  rw [source] at bound ⊢
  omega

/-- A session has room enough for whatever it is asked for. -/
theorem resolve_has_room (kind : OutputKind) (name : String) (s : Session)
    (calm : s.disturbances = []) :
    Ends (fun _ _ => True) (fun halt _ => halt ≠ .outOfRoom)
      (preprocess kind s.room name { s with flight := .empty }) := by
  refine preprocess_has_room_respelled (s := { s with flight := .empty }) name calm ?_
  have distinct : s.source.names.toFinset.card ≤ s.source.names.length :=
    List.toFinset_card_le s.source.names
  have room : s.room = s.source.names.length + 2 := by
    simp [Session.room, calm, Source.length_names]
  rw [room]
  exact Nat.add_le_add_right distinct 2

/-- So what is asked for fails only where putting it together fails. -/
theorem resolve_error (calm : s.disturbances = []) {e : ComposeError}
    (failed : (s.resolve kind name).1 = .error e) :
    (preprocess kind s.room (Name.normalize name) { s with flight := .empty }).1 =
      .error (.failed e) := by
  have room := resolve_has_room kind (Name.normalize name) s calm
  obtain ⟨halt, stopped, rfl, -⟩ := exists_halt_of_resolve failed
  cases halt with
  | failed cause => exact stopped
  | outOfRoom => exact absurd rfl (room.of_error stopped)

/-! ## More room -/

section

variable {visit visit' : Visit}
  (agree : ∀ name s, (visit name s).1 = .error .outOfRoom ∨ visit' name s = visit name s)

include agree

theorem follow_agree (parent : String) (sights : List Directive.Sighting) (d : Draft) (s : Session) :
    (follow kind visit parent sights d s).1 = .error .outOfRoom ∨
      follow kind visit' parent sights d s = follow kind visit parent sights d s := by
  induction sights generalizing d s with
  | nil => exact .inr rfl
  | cons sight rest ih =>
    rcases d.wants_cases sight with ⟨layout, second⟩ | ⟨inclusion, again⟩ | wants
    · rw [follow_of_second layout second, follow_of_second layout second]
      exact .inr rfl
    · rw [follow_of_repeated inclusion again, follow_of_repeated inclusion again]
      exact ih d s
    · cases found : d.resolved? sight.directive.name with
      | some node =>
        rw [follow_of_resolved wants found, follow_of_resolved wants found]
        exact ih _ s
      | none =>
        rcases s.needs_or_kept kind sight.directive.name with needed | ⟨idle, node, kept⟩
        · rw [follow_of_needed wants found needed, follow_of_needed wants found needed]
          cases agree sight.directive.name s with
          | inl out =>
            rcases result : visit sight.directive.name s with ⟨halt | node, t⟩
            · rw [result] at out
              cases out
              exact .inl rfl
            · rw [result] at out
              cases out
          | inr same =>
            rw [same]
            rcases visit sight.directive.name s with ⟨halt | node, t⟩
            · exact .inr rfl
            · exact ih _ t
        · rw [follow_of_kept wants found idle kept, follow_of_kept wants found idle kept]
          exact ih _ s

theorem build_agree (name : String) (s : Session) :
    (build kind visit name s).1 = .error .outOfRoom ∨
      build kind visit' name s = build kind visit name s := by
  rw [build_eq, build_eq]
  cases s.source.body name with
  | error e => exact .inr rfl
  | ok text =>
    cases follow_agree agree name (Directive.met text) .empty (s.read name).2 with
    | inl out =>
      left
      rcases result : follow kind visit name (Directive.met text) .empty (s.read name).2 with
        ⟨halt | draft, t⟩
      · rw [result] at out
        cases out
        simp only [result, finish]
      · rw [result] at out
        cases out
    | inr same =>
      right
      simp only [same]

end

theorem preprocess_agree (kind : OutputKind) (room : Nat) (name : String) (s : Session) :
    (preprocess kind room name s).1 = .error .outOfRoom ∨
      preprocess kind (room + 1) name s = preprocess kind room name s := by
  induction room generalizing name s with
  | zero => exact .inl rfl
  | succ room ih =>
    cases active : s.flight.isActive name with
    | true =>
      rw [preprocess_of_active active, preprocess_of_active active]
      exact .inr rfl
    | false =>
      rw [preprocess_of_idle active, preprocess_of_idle active]
      cases build_agree ih name (s.entering name) with
      | inl out => exact .inl out
      | inr same => exact .inr (by rw [same])

/-- A resolution that did not run out of room comes to the same in more room. -/
theorem preprocess_of_le {more : Nat} (le : room ≤ more)
    (finished : (preprocess kind room name s).1 ≠ .error .outOfRoom) :
    preprocess kind more name s = preprocess kind room name s := by
  -- Each unit of room that is added makes no difference, as the room before did suffice.
  induction more, le using Nat.le_induction with
  | base => rfl
  | succ more _ ih =>
    cases preprocess_agree kind more name s with
    | inl out =>
      rw [ih] at out
      exact absurd out finished
    | inr same => exact same.trans ih

/-! ## What every resolution comes to -/

/-- What a reading tells: the names that had entered before it, below those that were in flight
already, are at most as many as are stored, and the name that is read is none of those in flight. -/
def Bounded (templates : List (String × ByteArray)) (path : List String) (r : Reading) : Prop :=
  ∃ entered, r.within = path ++ entered ++ [r.name] ∧ r.name ∉ path ++ entered ∧
    entered.length ≤ (Sorted.keys templates).toFinset.card

theorem Below.bounded {path entered : List String} {r : Reading}
    (below : Below templates path entered r) : Bounded templates path r := by
  refine ⟨entered, below.within, ?_, below.length_le⟩
  rw [List.mem_append, not_or]
  exact ⟨below.outside, fun member => List.disjoint_of_nodup_append below.once member (by simp)⟩

/-- Readings below another spelling of a stored name `a` are bounded as well.  If all stored names
had entered below it, `a` were one of them, and no name could be read but a stored one. -/
theorem Below.bounded_respelled {path entered : List String} {r : Reading} {a : String}
    (below : Below templates (path ++ [name]) entered r) (stored : a ∈ Sorted.keys templates)
    (there : a ∉ path → a ∈ r.within.dropLast →
      ((Source.store templates).text? r.name).isSome = true) : Bounded templates path r := by
  have fewer : entered.length < (Sorted.keys templates).toFinset.card := by
    by_contra all
    rw [Nat.not_lt] at all
    -- Otherwise `a` had entered as well, and what is read below it had entered before.
    have member := below.mem_of_length_le all stored
    have outside := (below.stored a member).2
    rw [List.mem_append, not_or] at outside
    have inside : a ∈ r.within.dropLast := by
      rw [below.within, List.dropLast_concat]
      exact List.mem_append_right _ member
    obtain ⟨text, given⟩ := Option.isSome_iff_exists.1 (there outside.1 inside)
    have known := Source.mem_keys_of_text? given
    rw [below.normal] at known
    exact List.disjoint_of_nodup_append below.once (below.mem_of_length_le all known) (by simp)
  refine ⟨name :: entered, ?_, ?_, ?_⟩
  · simpa using below.within
  · have once := List.disjoint_of_nodup_append below.once
    have outside := below.outside
    simp only [List.mem_append, List.mem_cons, List.not_mem_nil, or_false, not_or] at outside ⊢
    exact ⟨outside.1, outside.2, fun member => once member (by simp)⟩
  · rw [List.length_cons]
    omega

/-- All readings of a resolution are bounded, under whatever spelling it is asked for. -/
theorem preprocess_bounded (room : Nat) (name : String) (s : Session)
    (store : s.source = .store templates) (calm : s.disturbances = []) :
    Reads (Bounded templates s.flight.path) s (preprocess kind room name s).2 := by
  by_cases normal : Name.normalize name = name
  · exact (preprocess_below room name s store calm normal).mono fun r ⟨_, below⟩ => below.bounded
  · -- The name itself is read within the bound, and below it one more name has entered than
    -- `Below` counts.
    have own : Reads (fun r => Bounded templates s.flight.path r ∨
        ∃ entered, Below templates (s.flight.path ++ [name]) entered r ∧
          Name.normalize name ∈ Sorted.keys templates) s (preprocess kind room name s).2 := by
      cases room with
      | zero => exact .refl _ s
      | succ room =>
        refine reads_step calm ?_ ?_
        · intro idle
          exact .inl ⟨[], by simp, by simpa [Flight.isActive] using idle, by simp⟩
        · intro text passed sight rest t idle body met known fresh needed
          have path : t.flight.path = s.flight.path ++ [name] := congrArg Flight.path known.flight
          have given := Source.text?_of_body body
          rw [store] at given
          refine (preprocess_below room sight.directive.name t (known.still.source.trans store)
            known.calm sight.directive.normalize_name).mono ?_
          rintro r ⟨entered, below⟩
          exact .inr ⟨entered, path ▸ below, Source.mem_keys_of_text? given⟩
    -- That name takes the place of a stored one, below which nothing missing is read.
    have there : Reads (fun r => Name.normalize name ∉ s.flight.path →
        Name.normalize name ∈ r.within.dropLast → (s.source.text? r.name).isSome = true) s
        (preprocess kind room name s).2 := by
      by_cases outside : Name.normalize name ∈ s.flight.path
      · exact own.mono fun r _ absent => absurd outside absent
      · refine (reads_of_respelled room name s calm (Ne.symm normal) ?_ outside).mono ?_
        · rw [store]
          exact Source.text?_normalize
        · exact fun r there _ => there
    refine (own.and there).mono ?_
    rintro r ⟨bounded | ⟨entered, below, stored⟩, there⟩
    · exact bounded
    · exact below.bounded_respelled stored (store ▸ there)

/-- Every resolution over a store ends: with a node or a failure, the same in all room from a
certain amount on.  It leaves in flight what was in flight.  Each name that enters is read at once;
by then at most one name more than there are stored has entered, counting that one, and the name was
not in flight before it entered. -/
theorem preprocess_ends (templates : List (String × ByteArray)) (kind : OutputKind) (name : String)
    (s : Session) (store : s.source = .store templates) (calm : s.disturbances = []) :
    let stored := (Sorted.keys templates).toFinset.card
    ∃ (outcome : Except ComposeError (Node Artifact)) (t : Session) (more : List Reading),
      (∀ room, stored + 2 ≤ room →
        preprocess kind room name s = (outcome.mapError .failed, t)) ∧
      t.flight = s.flight ∧ t.readings = more ++ s.readings ∧
      ∀ r ∈ more, r.within.length ≤ s.flight.depth + (stored + 1) ∧
        ∃ before, r.within = before ++ [r.name] ∧ s.flight.path <+: before ∧ r.name ∉ before := by
  intro stored
  have finished : Ends (fun _ _ => True) (fun halt _ => halt ≠ .outOfRoom)
      (preprocess kind (stored + 2) name s) :=
    preprocess_has_room_respelled name s calm (store ▸ Nat.le_refl _)
  have reads : Reads (Bounded templates s.flight.path) s (preprocess kind (stored + 2) name s).2 :=
    preprocess_bounded (stored + 2) name s store calm
  have flight := flight_preprocess kind (stored + 2) name s
  obtain ⟨more, eq, bounded⟩ := reads
  obtain ⟨outcome, same⟩ : ∃ outcome : Except ComposeError (Node Artifact),
      (preprocess kind (stored + 2) name s).1 = outcome.mapError .failed := by
    revert finished
    rcases preprocess kind (stored + 2) name s with ⟨(e | _) | node, t⟩
    · exact fun _ => ⟨.error e, rfl⟩
    · exact fun finished => absurd rfl finished
    · exact fun _ => ⟨.ok node, rfl⟩
  refine ⟨outcome, (preprocess kind (stored + 2) name s).2, more, ?_, flight, eq, ?_⟩
  · intro room enough
    rw [preprocess_of_le enough, ← same]
    rw [same]
    cases outcome <;> simp [Except.mapError]
  · intro r member
    obtain ⟨entered, within, outside, length⟩ := bounded r member
    refine ⟨?_, s.flight.path ++ entered, within, List.prefix_append _ _, outside⟩
    rw [within, Flight.depth]
    simp only [List.length_append, List.length_cons, List.length_nil]
    omega

/-- Two templates that refer to each other, asked for under another spelling. -/
theorem preprocess_ends_in_circle :
    let templates := [("a", "\x7b\x7b layout \"@b\" \x7d\x7d".toUTF8),
      ("b", "\x7b\x7b template \"@a\" . \x7d\x7d".toUTF8)]
    let s := start (.store templates) .empty .enabled []
    s.source = .store templates ∧ s.disturbances = [] ∧
      ∃ (outcome : Except ComposeError (Node Artifact)) (t : Session),
        (∀ room, 4 ≤ room → preprocess .html room "./a" s = (outcome.mapError .failed, t)) ∧
        t.flight = .empty ∧ ∀ r ∈ t.readings, r.within.length ≤ 3 := by
  intro templates s
  have two : (Sorted.keys templates).toFinset.card = 2 := by decide
  obtain ⟨outcome, t, more, ends, flight, readings, bounded⟩ :=
    preprocess_ends templates .html "./a" s rfl rfl
  rw [two] at ends bounded
  refine ⟨rfl, rfl, outcome, t, ends, flight, ?_⟩
  intro r member
  have first : s.readings = [] := rfl
  rw [readings, first, List.append_nil] at member
  exact (bounded r member).1

end Collage.Session
