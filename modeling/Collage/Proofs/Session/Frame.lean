import Collage.Session

/-! # What steps of a session leave alone

Every operation of a session changes a few of its parts.  These lemmas say for the rest that it is
what it was: a change from outside never touches the tools, what is in flight or what was read,
and a commit touches one shelf only.
-/

namespace Collage.Session

variable (s : Session) (kind : OutputKind) (name : String)

/-! ## Another shelf -/

section

variable (shelf : Shelf Artifact)

@[simp] theorem source_withShelf : (s.withShelf kind shelf).source = s.source := by
  cases kind <;> rfl

@[simp] theorem tools_withShelf : (s.withShelf kind shelf).tools = s.tools := by
  cases kind <;> rfl

@[simp] theorem flight_withShelf : (s.withShelf kind shelf).flight = s.flight := by
  cases kind <;> rfl

@[simp] theorem made_withShelf : (s.withShelf kind shelf).made = s.made := by
  cases kind <;> rfl

@[simp] theorem readings_withShelf : (s.withShelf kind shelf).readings = s.readings := by
  cases kind <;> rfl

@[simp] theorem disturbances_withShelf :
    (s.withShelf kind shelf).disturbances = s.disturbances := by
  cases kind <;> rfl

end

@[simp] theorem shelf_with_flight (flight : Flight) :
    ({ s with flight } : Session).shelf kind = s.shelf kind := by
  cases kind <;> rfl

@[simp] theorem shelf_with_source (source : Source) :
    ({ s with source } : Session).shelf kind = s.shelf kind := by
  cases kind <;> rfl

@[simp] theorem shelf_with_made (made : Nat) :
    ({ s with made } : Session).shelf kind = s.shelf kind := by
  cases kind <;> rfl

@[simp] theorem shelf_with_readings (readings : List Reading) :
    ({ s with readings } : Session).shelf kind = s.shelf kind := by
  cases kind <;> rfl

@[simp] theorem shelf_with_disturbances (disturbances : List Disturbance) :
    ({ s with disturbances } : Session).shelf kind = s.shelf kind := by
  cases kind <;> rfl

/-! ## Changes from outside -/

theorem evict_snd : (s.evict kind name).2 = (s.invalidate kind (Name.normalize name)).2 := rfl

/-- A change is one of the source or one of a shelf. -/
theorem apply_cases (c : Change) :
    (∃ source, s.apply c = { s with source }) ∨
      ∃ kind name, s.apply c = s.withShelf kind ((s.shelf kind).invalidate name).2 ∨
        s.apply c = s.withShelf kind (s.shelf kind).clear := by
  cases c with
  | store name bytes => exact .inl ⟨_, rfl⟩
  | erase name => exact .inl ⟨_, rfl⟩
  | become source => exact .inl ⟨_, rfl⟩
  | evict kind name => exact .inr ⟨kind, Name.normalize name, .inl rfl⟩
  | invalidate kind name => exact .inr ⟨kind, name, .inl rfl⟩
  | clear kind => exact .inr ⟨kind, "", .inr rfl⟩

@[simp] theorem disturbances_apply (c : Change) : (s.apply c).disturbances = s.disturbances := by
  obtain ⟨source, eq⟩ | ⟨kind, name, eq | eq⟩ := s.apply_cases c
  · rw [eq]
  · rw [eq, disturbances_withShelf]
  · rw [eq, disturbances_withShelf]

theorem shelf_apply_discarding {kind : OutputKind} (c : Change)
    (bare : s.shelf kind = .discarding) : (s.apply c).shelf kind = .discarding := by
  obtain ⟨source, eq⟩ | ⟨other, name, eq | eq⟩ := s.apply_cases c
  · rw [eq, shelf_with_source, bare]
  · rw [eq, shelf_withShelf]
    split
    · next same => rw [← same, bare, Shelf.invalidate]
    · exact bare
  · rw [eq, shelf_withShelf]
    split
    · next same => rw [← same, bare, Shelf.clear]
    · exact bare

/-- What becomes of the source depends on the source alone. -/
theorem source_apply_congr {s t : Session} (same : t.source = s.source) (c : Change) :
    (t.apply c).source = (s.apply c).source := by
  cases c with
  | store name bytes => simp [apply, same]
  | erase name => simp [apply, same]
  | become source => rfl
  | evict kind name => simpa [apply, evict, invalidate] using same
  | invalidate kind name => simpa [apply, invalidate] using same
  | clear kind => simpa [apply, clear] using same

/-- What a change leaves alone. -/
structure Beside (s t : Session) : Prop where
  tools : t.tools = s.tools
  flight : t.flight = s.flight
  made : t.made = s.made
  readings : t.readings = s.readings

theorem Beside.trans {s t u : Session} (first : Beside s t) (second : Beside t u) : Beside s u :=
  ⟨second.tools.trans first.tools, second.flight.trans first.flight,
    second.made.trans first.made, second.readings.trans first.readings⟩

theorem beside_apply (c : Change) : Beside s (s.apply c) := by
  obtain ⟨source, eq⟩ | ⟨kind, name, eq | eq⟩ := s.apply_cases c
  all_goals
    rw [eq]
    constructor <;> simp

/-! ## Readings -/

/-- A property that the changes of all disturbances keep is kept by a reading. -/
theorem read_rule {P : Session → Prop}
    (asked : P { s with readings := ⟨name, s.flight.path⟩ :: s.readings })
    (fewer : ∀ t later, (∀ d ∈ later, d ∈ t.disturbances) → P t → P { t with disturbances := later })
    (changed : ∀ t c, (∃ d ∈ s.disturbances, c ∈ d.changes) → P t → P (t.apply c)) :
    P (s.read name).2 := by
  -- The disturbances that are due are taken off first, and then all their changes are made.
  have run : ∀ (changes : List Change) (t : Session),
      (∀ c ∈ changes, ∃ d ∈ s.disturbances, c ∈ d.changes) → P t → P (changes.foldl apply t) := by
    intro changes
    induction changes with
    | nil => exact fun t _ holds => holds
    | cons c rest ih =>
      intro t known holds
      exact ih _ (fun c member => known c (List.mem_cons_of_mem _ member))
        (changed t c (known c List.mem_cons_self) holds)
  refine run _ _ ?_ (fewer _ _ ?_ asked)
  · intro c member
    obtain ⟨d, due, inside⟩ := List.mem_flatMap.1 member
    exact ⟨d, (List.mem_filter.1 due).1, inside⟩
  · intro d member
    exact (List.mem_filter.1 member).1

@[simp] theorem read_fst : (s.read name).1 = s.source.read name := rfl

theorem beside_read :
    Beside { s with readings := ⟨name, s.flight.path⟩ :: s.readings } (s.read name).2 := by
  refine s.read_rule name ⟨rfl, rfl, rfl, rfl⟩ ?_ ?_
  · exact fun t later _ holds => ⟨holds.1, holds.2, holds.3, holds.4⟩
  · exact fun t c _ holds => holds.trans (t.beside_apply c)

/-- Where nothing disturbs, a reading is remembered and that is all. -/
theorem read_of_undisturbed (calm : s.disturbances = []) :
    s.read name = (s.source.read name,
      { s with readings := ⟨name, s.flight.path⟩ :: s.readings }) := by
  simp [read, disturb, calm]

/-! ## Commits -/

section

variable (artifact : Artifact) (dependencies : List (Node Artifact))

@[simp] theorem commit_fst :
    (s.commit kind name artifact dependencies).1 = ⟨s.made, name, artifact, dependencies⟩ := rfl

@[simp] theorem source_commit :
    (s.commit kind name artifact dependencies).2.source = s.source := by
  simp [commit]

@[simp] theorem tools_commit :
    (s.commit kind name artifact dependencies).2.tools = s.tools := by
  simp [commit]

@[simp] theorem flight_commit :
    (s.commit kind name artifact dependencies).2.flight = s.flight := by
  simp [commit]

@[simp] theorem made_commit :
    (s.commit kind name artifact dependencies).2.made = s.made + 1 := by
  simp [commit]

@[simp] theorem readings_commit :
    (s.commit kind name artifact dependencies).2.readings = s.readings := by
  simp [commit]

@[simp] theorem disturbances_commit :
    (s.commit kind name artifact dependencies).2.disturbances = s.disturbances := by
  simp [commit]

@[simp] theorem shelf_commit (other : OutputKind) :
    (s.commit kind name artifact dependencies).2.shelf other =
      if other = kind then
        ((s.shelf kind).put ⟨s.made, name, artifact, dependencies⟩).2
      else s.shelf other :=
  (shelf_with_made _ other _).trans (shelf_withShelf s kind other _)

end

end Collage.Session
