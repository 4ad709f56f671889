import Collage.Proofs.Session.Run

/-! # The history of a run

A session remembers its readings, and what disturbs it is due right after some of them.  So what
happened between two sessions can be told from the two (`Session.eventsUntil`), and what happened in
a run is told by the run (`Session.history`): which templates were read, what changed after which of
them, and what was in flight meanwhile.  `Source.after` is the source that is left by a history.

`Session.Passes` says that certain events lead from one session to another.
-/

namespace Collage

/-- One thing that happens to a session. -/
inductive Event where
  | read (r : Reading)
  /-- A change, with the names that are in flight meanwhile. -/
  | change (within : List String) (c : Change)

namespace Event

/-- Whether an event happens while a path is in flight, other than the reading that the path begins
with. -/
def Inside (path : List String) : Event → Prop
  | read r => path <+: r.within ∧ r.within ≠ path
  | change within _ => path <+: within

theorem Inside.mono {path : List String} {name : String} {e : Event}
    (inside : e.Inside (path ++ [name])) : e.Inside path := by
  have shorter : path <+: path ++ [name] := List.prefix_append path [name]
  cases e with
  | read r =>
    refine ⟨shorter.trans inside.1, ?_⟩
    intro same
    have long := inside.1.length_le
    rw [same, List.length_append, List.length_singleton] at long
    omega
  | change within c => exact shorter.trans inside

theorem inside_read (path : List String) (name asked : String) :
    (read ⟨asked, path ++ [name]⟩).Inside path :=
  ⟨List.prefix_append path [name], by simp⟩

end Event

/-! ## Sources -/

namespace Source

/-- What becomes of a source by an event. -/
def undergo (source : Source) : Event → Source
  | .change _ (.store name bytes) => source.insert name bytes
  | .change _ (.erase name) => source.erase name
  | .change _ (.become other) => other
  | .change _ (.evict ..) | .change _ (.invalidate ..) | .change _ (.clear _) | .read _ => source

/-- What is left of a source by events. -/
def after (source : Source) (events : List Event) : Source := events.foldl undergo source

theorem after_append (source : Source) (events more : List Event) :
    source.after (events ++ more) = (source.after events).after more :=
  List.foldl_append

end Source

namespace Session

variable {s t u : Session} {events more : List Event} {name : String}

theorem source_apply (s : Session) (within : List String) (c : Change) :
    (s.apply c).source = s.source.undergo (.change within c) := by
  cases c with
  | store name bytes => rfl
  | erase name => rfl
  | become source => rfl
  | evict kind name => exact source_withShelf ..
  | invalidate kind name => exact source_withShelf ..
  | clear kind => exact source_withShelf ..

/-! ## Events between two sessions -/

/-- The events of some readings, the oldest of them first, and the disturbances that are still to
come.  After each reading the changes happen that are due. -/
def happening (pending : List Disturbance) (old : List Reading) :
    List Reading → List Event × List Disturbance
  | [] => ([], pending)
  | r :: later =>
    let due := (pending.filter (·.due (r :: old))).flatMap (·.changes)
    let (events, left) := happening (pending.filter fun d => !d.due (r :: old)) (r :: old) later
    (.read r :: (due.map (.change r.within) ++ events), left)

theorem happening_append (pending : List Disturbance) (old first second : List Reading) :
    happening pending old (first ++ second) =
      ((happening pending old first).1 ++
          (happening (happening pending old first).2 (first.reverse ++ old) second).1,
        (happening (happening pending old first).2 (first.reverse ++ old) second).2) := by
  induction first generalizing pending old with
  | nil => rfl
  | cons r rest ih => simp [happening, ih]

/-- The events that lead from one session to another. -/
def eventsUntil (s t : Session) : List Event :=
  (happening s.disturbances s.readings
    (t.readings.take (t.readings.length - s.readings.length)).reverse).1

/-- What happens in a step. -/
def happens (s : Session) : Step → List Event
  | .change c => [.change [] c]
  | .render kind name data => s.eventsUntil (s.render kind name data).2
  | .prepare kind name => s.eventsUntil (s.prepare kind name).2

/-- What happens in a run. -/
def history (s : Session) : List Step → List Event
  | [] => []
  | step :: rest => s.happens step ++ (s.perform step).history rest

/-- Some readings lead from one session to another, with these events. -/
def Passes (s : Session) (events : List Event) (t : Session) : Prop :=
  ∃ readings, t.readings = readings.reverse ++ s.readings ∧
    happening s.disturbances s.readings readings = (events, t.disturbances)

theorem Passes.eventsUntil_eq (passes : s.Passes events t) : s.eventsUntil t = events := by
  obtain ⟨readings, grown, happened⟩ := passes
  have new : t.readings.take (t.readings.length - s.readings.length) = readings.reverse := by
    simp [grown]
  rw [eventsUntil, new, List.reverse_reverse, happened]

theorem Passes.of_eq (readings : t.readings = s.readings)
    (disturbances : t.disturbances = s.disturbances) : s.Passes [] t :=
  ⟨[], readings, by rw [happening, disturbances]⟩

theorem Passes.of_flight {flight : Flight}
    (passes : ({ s with flight } : Session).Passes events t) : s.Passes events t := passes

theorem Passes.trans (first : s.Passes events t) (second : t.Passes more u) :
    s.Passes (events ++ more) u := by
  obtain ⟨readings, grown, happened⟩ := first
  obtain ⟨readings', grown', happened'⟩ := second
  refine ⟨readings ++ readings', by simp [grown', grown], ?_⟩
  rw [happening_append, happened, ← grown, happened']

theorem disturbances_foldl_apply (changes : List Change) (s : Session) :
    (changes.foldl apply s).disturbances = s.disturbances := by
  induction changes generalizing s with
  | nil => rfl
  | cons c rest ih => rw [List.foldl_cons, ih, disturbances_apply]

/-- The session once a name was asked for, before what is due happens. -/
def asked (s : Session) (name : String) : Session :=
  { s with
    readings := ⟨name, s.flight.path⟩ :: s.readings
    disturbances := s.disturbances.filter fun d => !d.due (⟨name, s.flight.path⟩ :: s.readings) }

/-- The changes that are due right after a reading. -/
def due (s : Session) (name : String) : List Change :=
  (s.disturbances.filter (·.due (⟨name, s.flight.path⟩ :: s.readings))).flatMap (·.changes)

theorem snd_read (s : Session) (name : String) :
    (s.read name).2 = (s.due name).foldl apply (s.asked name) := rfl

theorem passes_read (s : Session) (name : String) :
    s.Passes (.read ⟨name, s.flight.path⟩ :: (s.due name).map (.change s.flight.path))
      (s.read name).2 := by
  refine ⟨[⟨name, s.flight.path⟩], (s.beside_read name).readings, ?_⟩
  rw [snd_read, disturbances_foldl_apply]
  simp only [happening, asked, due, List.append_nil]

end Session

end Collage
