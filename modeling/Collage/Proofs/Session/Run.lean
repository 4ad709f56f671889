import Collage.Proofs.Resolution.Loop

/-! # Runs of a session

A run is a list of steps: templates are rendered or prepared, and between two of them the source or
a shelf changes.  A resolution may be disturbed by the same changes, as far as the session still
expects disturbances.
-/

namespace Collage.Session

/-- One thing that happens to a session. -/
inductive Step where
  /-- A template is rendered. -/
  | render (kind : OutputKind) (name : String) (data : Json)
  /-- A template is resolved without being rendered. -/
  | prepare (kind : OutputKind) (name : String)
  /-- The source or a shelf is changed. -/
  | change (c : Change)

/-- The session after a step. -/
def perform (s : Session) : Step → Session
  | .render kind name data => (s.render kind name data).2
  | .prepare kind name => (s.prepare kind name).2
  | .change c => s.apply c

/-- The session after steps. -/
def run (s : Session) (steps : List Step) : Session := steps.foldl perform s

variable {s : Session} {kind : OutputKind} {name : String}

theorem snd_render (data : Json) : (s.render kind name data).2 = (s.resolve kind name).2 := by
  unfold render
  rcases s.resolve kind name with ⟨e | node, t⟩ <;> rfl

theorem snd_prepare : (s.prepare kind name).2 = (s.resolve kind name).2 := by
  unfold prepare
  rcases s.resolve kind name with ⟨e | node, t⟩ <;> rfl

/-- A template is kept, or it is put together with nothing in flight. -/
theorem resolve_cases (s : Session) (kind : OutputKind) (name : String) :
    (∃ node, (s.shelf kind).get? (Name.normalize name) = some node ∧
      s.resolve kind name = (.ok node, s)) ∨
    ((s.shelf kind).get? (Name.normalize name) = none ∧
      s.resolve kind name =
        ((preprocess kind s.room (Name.normalize name) { s with flight := .empty }).1.mapError
            (failure (Name.normalize name)),
          (preprocess kind s.room (Name.normalize name) { s with flight := .empty }).2)) := by
  cases found : (s.shelf kind).get? (Name.normalize name) with
  | some node => exact .inl ⟨node, rfl, by simp only [resolve, found]⟩
  | none =>
    refine .inr ⟨rfl, ?_⟩
    -- The room depends on the source and the disturbances, not on what is in flight.
    have room : ({ s with flight := .empty } : Session).room = s.room := rfl
    simp only [resolve, found, compose, room]
    rcases preprocess kind s.room (Name.normalize name) { s with flight := .empty } with
      ⟨halt | node, t⟩ <;> rfl

theorem resolve_ok {node : Node Artifact} (found : (s.resolve kind name).1 = .ok node) :
    (s.shelf kind).get? (Name.normalize name) = some node ∨
      (preprocess kind s.room (Name.normalize name) { s with flight := .empty }).1 = .ok node := by
  obtain ⟨other, kept, eq⟩ | ⟨-, eq⟩ := s.resolve_cases kind name
  · rw [eq] at found
    cases found
    exact .inl kept
  · rw [eq] at found
    cases outcome : (preprocess kind s.room (Name.normalize name) { s with flight := .empty }).1 with
    | ok other =>
      rw [outcome] at found
      cases found
      exact .inr rfl
    | error halt =>
      rw [outcome] at found
      cases found

/-- What is asked for fails because putting it together stops. -/
theorem exists_halt_of_resolve {e : ComposeError} (failed : (s.resolve kind name).1 = .error e) :
    ∃ halt,
      (preprocess kind s.room (Name.normalize name) { s with flight := .empty }).1 = .error halt ∧
      e = failure (Name.normalize name) halt ∧
      (s.resolve kind name).2 =
        (preprocess kind s.room (Name.normalize name) { s with flight := .empty }).2 := by
  obtain ⟨node, -, eq⟩ | ⟨-, eq⟩ := s.resolve_cases kind name
  · rw [eq] at failed
    cases failed
  · rw [eq] at failed ⊢
    cases outcome : (preprocess kind s.room (Name.normalize name) { s with flight := .empty }).1 with
    | ok node =>
      rw [outcome] at failed
      cases failed
    | error halt =>
      rw [outcome] at failed
      cases failed
      exact ⟨halt, rfl, rfl, rfl⟩

/-- What resolutions and changes keep, a run keeps. -/
theorem run_rule {P : Session → Prop} {steps : List Step}
    (resolved : ∀ s kind name, P s → P (s.resolve kind name).2)
    (changed : ∀ s c, .change c ∈ steps → P s → P (s.apply c)) (start : P s) :
    P (s.run steps) := by
  induction steps generalizing s with
  | nil => exact start
  | cons step rest ih =>
    -- The rest of the run starts from the session after the first step.
    refine ih (fun s c member => changed s c (List.mem_cons_of_mem _ member)) ?_
    cases step with
    | render kind name data =>
      rw [perform, snd_render]
      exact resolved s kind name start
    | prepare kind name =>
      rw [perform, snd_prepare]
      exact resolved s kind name start
    | change c => exact changed s c List.mem_cons_self start

end Collage.Session
