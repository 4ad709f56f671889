import Collage.Proofs.Session.Run

/-! # Resolutions that nothing disturbs

Where a session expects no more disturbances, a resolution leaves most of it as it was.
`Session.Still` says what: the source, the tools and the shelf of the other output kind stay,
nothing that is kept gets lost, and what was read before is still on record.
-/

namespace Collage

namespace Session

variable {kind : OutputKind} {s t u : Session}

/-- What stays as it was from one session to a later one. -/
structure Still (kind : OutputKind) (s t : Session) : Prop where
  calm : t.disturbances = []
  source : t.source = s.source
  tools : t.tools = s.tools
  others : ∀ other, other ≠ kind → t.shelf other = s.shelf other
  bare : s.shelf kind = .discarding → t.shelf kind = .discarding
  grown : ∀ name, (s.shelf kind).cache.contains name = true →
    (t.shelf kind).cache.contains name = true

theorem Still.refl (calm : s.disturbances = []) : Still kind s s :=
  ⟨calm, rfl, rfl, fun _ _ => rfl, id, fun _ => id⟩

theorem Still.trans (first : Still kind s t) (second : Still kind t u) : Still kind s u where
  calm := second.calm
  source := second.source.trans first.source
  tools := second.tools.trans first.tools
  others := fun other ne => (second.others other ne).trans (first.others other ne)
  bare := fun bare => second.bare (first.bare bare)
  grown := fun name kept => second.grown name (first.grown name kept)

/-- What is in flight, what was read and how much was made does not matter. -/
theorem Still.of_eq (still : Still kind s t) {s' t' : Session}
    (before : s' = { s with flight := s'.flight, readings := s'.readings, made := s'.made })
    (after : t' = { t with flight := t'.flight, readings := t'.readings, made := t'.made }) :
    Still kind s' t' := by
  have shelves : ∀ other, s'.shelf other = s.shelf other := by
    intro other
    rw [before]
    cases other <;> rfl
  have later : ∀ other, t'.shelf other = t.shelf other := by
    intro other
    rw [after]
    cases other <;> rfl
  refine ⟨?_, ?_, ?_, ?_, ?_, ?_⟩
  · rw [after]
    exact still.calm
  · rw [before, after]
    exact still.source
  · rw [before, after]
    exact still.tools
  · simpa [shelves, later] using still.others
  · simpa [shelves, later] using still.bare
  · simpa [shelves, later] using still.grown

theorem still_read (calm : s.disturbances = []) (name : String) :
    Still kind s (s.read name).2 := by
  rw [s.read_of_undisturbed name calm]
  exact (Still.refl calm).of_eq rfl rfl

theorem still_commit (calm : s.disturbances = []) (name : String) (artifact : Artifact)
    (dependencies : List (Node Artifact)) :
    Still kind s (s.commit kind name artifact dependencies).2 where
  calm := by simpa using calm
  source := by simp
  tools := by simp
  others := by
    intro other ne
    rw [shelf_commit, if_neg ne]
  bare := by
    intro bare
    rw [shelf_commit, if_pos rfl, bare, Shelf.put_discarding]
  grown := by
    intro other kept
    rw [shelf_commit, if_pos rfl]
    exact Shelf.contains_put kept

theorem kept_still (kind : OutputKind) :
    Kept kind (fun s t => s.disturbances = [] → Still kind s t) where
  refl := fun _ => Still.refl
  trans := fun first second calm => (first calm).trans (second (first calm).calm)
  read := fun _ name calm => still_read calm name
  commit := fun _ name artifact dependencies calm => still_commit calm name artifact dependencies

theorem still_preprocess (room : Nat) (name : String) (calm : s.disturbances = []) :
    Still kind s (preprocess kind room name s).2 := by
  refine (kept_still kind).preprocess ?_ room name s calm
  -- Entering and leaving change only what is in flight.
  intro s t flight still calm
  exact (still calm).of_eq rfl rfl

theorem still_resolve (kind : OutputKind) (name : String) (calm : s.disturbances = []) :
    Still kind s (s.resolve kind name).2 := by
  obtain ⟨node, -, eq⟩ | ⟨-, eq⟩ := s.resolve_cases kind name
  · rw [eq]
    exact Still.refl calm
  · rw [eq]
    exact (still_preprocess (s := { s with flight := .empty }) s.room _ calm).of_eq rfl rfl

end Session

end Collage
