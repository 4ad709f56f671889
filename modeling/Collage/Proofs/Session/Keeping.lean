import Collage.Proofs.Session.Run

/-! # Sessions that keep nodes

A session that starts with caches has caches forever: what goes to a shelf, what is given up and
what is cleared changes the nodes in a cache, but never takes the cache away
(`Session.keeping_run`). -/

namespace Collage.Session

variable {kind : OutputKind} {s t : Session}

/-- The shelf of an output kind is a cache. -/
def Keeping (s : Session) (kind : OutputKind) : Prop := ∃ c, s.shelf kind = .keeping c

theorem Keeping.with_shelf {other : OutputKind} {shelf : Shelf Artifact}
    (keeping : s.Keeping kind) (cache : s.Keeping other → ∃ c, shelf = .keeping c) :
    (s.withShelf other shelf).Keeping kind := by
  rw [Keeping, shelf_withShelf]
  split
  · next same => exact cache (same ▸ keeping)
  · exact keeping

theorem Keeping.apply (keeping : s.Keeping kind) (c : Change) : (s.apply c).Keeping kind := by
  obtain ⟨source, eq⟩ | ⟨other, name, eq | eq⟩ := s.apply_cases c
  · rw [eq]
    simpa [Keeping] using keeping
  · rw [eq]
    refine keeping.with_shelf ?_
    rintro ⟨cache, shelf⟩
    exact ⟨_, by rw [shelf, Shelf.invalidate]⟩
  · rw [eq]
    refine keeping.with_shelf ?_
    rintro ⟨cache, shelf⟩
    exact ⟨_, by rw [shelf, Shelf.clear]⟩

/-- A session that keeps nodes of one kind goes on to do so, whatever is resolved. -/
theorem kept_keeping (kind other : OutputKind) :
    Kept other (fun s t => s.Keeping kind → t.Keeping kind) where
  refl := fun _ => id
  trans := fun first second keeping => second (first keeping)
  read := by
    intro s name keeping
    refine s.read_rule name (P := fun t => t.Keeping kind) ?_ ?_ ?_
    · simpa [Keeping] using keeping
    · intro t later _ keeping
      simpa [Keeping] using keeping
    · exact fun t c _ keeping => keeping.apply c
  commit := by
    intro s name artifact dependencies keeping
    rw [Keeping, shelf_commit]
    split
    · next same =>
      obtain ⟨cache, shelf⟩ := same ▸ keeping
      rw [shelf, Shelf.put]
      split <;> exact ⟨_, rfl⟩
    · exact keeping

theorem keeping_preprocess (other : OutputKind) (room : Nat) (name : String)
    (keeping : s.Keeping kind) : (preprocess other room name s).2.Keeping kind := by
  refine (kept_keeping kind other).preprocess ?_ room name s keeping
  intro s t flight inside keeping
  have later := inside (by simpa [Keeping] using keeping)
  simpa [Keeping] using later

theorem keeping_run (source : Source) (tools : Tools) (disturbances : List Disturbance)
    (steps : List Step) (kind : OutputKind) :
    ((start source tools .enabled disturbances).run steps).Keeping kind := by
  refine run_rule (P := fun s => s.Keeping kind) ?_ (fun s c _ keeping => keeping.apply c) ?_
  · intro s other name keeping
    obtain ⟨node, -, eq⟩ | ⟨-, eq⟩ := s.resolve_cases other name
    · rwa [eq]
    · rw [eq]
      exact keeping_preprocess other _ _ (by simpa [Keeping] using keeping)
  · cases kind <;> exact ⟨_, rfl⟩

end Collage.Session
