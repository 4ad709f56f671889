import Collage.Proofs.Cache.Reach

/-! # What offering a node changes

A node that is offered is refused and changes nothing, or it is taken and is from then on the one of
its name.  Then the edges that led from its name are gone, those to what it was built from are there,
and all else is as it was: the other nodes and the edges that lead from them, the ones to the name
included (`Graph.put_renews`).
-/

namespace Collage

namespace Cache

variable {α : Type} {c c' : Cache α} {n : Node α}

theorem dependsOn_put (put : c.put? n = some c') (x y : String) :
    c'.DependsOn x y ↔ if x = n.name then y ∈ n.dependencyNames else c.DependsOn x y := by
  obtain ⟨-, -, edges⟩ := put?_eq_some put
  rw [DependsOn, edges]
  by_cases own : x = n.name <;> simp [own, DependsOn]

theorem children_put (put : c.put? n = some c') (x : String) :
    c'.children x = if x = n.name then sortNames n.dependencyNames else c.children x := by
  have members : ∀ y, y ∈ c'.children x ↔
      if x = n.name then y ∈ n.dependencyNames else y ∈ c.children x := by
    intro y
    rw [mem_children, mem_children]
    exact dependsOn_put put x y
  by_cases own : x = n.name
  · simp only [own, if_true] at members ⊢
    exact eq_sortNames (ordered_sortNames _) (nodup_sortNames _) members
  · simp only [own, if_false] at members ⊢
    exact sortNames_congr (by simpa [children] using members)

end Cache

namespace Graph

variable {α : Type} {g h : Graph α} {n d : Node α} {x : String} {slot : Nat}
  {steps : List (Cache.Step α)}

/-! ## What is taken -/

theorem isSome_put?_iff : (g.put? n).isSome = true ↔
    ∀ d ∈ n.dependencies, ∃ m, g.get? d.name = some m ∧ m.same d = true := by
  rw [put?]
  split
  · next current => simpa [isCurrent, Option.any_eq_true] using current
  · next stale => simpa [isCurrent, Option.any_eq_true] using stale

/-- Where one serial number stands for one node, to be the cached node is to be equal to it. -/
theorem cached_iff (identified : Identified (steps ++ [.put n])) (built : d ∈ n.dependencies) :
    (∃ m, ((empty : Graph α).run steps).get? d.name = some m ∧ m.same d = true) ↔
      ((empty : Graph α).run steps).get? d.name = some d := by
  obtain ⟨sound, linked, label, shows⟩ := shows_run steps
  constructor
  · rintro ⟨m, held, same⟩
    have member := (Cache.mem_of_get? ((shows.get? sound linked.unique _).symm.trans held)).1
    have offered : .put m ∈ steps :=
      (Cache.offered_of_mem_run steps member).resolve_left (by simp [Cache.empty])
    rw [held, identified m n (by simp [offered]) (by simp) m d (.refl m) (.of_mem built) same]
  · exact fun held => ⟨d, held, by simp [Node.same]⟩

/-! ## What stays -/

theorem filter_foldl_join {arcs more : List (Nat × Nat)} {keeps : Nat × Nat → Bool}
    (apart : ∀ arc ∈ more, keeps arc = false) :
    (more.foldl join arcs).filter keeps = arcs.filter keeps := by
  induction more generalizing arcs with
  | nil => rfl
  | cons first rest ih =>
    obtain ⟨here, later⟩ := List.forall_mem_cons.1 apart
    rw [List.foldl_cons, ih later, join]
    split
    · rfl
    · rw [List.filter_cons_of_neg (by simp [here])]

/-- The other names keep their slots, and the edges that lead from there stay in their order. -/
theorem Sound.targets_put (sound : g.Sound) (put : g.put? n = some h) (other : x ≠ n.name)
    (place : g.places.lookup x = some slot) :
    h.places.lookup x = some slot ∧ h.targets slot = g.targets slot := by
  obtain ⟨own, nodes, arcs, seated⟩ := sound.seat n
  obtain ⟨m, held, rfl⟩ := (sound.place_iff x slot).1 place
  have away : slot ≠ (g.seat n).1 := fun same => other ((own slot m held).2 same)
  cases current : g.isCurrent n with
  | false => simp [put?, current] at put
  | true =>
    rw [put?_of_current current] at put
    cases put
    refine ⟨(seated.place_iff _ _).2 ⟨m, (nodes slot).trans ((if_neg away).trans held), rfl⟩, ?_⟩
    -- The edges that were added all lead from the slot that was filled, and so do those taken away.
    have linked : ∀ arc ∈ (g.seat n).2.links (g.seat n).1 n, decide (arc.1 = slot) = false := by
      intro arc member
      obtain ⟨target, -, rfl⟩ := List.mem_map.1 member
      simpa using Ne.symm away
    have kept : (g.arcs.filter (·.1 ≠ (g.seat n).1)).filter (·.1 = slot) =
        g.arcs.filter (·.1 = slot) := by
      rw [List.filter_filter]
      refine List.filter_congr fun arc _ => ?_
      by_cases same : arc.1 = slot
      · simp [same, away]
      · simp [same]
    rw [targets, filter_foldl_join linked, arcs, kept, targets]

/-- Whatever nodes were offered and whatever was given up before, a node is taken just if each node
it was built from is the very one that is cached under its name, and a node that is refused changes
nothing.  One that is taken is found under its name, and there are edges from its name to just the
names of what it was built from.  All other names keep their nodes, and the edges that lead from
them, so what was built on the name before still is. -/
theorem put_renews (steps : List (Cache.Step α)) (n : Node α) :
    let g := (empty : Graph α).run steps
    let g' := g.perform (.put n)
    ((g.put? n).isSome = true ↔
        ∀ d ∈ n.dependencies, ∃ m, g.get? d.name = some m ∧ m.same d = true) ∧
      (Identified (steps ++ [.put n]) →
        ((g.put? n).isSome = true ↔ ∀ d ∈ n.dependencies, g.get? d.name = some d)) ∧
      (g.put? n = none → g' = g) ∧
      ((g.put? n).isSome = true →
        (∀ x, g'.get? x = if x = n.name then some n else g.get? x) ∧
        (∀ x, g'.children x =
          if x = n.name then Cache.sortNames n.dependencyNames else g.children x) ∧
        (∀ x y, x ∈ g'.parents y ↔
          if x = n.name then y ∈ n.dependencyNames else x ∈ g.parents y) ∧
        ∀ x slot, x ≠ n.name → g.places.lookup x = some slot →
          g'.places.lookup x = some slot ∧ g'.targets slot = g.targets slot) := by
  intro g g'
  obtain ⟨sound, linked, label, shows⟩ := shows_run (α := α) steps
  have found : ∀ x, g.get? x = (Cache.empty.run steps).get? x := shows.get? sound linked.unique
  refine ⟨isSome_put?_iff, fun identified => ?_, fun refused => ?_, fun taken => ?_⟩
  · exact isSome_put?_iff.trans (forall₂_congr fun d built => cached_iff identified built)
  · show (g.put? n).getD g = g
    rw [refused, Option.getD_none]
  · rcases shows.put sound linked.unique n with ⟨refused, -⟩ | ⟨h, c', label', put, put', shows'⟩
    · rw [refused] at taken
      cases taken
    · have after : g' = h := by
        show (g.put? n).getD g = h
        rw [put, Option.getD_some]
      have sound' := sound.put put
      rw [after]
      refine ⟨fun x => ?_, fun x => ?_, fun x y => ?_, fun x slot other place => ?_⟩
      · rw [shows'.get? sound' (linked.put put').unique, Cache.get?_put put', found]
      · rw [shows'.children sound', Cache.children_put put', shows.children sound]
      · rw [shows'.parents sound', Cache.mem_parents, shows.parents sound, Cache.mem_parents]
        exact Cache.dependsOn_put put' x y
      · exact sound.targets_put put other place

end Graph

end Collage
