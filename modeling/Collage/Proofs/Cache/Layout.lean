import Collage.Proofs.Cache.Graph
import Collage.Proofs.Cache.Linked

/-! # Caches and graphs

`Graph.Shows` says that a graph with numbered slots holds the nodes and the edges of a cache.  Each
operation on the one is the operation on the other: `Shows.put` and `Shows.invalidate` give the same
outcome on both sides, and the graph goes on to show the cache.  So after any steps the graph is
sound and answers as the cache does (`Graph.run_answers`).
-/

namespace Collage

namespace Graph

variable {α : Type} {g h : Graph α} {c c' : Cache α} {label : Nat → String} {n m : Node α}
  {name : String} {slot other : Nat}

/-- An edge between slots, as an edge between the names of the slots. -/
def named (label : Nat → String) (arc : Nat × Nat) : Cache.Edge := ⟨label arc.1, label arc.2⟩

/-- The graph holds the nodes of the cache and its edges in their order.  `label` tells the names of
the slots that are filled; what it says of others does not matter. -/
structure Shows (label : Nat → String) (g : Graph α) (c : Cache α) : Prop where
  nodes : ∀ n, n ∈ c.nodes ↔ ∃ slot, g.node? slot = some n
  labels : ∀ slot n, g.node? slot = some n → label slot = n.name
  edges : c.edges = g.arcs.map (named label)

theorem shows_empty (label : Nat → String) : (empty : Graph α).Shows label Cache.empty :=
  ⟨by simp [empty, Cache.empty, node?], by simp [empty, node?], rfl⟩

/-! ## Looking up -/

theorem Shows.contains_iff (shows : g.Shows label c) :
    c.contains name = true ↔ ∃ slot n, g.node? slot = some n ∧ n.name = name := by
  rw [Cache.contains_iff]
  constructor
  · rintro ⟨n, member, named⟩
    obtain ⟨slot, held⟩ := (shows.nodes n).1 member
    exact ⟨slot, n, held, named⟩
  · rintro ⟨slot, n, held, named⟩
    exact ⟨n, (shows.nodes n).2 ⟨slot, held⟩, named⟩

theorem Shows.get? (shows : g.Shows label c) (sound : g.Sound)
    (unique : (c.nodes.map (·.name)).Nodup) (name : String) : g.get? name = c.get? name := by
  refine Option.ext fun n => ?_
  rw [sound.get?_eq_some_iff, Cache.get?_eq_some_iff unique, shows.nodes]
  exact exists_and_right

/-- Slots that are filled are told apart by their names. -/
theorem Shows.label_inj (shows : g.Shows label c) (sound : g.Sound) (holds : g.Holds slot)
    (holds' : g.Holds other) : label slot = label other ↔ slot = other := by
  obtain ⟨n, held⟩ := holds
  obtain ⟨m, held'⟩ := holds'
  rw [shows.labels slot n held, shows.labels other m held']
  constructor
  · exact sound.slot_unique held held'
  · rintro rfl
    rw [Option.some.inj (held.symm.trans held')]

theorem Shows.namesOf (shows : g.Shows label c) {slots : List Nat}
    (holds : ∀ slot ∈ slots, g.Holds slot) :
    g.namesOf slots = Cache.sortNames (slots.map label) := by
  rw [Graph.namesOf]
  refine congrArg _ ?_
  induction slots with
  | nil => rfl
  | cons slot rest ih =>
    obtain ⟨⟨n, held⟩, others⟩ := List.forall_mem_cons.1 holds
    rw [List.filterMap_cons_some held, List.map_cons, List.map_cons, ih others,
      shows.labels slot n held]

section

variable {near far : Nat × Nat → Nat} {tip tail : Cache.Edge → String}

/-- The edges at a name are those at its slot. -/
theorem Shows.edges_at (shows : g.Shows label c) (sound : g.Sound) (holds : g.Holds slot)
    (tips : ∀ arc, tip (named label arc) = label (near arc))
    (inside : ∀ arc ∈ g.arcs, g.Holds (near arc)) :
    c.edges.filter (tip · == label slot) =
      (g.arcs.filter (near · = slot)).map (named label) := by
  rw [shows.edges, List.filter_map]
  refine congrArg _ (List.filter_congr fun arc member => ?_)
  rw [Function.comp, Bool.eq_iff_iff, beq_iff_eq, decide_eq_true_iff, tips]
  exact shows.label_inj sound (inside arc member) holds

/-- What is found at the other ends of the edges of a slot is what the edges of its name tell. -/
theorem Shows.neighbors (shows : g.Shows label c) (sound : g.Sound)
    (tips : ∀ arc, tip (named label arc) = label (near arc))
    (tails : ∀ arc, tail (named label arc) = label (far arc))
    (inside : ∀ arc ∈ g.arcs, g.Holds (near arc) ∧ g.Holds (far arc)) (name : String) :
    g.neighbors (fun slot => (g.arcs.filter (near · = slot)).map far) name =
      Cache.sortNames ((c.edges.filter (tip · == name)).map tail) := by
  cases place : g.places.lookup name with
  | none =>
    have found : g.neighbors (fun slot => (g.arcs.filter (near · = slot)).map far) name = [] := by
      rw [Graph.neighbors, place]
    -- A name without a slot is at no edge.
    have bare : c.edges.filter (tip · == name) = [] := by
      rw [shows.edges]
      refine List.filter_eq_nil_iff.2 fun e member same => ?_
      obtain ⟨arc, held, rfl⟩ := List.mem_map.1 member
      obtain ⟨n, node⟩ := (inside arc held).1
      rw [tips, shows.labels _ n node, beq_iff_eq] at same
      rw [(sound.place_iff name _).2 ⟨n, node, same⟩] at place
      cases place
    rw [found, bare]
    simp [Cache.sortNames]
  | some slot =>
    obtain ⟨n, held, rfl⟩ := (sound.place_iff name slot).1 place
    have found : g.neighbors (fun slot => (g.arcs.filter (near · = slot)).map far) n.name =
        g.namesOf ((g.arcs.filter (near · = slot)).map far) := by
      rw [Graph.neighbors, place]
    have holds : ∀ s ∈ (g.arcs.filter (near · = slot)).map far, g.Holds s := by
      intro s member
      obtain ⟨arc, known, rfl⟩ := List.mem_map.1 member
      exact (inside arc (List.mem_filter.1 known).1).2
    have edges := shows.edges_at sound ⟨n, held⟩ tips fun arc member => (inside arc member).1
    rw [shows.labels slot n held] at edges
    rw [found, shows.namesOf holds, edges, List.map_map, List.map_map]
    exact congrArg _ (List.map_congr_left fun arc _ => (tails arc).symm)

end

theorem Shows.parents (shows : g.Shows label c) (sound : g.Sound) (name : String) :
    g.parents name = c.parents name :=
  shows.neighbors sound (fun _ => rfl) (fun _ => rfl)
    (fun arc member => (sound.ends arc member).symm) name

theorem Shows.children (shows : g.Shows label c) (sound : g.Sound) (name : String) :
    g.children name = c.children name :=
  shows.neighbors sound (fun _ => rfl) (fun _ => rfl) sound.ends name

/-! ## Putting a node in -/

theorem Shows.isCurrent (shows : g.Shows label c) (sound : g.Sound)
    (unique : (c.nodes.map (·.name)).Nodup) (n : Node α) : g.isCurrent n = c.isCurrent n := by
  simp only [Graph.isCurrent, Cache.isCurrent, shows.get? sound unique]

/-- Edges are added to the graph as they are to the cache, where their names tell them apart. -/
theorem map_foldl_join {arcs more : List (Nat × Nat)}
    (apart : ∀ a ∈ more, ∀ b, b ∈ arcs ∨ b ∈ more → named label a = named label b → a = b) :
    (more.foldl join arcs).map (named label) =
      (more.map (named label)).foldl Cache.link (arcs.map (named label)) := by
  induction more generalizing arcs with
  | nil => rfl
  | cons first rest ih =>
    have known : named label first ∈ arcs.map (named label) ↔ first ∈ arcs := by
      constructor
      · intro member
        obtain ⟨arc, inside, same⟩ := List.mem_map.1 member
        exact apart first List.mem_cons_self arc (.inl inside) same.symm ▸ inside
      · exact List.mem_map_of_mem
    have joined : (join arcs first).map (named label) =
        Cache.link (arcs.map (named label)) (named label first) := by
      simp only [join, Cache.link, known]
      split <;> rfl
    rw [List.foldl_cons, List.map_cons, List.foldl_cons, ← joined]
    refine ih fun a member b member' => apart a (List.mem_cons_of_mem _ member) b ?_
    -- The edges that were there and the first one are now together.
    rw [mem_join, or_assoc] at member'
    simpa using member'

/-- The graph with a node seated shows the cache with the node in its place and without the edges
that lead from it. -/
theorem Shows.seat (shows : g.Shows label c) (sound : g.Sound)
    (unique : (c.nodes.map (·.name)).Nodup) (n : Node α) :
    (g.seat n).2.Shows (Function.update label (g.seat n).1 n.name)
      ⟨Cache.place n c.nodes, c.edges.filter (·.parent != n.name)⟩ := by
  obtain ⟨own, nodes, arcs, -⟩ := sound.seat n
  have renamed : ∀ j, g.Holds j → Function.update label (g.seat n).1 n.name j = label j := by
    rintro j ⟨m, held⟩
    by_cases same : j = (g.seat n).1
    · rw [Function.update_apply, if_pos same, shows.labels j m held, (own j m held).2 same]
    · rw [Function.update_apply, if_neg same]
  refine ⟨?_, ?_, ?_⟩
  · intro m
    rw [Cache.mem_place unique, shows.nodes]
    simp only [nodes]
    constructor
    · rintro (rfl | ⟨⟨j, held⟩, ne⟩)
      · exact ⟨_, if_pos rfl⟩
      · exact ⟨j, (if_neg fun same => ne ((own j m held).2 same)).trans held⟩
    · rintro ⟨j, held⟩
      split at held
      · cases held
        exact .inl rfl
      · next ne => exact .inr ⟨⟨j, held⟩, fun same => ne ((own j m held).1 same)⟩
  · intro j m held
    rw [nodes] at held
    rw [Function.update_apply]
    split at held
    · next same =>
      cases held
      rw [if_pos same]
    · next ne => rw [if_neg ne, shows.labels j m held]
  · rw [arcs, shows.edges, List.filter_map]
    have kept : g.arcs.filter ((fun e : Cache.Edge => e.parent != n.name) ∘ named label) =
        g.arcs.filter (·.1 ≠ (g.seat n).1) := by
      refine List.filter_congr fun arc member => ?_
      obtain ⟨m, held⟩ := (sound.ends arc member).1
      rw [Function.comp, named, shows.labels _ m held, Bool.eq_iff_iff, bne_iff_ne,
        decide_eq_true_iff]
      exact not_congr (own _ m held)
    rw [kept]
    refine List.map_congr_left fun arc member => ?_
    obtain ⟨source, target⟩ := sound.ends arc (List.mem_filter.1 member).1
    rw [named, named, renamed _ source, renamed _ target]

/-- The edges of a node are those to the slots of what it was built from. -/
theorem map_links (found : ∀ child ∈ n.dependencyNames, ∃ target,
      g.places.lookup child = some target ∧ label target = child) :
    (g.links slot n).map (named label) = n.dependencyNames.map (Cache.Edge.mk (label slot)) := by
  rw [links]
  generalize n.dependencyNames = names at found
  induction names with
  | nil => rfl
  | cons name rest ih =>
    obtain ⟨⟨target, place, same⟩, others⟩ := List.forall_mem_cons.1 found
    rw [List.filterMap_cons_some (f := fun name => g.places.lookup name) place, List.map_cons,
      List.map_cons, List.map_cons, ih others, named, same]

/-- Whatever a node that is up to date was built from has a slot. -/
theorem Shows.exists_target (shows : g.Shows label c) (sound : g.Sound)
    (unique : (c.nodes.map (·.name)).Nodup) (current : c.isCurrent n = true) :
    ∀ child ∈ n.dependencyNames, ∃ target, (g.seat n).2.places.lookup child = some target ∧
      Function.update label (g.seat n).1 n.name target = child := by
  intro child member
  obtain ⟨d, built, rfl⟩ := List.mem_map.1 member
  obtain ⟨m, known, -⟩ := Cache.isCurrent_iff.1 current d built
  obtain ⟨cached, same⟩ := Cache.mem_of_get? known
  have placed : d.name ∈ (Cache.place n c.nodes).map (·.name) :=
    Cache.mem_names_place.2 (.inr (same ▸ List.mem_map_of_mem cached))
  obtain ⟨k, inside, named⟩ := List.mem_map.1 placed
  have seated := shows.seat sound unique n
  obtain ⟨target, held⟩ := (seated.nodes k).1 inside
  exact ⟨target, ((sound.seat n).2.2.2.place_iff _ _).2 ⟨k, held, named⟩,
    (seated.labels target k held).trans named⟩

/-- A node is refused by both, or taken by both. -/
theorem Shows.put (shows : g.Shows label c) (sound : g.Sound)
    (unique : (c.nodes.map (·.name)).Nodup) (n : Node α) :
    (g.put? n = none ∧ c.put? n = none) ∨
      ∃ h c' label', g.put? n = some h ∧ c.put? n = some c' ∧ h.Shows label' c' := by
  have same := shows.isCurrent sound unique n
  cases current : c.isCurrent n with
  | false =>
    rw [current] at same
    exact .inl ⟨by simp [put?, same], by simp [Cache.put?, current]⟩
  | true =>
    obtain ⟨-, nodes, -, seated⟩ := sound.seat n
    have seatedShows := shows.seat sound unique n
    have ends := seated.ends_of_links ⟨n, (nodes _).trans (if_pos rfl)⟩ n
    have own : Function.update label (g.seat n).1 n.name (g.seat n).1 = n.name :=
      Function.update_self ..
    refine .inr ⟨_, _, _, put?_of_current (same.trans current), Cache.put?_of_current current,
      seatedShows.nodes, seatedShows.labels, ?_⟩
    rw [map_foldl_join, map_links (shows.exists_target sound unique current), own,
      ← seatedShows.edges]
    -- The names of the slots tell the edges apart, as all of them join slots that are filled.
    intro a member b member' eq
    obtain ⟨source, target⟩ := ends a member
    obtain ⟨source', target'⟩ := member'.elim (seated.ends b) (ends b)
    simp only [named, Cache.Edge.mk.injEq, seatedShows.label_inj seated source source',
      seatedShows.label_inj seated target target'] at eq
    exact Prod.ext eq.1 eq.2

/-! ## Giving names up -/

theorem Shows.remove (shows : g.Shows label c) (sound : g.Sound) (held : g.node? slot = some n) :
    (g.remove slot n.name).Shows label (c.drop n.name) := by
  have apart : ∀ j m, g.node? j = some m → (m.name ≠ n.name ↔ j ≠ slot) := by
    intro j m held'
    refine not_congr ⟨sound.slot_unique held' held, ?_⟩
    rintro rfl
    rw [Option.some.inj (held.symm.trans held')]
  refine ⟨?_, ?_, ?_⟩
  · intro m
    simp only [Cache.drop, List.mem_filter, bne_iff_ne, shows.nodes, node?_remove]
    constructor
    · rintro ⟨⟨j, held'⟩, ne⟩
      exact ⟨j, (if_neg ((apart j m held').1 ne)).trans held'⟩
    · rintro ⟨j, held'⟩
      split at held'
      · cases held'
      · next ne => exact ⟨⟨j, held'⟩, (apart j m held').2 ne⟩
  · intro j m held'
    rw [node?_remove] at held'
    split at held'
    · cases held'
    · exact shows.labels j m held'
  · rw [Cache.drop, shows.edges, List.filter_map, Graph.remove]
    refine congrArg _ (List.filter_congr fun arc member => ?_)
    obtain ⟨⟨m, source⟩, m', target⟩ := sound.ends arc member
    rw [Function.comp, named, shows.labels _ m source, shows.labels _ m' target, Bool.eq_iff_iff,
      Bool.and_eq_true, bne_iff_ne, bne_iff_ne, apart _ m source, apart _ m' target,
      decide_eq_true_iff]

theorem Shows.dependents (shows : g.Shows label c) (sound : g.Sound)
    (held : g.node? slot = some n) : c.dependents n.name = (g.sources slot).reverse.map label := by
  have edges : c.edges.filter (·.child == n.name) =
      (g.arcs.filter (·.2 = slot)).map (named label) := by
    rw [← shows.labels slot n held]
    exact shows.edges_at sound ⟨n, held⟩ (fun _ => rfl) fun arc member => (sound.ends arc member).2
  rw [Cache.dependents, edges, sources, List.map_reverse, List.map_map, List.map_map]
  rfl

theorem walk_of_none {visited rest : List Nat} (new : slot ∉ visited) (none : g.node? slot = none) :
    g.walk visited (slot :: rest) = g.walk (slot :: visited) rest := by
  rw [walk, if_neg new]
  split
  · rfl
  · next held => rw [none] at held; cases held

theorem walk_of_some {visited rest : List Nat} (new : slot ∉ visited)
    (held : g.node? slot = some n) :
    g.walk visited (slot :: rest) =
      (n.name :: ((g.remove slot n.name).walk (slot :: visited)
          ((g.sources slot).reverse ++ rest)).1,
        ((g.remove slot n.name).walk (slot :: visited) ((g.sources slot).reverse ++ rest)).2) := by
  rw [walk, if_neg new]
  split
  · next none => rw [held] at none; cases none
  · next m eq => rw [held] at eq; cases eq; rfl

/-- A slot that is empty by now stands for a name that is not cached any more. -/
theorem Shows.absent (shows : g.Shows label c) (none : g.node? slot = none)
    (alone : ∀ j, g.Holds j → label j = label slot → j = slot) :
    ¬ c.contains (label slot) = true := by
  intro contains
  obtain ⟨j, m, held, named⟩ := shows.contains_iff.1 contains
  rw [← alone j ⟨m, held⟩ ((shows.labels j m held).trans named), held] at none
  cases none

/-- The walk empties the slots of the names that are given up, in the same order. -/
theorem Shows.walk (shows : g.Shows label c) (sound : g.Sound) (visited pending : List Nat)
    (gone : ∀ slot ∈ visited, g.node? slot = none)
    (apart : ∀ slot ∈ pending, ∀ j, g.Holds j → label j = label slot → j = slot) :
    (g.walk visited pending).1 = (c.evict (pending.map label)).1 ∧
      (g.walk visited pending).2.Sound ∧
      (g.walk visited pending).2.Shows label (c.evict (pending.map label)).2 := by
  -- One case for each turn of the loop: done, a slot visited before, an empty one, and a node.
  induction g, visited, pending using walk.induct generalizing c with
  | case1 g visited =>
    rw [Graph.walk, List.map_nil, Cache.evict]
    exact ⟨rfl, sound, shows⟩
  | case2 g visited slot rest known ih =>
    obtain ⟨alone, apart⟩ := List.forall_mem_cons.1 apart
    rw [Graph.walk, if_pos known, List.map_cons, Cache.evict,
      dif_neg (shows.absent (gone slot known) alone)]
    exact ih shows sound gone apart
  | case3 g visited slot rest new none ih =>
    obtain ⟨alone, apart⟩ := List.forall_mem_cons.1 apart
    rw [walk_of_none new none, List.map_cons, Cache.evict, dif_neg (shows.absent none alone)]
    exact ih shows sound (List.forall_mem_cons.2 ⟨none, gone⟩) apart
  | case4 g visited slot rest new n held names left walked ih =>
    obtain ⟨-, apart⟩ := List.forall_mem_cons.1 apart
    have cached : c.contains (label slot) = true :=
      shows.contains_iff.2 ⟨slot, n, held, (shows.labels slot n held).symm⟩
    have fewer : ∀ j, (g.remove slot n.name).Holds j → g.Holds j := by
      rintro j ⟨m, held'⟩
      rw [node?_remove] at held'
      split at held'
      · cases held'
      · exact ⟨m, held'⟩
    have visited' : ∀ s ∈ slot :: visited, (g.remove slot n.name).node? s = none := by
      intro s member
      rw [node?_remove]
      split
      · rfl
      · next ne => exact gone s ((List.mem_cons.1 member).resolve_left ne)
    have pending' : ∀ s ∈ (g.sources slot).reverse ++ rest, ∀ j, (g.remove slot n.name).Holds j →
        label j = label s → j = s := by
      intro s member j holds same
      cases List.mem_append.1 member with
      | inl member =>
        obtain ⟨arc, inside, rfl⟩ := List.mem_map.1 (List.mem_reverse.1 member)
        have source := (sound.ends arc (List.mem_filter.1 inside).1).1
        exact (shows.label_inj sound (fewer j holds) source).1 same
      | inr member => exact apart s member j (fewer j holds) same
    have shown := ih (shows.remove sound held) (sound.remove held) visited' pending'
    rw [List.map_append, ← shows.dependents sound held] at shown
    rw [walk_of_some new held, List.map_cons, Cache.evict, dif_pos cached, shows.labels slot n held]
    exact ⟨congrArg (n.name :: ·) shown.1, shown.2⟩

/-- The same names are given up, in the same order. -/
theorem Shows.invalidate (shows : g.Shows label c) (sound : g.Sound) (name : String) :
    (g.invalidate name).1 = (c.invalidate name).1 ∧ (g.invalidate name).2.Sound ∧
      (g.invalidate name).2.Shows label (c.invalidate name).2 := by
  cases place : g.places.lookup name with
  | none =>
    have absent : ¬ c.contains name = true := by
      intro contains
      obtain ⟨slot, n, held, named⟩ := shows.contains_iff.1 contains
      rw [(sound.place_iff name slot).2 ⟨n, held, named⟩] at place
      cases place
    rw [Graph.invalidate, place, Cache.invalidate, Cache.evict, dif_neg absent, Cache.evict]
    exact ⟨rfl, sound, shows⟩
  | some slot =>
    obtain ⟨n, held, rfl⟩ := (sound.place_iff name slot).1 place
    have walked := shows.walk sound [] [slot] (by simp) fun s member j holds =>
      (shows.label_inj sound holds (List.mem_singleton.1 member ▸ ⟨n, held⟩)).1
    rw [List.map_singleton, shows.labels slot n held] at walked
    rw [Graph.invalidate, place, Cache.invalidate]
    exact walked

end Graph

/-! ## Runs -/

/-- One thing that is done to a cache. -/
inductive Cache.Step (α : Type) where
  /-- A node is offered. -/
  | put (n : Node α)
  /-- A name is given up, with all that was built on it. -/
  | invalidate (name : String)
  /-- Everything is given up. -/
  | clear

variable {α : Type}

/-- The cache after a step; a node that is refused changes nothing. -/
def Cache.perform (c : Cache α) : Cache.Step α → Cache α
  | .put n => (c.put? n).getD c
  | .invalidate name => (c.invalidate name).2
  | .clear => .empty

def Cache.run (c : Cache α) (steps : List (Cache.Step α)) : Cache α := steps.foldl perform c

namespace Graph

/-- The graph after a step; a node that is refused changes nothing. -/
def perform (g : Graph α) : Cache.Step α → Graph α
  | .put n => (g.put? n).getD g
  | .invalidate name => (g.invalidate name).2
  | .clear => .empty

def run (g : Graph α) (steps : List (Cache.Step α)) : Graph α := steps.foldl perform g

variable {g : Graph α} {c : Cache α} {label : Nat → String}

theorem Shows.perform (shows : g.Shows label c) (sound : g.Sound) (linked : c.Linked [])
    (step : Cache.Step α) :
    (g.perform step).Sound ∧ (c.perform step).Linked [] ∧
      ∃ label', (g.perform step).Shows label' (c.perform step) := by
  cases step with
  | put n =>
    obtain ⟨refused, refused'⟩ | ⟨h, c', label', put, put', shows'⟩ := shows.put sound linked.unique n
    · simp only [Graph.perform, Cache.perform, refused, refused', Option.getD_none]
      exact ⟨sound, linked, label, shows⟩
    · simp only [Graph.perform, Cache.perform, put, put', Option.getD_some]
      exact ⟨sound.put put, linked.put put', label', shows'⟩
  | invalidate name =>
    obtain ⟨-, sound', shows'⟩ := shows.invalidate sound name
    exact ⟨sound', linked.invalidate name, label, shows'⟩
  | clear => exact ⟨sound_empty, Cache.linked_empty [], label, shows_empty label⟩

theorem shows_run (steps : List (Cache.Step α)) :
    ((empty : Graph α).run steps).Sound ∧ (Cache.empty.run steps : Cache α).Linked [] ∧
      ∃ label, ((empty : Graph α).run steps).Shows label (Cache.empty.run steps) := by
  have all : ∀ (g : Graph α) (c : Cache α) label, g.Sound → c.Linked [] → g.Shows label c →
      (g.run steps).Sound ∧ (c.run steps).Linked [] ∧
        ∃ label, (g.run steps).Shows label (c.run steps) := by
    induction steps with
    | nil => exact fun g c label sound linked shows => ⟨sound, linked, label, shows⟩
    | cons step rest ih =>
      intro g c label sound linked shows
      obtain ⟨sound', linked', label', shows'⟩ := shows.perform sound linked step
      exact ih _ _ label' sound' linked' shows'
  exact all empty Cache.empty (fun _ => "") sound_empty (Cache.linked_empty []) (shows_empty _)

/-- Whatever nodes are offered and whatever is given up, the graph is sound and answers as the cache
does.  What is a child of a name are the names that its node was built from, all of them cached, and
the parents of a name are those that it is a child of. -/
theorem run_answers (steps : List (Cache.Step α)) :
    let g := (empty : Graph α).run steps
    let c := (Cache.empty : Cache α).run steps
    g.Sound ∧
      (∀ name, g.get? name = c.get? name ∧ g.parents name = c.parents name ∧
        g.children name = c.children name ∧ (g.invalidate name).1 = (c.invalidate name).1) ∧
      (∀ n, (g.put? n).isSome = (c.put? n).isSome) ∧
      (∀ name n, g.get? name = some n → ∀ child,
        (child ∈ g.children name ↔ child ∈ n.dependencyNames) ∧
          (child ∈ g.children name → (g.get? child).isSome = true)) ∧
      (∀ name, g.get? name = none → g.children name = []) ∧
      ∀ a b, b ∈ g.parents a ↔ a ∈ g.children b := by
  intro g c
  obtain ⟨sound, linked, label, shows⟩ := shows_run (α := α) steps
  have found : ∀ name, g.get? name = c.get? name := shows.get? sound linked.unique
  refine ⟨sound, ?_, ?_, ?_, ?_, ?_⟩
  · exact fun name => ⟨found name, shows.parents sound name, shows.children sound name,
      (shows.invalidate sound name).1⟩
  · intro n
    obtain ⟨refused, refused'⟩ | ⟨h, c', label', put, put', -⟩ := shows.put sound linked.unique n
    · rw [refused, refused']
      rfl
    · rw [put, put']
      rfl
  · intro name n held child
    have children : g.children name = c.children name := shows.children sound name
    rw [found] at held
    rw [children, found]
    refine ⟨by rw [linked.children_eq held, Cache.mem_sortNames], fun member => ?_⟩
    exact ((linked.edge_iff name child).1 (Cache.mem_children.1 member)).1
  · intro name absent
    rw [get?, Option.bind_eq_none_iff] at absent
    cases place : g.places.lookup name with
    | none => rw [children, neighbors, place]
    | some slot =>
      obtain ⟨n, held, -⟩ := (sound.place_iff name slot).1 place
      rw [absent slot place] at held
      cases held
  · intro a b
    have parents : g.parents a = c.parents a := shows.parents sound a
    have children : g.children b = c.children b := shows.children sound b
    rw [parents, children, Cache.mem_parents, Cache.mem_children]

end Graph

end Collage
