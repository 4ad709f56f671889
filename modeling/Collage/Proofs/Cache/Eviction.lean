import Collage.Proofs.Cache.Fresh
import Collage.Proofs.Cache.Layout

/-! # What goes with a name that is given up

`Cache.evict` drops nodes while it is still finding out what was built on them.  Still, what goes
are exactly the cached names from which a path of edges leads to a pending one, as the edges were
before (`Cache.mem_evict_iff`): a path either avoids the node that is dropped, or it comes through
one of its dependents, and those are pending from then on (`Cache.path_drop`).  What is left is the
cache without the names that went (`Cache.evict_snd`).

The graph with numbered slots gives up the same names (`Graph.invalidate_dependents`).
-/

namespace Collage

open Relation

namespace Cache

variable {α : Type} {c : Cache α} {name x : String} {pending rest : List String}

/-- Both ends of each edge are cached. -/
def Anchored (c : Cache α) : Prop :=
  ∀ parent child, c.DependsOn parent child → c.contains parent = true ∧ c.contains child = true

theorem Linked.anchored (linked : c.Linked pending) : c.Anchored := by
  intro parent child depends
  obtain ⟨cached, n, member, rfl, -⟩ := (linked.edge_iff parent child).1 depends
  exact ⟨contains_name member, cached⟩

/-! ## One node less -/

theorem dependsOn_drop {parent child : String} :
    (c.drop name).DependsOn parent child ↔
      c.DependsOn parent child ∧ parent ≠ name ∧ child ≠ name := by
  simp [DependsOn, drop]

theorem Anchored.drop (anchored : c.Anchored) (name : String) : (c.drop name).Anchored := by
  intro parent child depends
  obtain ⟨depends, parentKept, childKept⟩ := dependsOn_drop.1 depends
  obtain ⟨cached, cached'⟩ := anchored parent child depends
  exact ⟨contains_drop.2 ⟨parentKept, cached⟩, contains_drop.2 ⟨childKept, cached'⟩⟩

/-- A path that starts at another node than the one that is dropped is still there, or it leads to
one of the dependents of that node without touching it. -/
theorem path_drop {first last : String} (path : ReflTransGen c.DependsOn first last)
    (ne : first ≠ name) :
    (last ≠ name ∧ ReflTransGen (c.drop name).DependsOn first last) ∨
      ∃ d ∈ c.dependents name, ReflTransGen (c.drop name).DependsOn first d := by
  induction path with
  | refl => exact .inl ⟨ne, .refl⟩
  | @tail before last _ depends ih =>
    obtain ⟨kept, path⟩ | found := ih
    · by_cases same : last = name
      · exact .inr ⟨before, mem_dependents.2 (same ▸ depends), path⟩
      · exact .inl ⟨same, path.tail (dependsOn_drop.2 ⟨depends, kept, same⟩)⟩
    · exact .inr found

theorem path_of_drop {first last : String}
    (path : ReflTransGen (c.drop name).DependsOn first last) :
    ReflTransGen c.DependsOn first last :=
  ReflTransGen.mono (fun _ _ depends => (dependsOn_drop.1 depends).1) _ _ path

/-! ## The names that go -/

theorem evict_of_cached (cached : c.contains name = true) :
    c.evict (name :: rest) =
      (name :: ((c.drop name).evict (c.dependents name ++ rest)).1,
        ((c.drop name).evict (c.dependents name ++ rest)).2) := by
  rw [evict, dif_pos cached]

theorem evict_of_absent (absent : ¬ c.contains name = true) :
    c.evict (name :: rest) = c.evict rest := by
  rw [evict, dif_neg absent]

/-- A cached name goes if a path of edges leads from it to one that is pending, and only then. -/
theorem mem_evict_iff (anchored : c.Anchored) :
    x ∈ (c.evict pending).1 ↔
      c.contains x = true ∧ ∃ p ∈ pending, ReflTransGen c.DependsOn x p := by
  -- One case for each turn of the worklist: done, a cached name, a name that is gone already.
  induction c, pending using evict.induct with
  | case1 c => simp [evict]
  | case2 c name rest cached gone left evicted ih =>
    rw [evict_of_cached cached, List.mem_cons, ih (anchored.drop name), contains_drop]
    constructor
    · rintro (rfl | ⟨⟨-, known⟩, p, member, path⟩)
      · exact ⟨cached, x, List.mem_cons_self, .refl⟩
      · refine ⟨known, ?_⟩
        cases List.mem_append.1 member with
        | inl built =>
          exact ⟨name, List.mem_cons_self, (path_of_drop path).tail (mem_dependents.1 built)⟩
        | inr member => exact ⟨p, List.mem_cons_of_mem _ member, path_of_drop path⟩
    · rintro ⟨known, p, member, path⟩
      by_cases same : x = name
      · exact .inl same
      · refine .inr ⟨⟨same, known⟩, ?_⟩
        obtain ⟨ne, path⟩ | ⟨d, built, path⟩ := path_drop path same
        · have inside : p ∈ rest := (List.mem_cons.1 member).resolve_left ne
          exact ⟨p, List.mem_append_right _ inside, path⟩
        · exact ⟨d, List.mem_append_left _ built, path⟩
  | case3 c name rest absent ih =>
    rw [evict_of_absent absent, ih anchored]
    refine and_congr_right fun known => ⟨?_, ?_⟩
    · rintro ⟨p, member, path⟩
      exact ⟨p, List.mem_cons_of_mem _ member, path⟩
    · rintro ⟨p, member, path⟩
      cases List.mem_cons.1 member with
      | inr member => exact ⟨p, member, path⟩
      | inl same =>
        -- No path of cached names leads to a name that is not cached.
        obtain rfl := same
        cases path with
        | refl => exact absurd known absent
        | tail _ depends => exact absurd (anchored _ _ depends).2 absent

theorem nodup_evict (anchored : c.Anchored) : (c.evict pending).1.Nodup := by
  induction c, pending using evict.induct with
  | case1 c => simp [evict]
  | case2 c name rest cached gone left evicted ih =>
    rw [evict_of_cached cached, List.nodup_cons, mem_evict_iff (anchored.drop name), contains_drop]
    exact ⟨fun again => again.1.1 rfl, ih (anchored.drop name)⟩
  | case3 c name rest absent ih =>
    rw [evict_of_absent absent]
    exact ih anchored

/-- A name that goes was pending, or it was built on one that went before. -/
theorem pending_or_dependsOn {before after : List String}
    (order : (c.evict pending).1 = before ++ x :: after) :
    x ∈ pending ∨ ∃ y ∈ before, c.DependsOn x y := by
  induction c, pending using evict.induct generalizing before with
  | case1 c => simp [evict] at order
  | case2 c name rest cached gone left evicted ih =>
    rw [evict_of_cached cached] at order
    cases before with
    | nil =>
      obtain ⟨rfl, -⟩ := List.cons.inj order
      exact .inl List.mem_cons_self
    | cons first before =>
      obtain ⟨rfl, later⟩ := List.cons.inj (order.trans List.cons_append)
      rcases ih later with member | ⟨y, earlier, depends⟩
      · cases List.mem_append.1 member with
        | inl built => exact .inr ⟨name, List.mem_cons_self, mem_dependents.1 built⟩
        | inr member => exact .inl (List.mem_cons_of_mem _ member)
      · exact .inr ⟨y, List.mem_cons_of_mem _ earlier, (dependsOn_drop.1 depends).1⟩
  | case3 c name rest absent ih =>
    rw [evict_of_absent absent] at order
    exact (ih order).imp_left (List.mem_cons_of_mem _)

theorem head?_invalidate (cached : c.contains name = true) :
    (c.invalidate name).1.head? = some name := by
  rw [invalidate, evict_of_cached cached, List.head?_cons]

/-- After the name that is given up, each name was built on one that went before it. -/
theorem dependsOn_of_later (anchored : c.Anchored) {before after : List String}
    (order : (c.invalidate name).1 = before ++ x :: after) (later : before ≠ []) :
    ∃ y ∈ before, c.DependsOn x y := by
  rcases pending_or_dependsOn order with pending | found
  · -- The name itself stands at the front, and it does not come again.
    obtain rfl := List.mem_singleton.1 pending
    have distinct : (c.invalidate x).1.Nodup := nodup_evict anchored
    have cached : c.contains x = true := by
      have gone : x ∈ (c.invalidate x).1 := order ▸ List.mem_append_right _ List.mem_cons_self
      exact ((mem_evict_iff anchored).1 gone).1
    have first := head?_invalidate cached
    obtain ⟨y, rest, rfl⟩ := List.exists_cons_of_ne_nil later
    rw [order, List.cons_append, List.head?_cons, Option.some.injEq] at first
    obtain rfl := first
    rw [order] at distinct
    simp at distinct
  · exact found

/-! ## What is left -/

/-- The cache without some names and without the edges at them. -/
def without (c : Cache α) (names : List String) : Cache α where
  nodes := c.nodes.filter (·.name ∉ names)
  edges := c.edges.filter fun e => e.parent ∉ names ∧ e.child ∉ names

theorem without_cons (names : List String) :
    c.without (name :: names) = (c.drop name).without names := by
  simp only [without, drop, List.filter_filter, Cache.mk.injEq]
  constructor
  · refine List.filter_congr fun n _ => Bool.eq_iff_iff.2 ?_
    simp [and_comm]
  · refine List.filter_congr fun e _ => Bool.eq_iff_iff.2 ?_
    simp [and_comm, and_assoc, and_left_comm]

theorem evict_snd : (c.evict pending).2 = c.without (c.evict pending).1 := by
  induction c, pending using evict.induct with
  | case1 c => simp [evict, without]
  | case2 c name rest cached gone left evicted ih =>
    rw [evict_of_cached cached, ih, without_cons]
  | case3 c name rest absent ih => rw [evict_of_absent absent, ih]

theorem get?_without (unique : (c.nodes.map (·.name)).Nodup) (names : List String) (x : String) :
    (c.without names).get? x = if x ∈ names then none else c.get? x := by
  have left : ((c.without names).nodes.map (·.name)).Nodup :=
    unique.sublist (List.filter_sublist.map _)
  refine Option.ext fun n => ?_
  rw [get?_eq_some_iff left, without, List.mem_filter]
  split
  · next gone =>
    refine iff_of_false ?_ (by simp)
    rintro ⟨⟨-, kept⟩, rfl⟩
    simp [gone] at kept
  · next kept =>
    rw [get?_eq_some_iff unique]
    refine and_congr_left ?_
    rintro rfl
    simp [kept]

theorem dependsOn_without {names : List String} {parent child : String} :
    (c.without names).DependsOn parent child ↔
      c.DependsOn parent child ∧ parent ∉ names ∧ child ∉ names := by
  simp [DependsOn, without]

theorem children_without {names : List String}
    (closed : ∀ child, c.DependsOn x child → x ∉ names ∧ child ∉ names) :
    (c.without names).children x = c.children x := by
  have edges : (c.without names).edges.filter (·.parent == x) = c.edges.filter (·.parent == x) := by
    rw [without, List.filter_filter]
    refine List.filter_congr fun e member => Bool.eq_iff_iff.2 ?_
    simp only [Bool.and_eq_true, beq_iff_eq, decide_eq_true_iff, and_iff_left_iff_imp]
    rintro rfl
    exact closed e.child member
  rw [children, edges, children]

theorem parents_without {names : List String} (kept : x ∉ names) :
    (c.without names).parents x = (c.parents x).filter (· ∉ names) := by
  have edges : (c.without names).edges.filter (·.child == x) =
      (c.edges.filter (·.child == x)).filter (·.parent ∉ names) := by
    rw [without, List.filter_filter, List.filter_filter]
    refine List.filter_congr fun e _ => Bool.eq_iff_iff.2 ?_
    simp only [Bool.and_eq_true, beq_iff_eq, decide_eq_true_iff]
    constructor
    · rintro ⟨same, away, -⟩
      exact ⟨away, same⟩
    · rintro ⟨away, rfl⟩
      exact ⟨rfl, away, kept⟩
  rw [parents, parents, edges, filter_sortNames, List.filter_map]
  rfl

/-- What a name that is left depends on is left as well. -/
theorem kept_of_dependsOn (anchored : c.Anchored) {child : String} (depends : c.DependsOn x child)
    (kept : x ∉ (c.invalidate name).1) : child ∉ (c.invalidate name).1 := by
  intro gone
  obtain ⟨-, p, member, path⟩ := (mem_evict_iff anchored).1 gone
  exact kept ((mem_evict_iff anchored).2
    ⟨(anchored x child depends).1, p, member, .head depends path⟩)

theorem dependsOn_invalidate (anchored : c.Anchored) {child : String}
    (depends : c.DependsOn x child) (kept : x ∉ (c.invalidate name).1) :
    (c.invalidate name).2.DependsOn x child := by
  rw [invalidate, evict_snd]
  exact dependsOn_without.2 ⟨depends, kept, kept_of_dependsOn anchored depends kept⟩

theorem children_invalidate (anchored : c.Anchored) (kept : x ∉ (c.invalidate name).1) :
    (c.invalidate name).2.children x = c.children x := by
  rw [invalidate, evict_snd]
  exact children_without fun _ depends => ⟨kept, kept_of_dependsOn anchored depends kept⟩

end Cache

namespace Graph

variable {α : Type}

/-- Whatever nodes were offered and whatever was given up before, a name that is not cached is not
given up, and nothing changes.  From a cached name the walk comes to an end, at any circles too:
what goes is the name itself at first, and then, each name once and after one that it was built on,
the cached names from which a path of children leads to it.  Everything else stays as it is, the
nodes and their children, and of the parents those that are left. -/
theorem invalidate_dependents (steps : List (Cache.Step α)) (name : String) :
    let g := (empty : Graph α).run steps
    let gone := (g.invalidate name).1
    let left := (g.invalidate name).2
    (g.get? name = none → g.invalidate name = ([], g)) ∧
      ((g.get? name).isSome = true →
        gone.head? = some name ∧ gone.Nodup ∧
          (∀ x, x ∈ gone ↔
            (g.get? x).isSome = true ∧ ReflTransGen (fun a b => b ∈ g.children a) x name) ∧
          ∀ before x after, gone = before ++ x :: after → before ≠ [] →
            ∃ y ∈ before, x ∈ g.parents y) ∧
      ∀ x, left.get? x = (if x ∈ gone then none else g.get? x) ∧
        (x ∉ gone → left.children x = g.children x ∧
          left.parents x = (g.parents x).filter (· ∉ gone)) := by
  intro g gone left
  obtain ⟨sound, linked, label, shows⟩ := shows_run (α := α) steps
  obtain ⟨names, sound', shows'⟩ := shows.invalidate sound name
  have anchored := linked.anchored
  have found : ∀ x, g.get? x = (Cache.empty.run steps).get? x := shows.get? sound linked.unique
  have children : ∀ x, g.children x = (Cache.empty.run steps).children x := shows.children sound
  have parents : ∀ x, g.parents x = (Cache.empty.run steps).parents x := shows.parents sound
  generalize (Cache.empty.run steps : Cache α) = c at *
  have depends : (fun a b => b ∈ g.children a) = c.DependsOn := by
    funext a b
    rw [children, Cache.mem_children, Cache.DependsOn]
  have gone_eq : gone = (c.invalidate name).1 := names
  refine ⟨?_, ?_, ?_⟩
  · intro absent
    cases place : g.places.lookup name with
    | none => rw [Graph.invalidate, place]
    | some slot =>
      obtain ⟨n, held, -⟩ := (sound.place_iff name slot).1 place
      rw [get?, place, Option.bind_some, held] at absent
      cases absent
  · intro cached
    rw [found] at cached
    refine ⟨gone_eq ▸ Cache.head?_invalidate cached, gone_eq ▸ Cache.nodup_evict anchored, ?_, ?_⟩
    · intro x
      rw [depends, found, gone_eq, Cache.invalidate, Cache.mem_evict_iff anchored]
      simp [Cache.contains]
    · intro before x after order later
      obtain ⟨y, earlier, built⟩ := Cache.dependsOn_of_later anchored (gone_eq ▸ order) later
      exact ⟨y, earlier, by rwa [parents, Cache.mem_parents]⟩
  · intro x
    have unique' : ((c.invalidate name).2.nodes.map (·.name)).Nodup :=
      (linked.invalidate name).unique
    refine ⟨?_, fun kept => ⟨?_, ?_⟩⟩
    · rw [found, gone_eq, ← Cache.get?_without linked.unique, Cache.invalidate, ← Cache.evict_snd]
      exact shows'.get? sound' unique' x
    · rw [children, ← Cache.children_invalidate anchored (gone_eq ▸ kept)]
      exact shows'.children sound' x
    · rw [parents, gone_eq, ← Cache.parents_without (gone_eq ▸ kept), Cache.invalidate,
        ← Cache.evict_snd]
      exact shows'.parents sound' x

end Graph

end Collage
