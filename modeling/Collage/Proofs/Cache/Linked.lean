import Collage.Cache.Shelf
import Collage.Proofs.Distinct

/-! # The edges of a cache

`Cache.Linked` says that a cache holds one node to a name, that its edges are what its nodes tell
about themselves, and that whatever a node was built from is cached too.  Putting a node in keeps
this (`Linked.put`), and so does giving a name up (`Linked.invalidate`).

While names are being given up the last part fails for the names that are still pending, so the
statement carries them along.
-/

namespace Collage.Cache

variable {α : Type} {c c' : Cache α} {n m : Node α} {name other : String}

/-! ## Looking nodes up -/

theorem mem_of_get? (found : c.get? name = some n) : n ∈ c.nodes ∧ n.name = name := by
  refine ⟨List.mem_of_find?_eq_some found, ?_⟩
  simpa using List.find?_some found

theorem contains_iff : c.contains name = true ↔ ∃ n ∈ c.nodes, n.name = name := by
  simp [contains, get?, List.find?_isSome]

theorem get?_eq_none_iff : c.get? name = none ↔ c.contains name = false := by
  simp [contains]

theorem contains_name (member : n ∈ c.nodes) : c.contains n.name = true :=
  contains_iff.2 ⟨n, member, rfl⟩

theorem not_mem_cons_of_absent {rest : List String} (member : n ∈ c.nodes)
    (absent : ¬ c.contains name = true) (settled : n.name ∉ rest) : n.name ∉ name :: rest := by
  rw [List.mem_cons, not_or]
  refine ⟨?_, settled⟩
  rintro rfl
  exact absent (contains_name member)

/-- Where names are unique, a cached node is what is found under its name. -/
theorem get?_of_mem (unique : (c.nodes.map (·.name)).Nodup) (member : n ∈ c.nodes) :
    c.get? n.name = some n := by
  cases found : c.get? n.name with
  | none => rw [get?_eq_none_iff, contains_name member] at found; cases found
  | some m =>
    obtain ⟨cached, named⟩ := mem_of_get? found
    rw [List.inj_on_of_nodup_map unique cached member named]

theorem get?_eq_some_iff (unique : (c.nodes.map (·.name)).Nodup) :
    c.get? name = some n ↔ n ∈ c.nodes ∧ n.name = name := by
  constructor
  · exact mem_of_get?
  · rintro ⟨member, rfl⟩
    exact get?_of_mem unique member

/-! ## Linked caches -/

/-- The names are unique, the edges are those that the nodes tell of, and all that a node was built
from is cached, unless its name is among those `pending`. -/
structure Linked (pending : List String) (c : Cache α) : Prop where
  unique : (c.nodes.map (·.name)).Nodup
  edge_iff : ∀ parent child, ⟨parent, child⟩ ∈ c.edges ↔
    c.contains child = true ∧ ∃ n ∈ c.nodes, n.name = parent ∧ child ∈ n.dependencyNames
  covered : ∀ n ∈ c.nodes, n.name ∉ pending → ∀ child ∈ n.dependencyNames,
    c.contains child = true

theorem linked_empty (pending : List String) : (empty : Cache α).Linked pending :=
  ⟨by simp [empty], by simp [empty], by simp [empty]⟩

/-! ## Giving names up -/

theorem contains_drop :
    (c.drop name).contains other = true ↔ other ≠ name ∧ c.contains other = true := by
  simp only [contains_iff, drop, List.mem_filter, bne_iff_ne]
  constructor
  · rintro ⟨n, ⟨cached, kept⟩, rfl⟩
    exact ⟨kept, n, cached, rfl⟩
  · rintro ⟨kept, n, cached, rfl⟩
    exact ⟨n, ⟨cached, kept⟩, rfl⟩

theorem mem_dependents : other ∈ c.dependents name ↔ ⟨other, name⟩ ∈ c.edges := by
  simp only [dependents, List.mem_reverse, List.mem_map, List.mem_filter, beq_iff_eq]
  constructor
  · rintro ⟨⟨parent, child⟩, ⟨edge, rfl⟩, rfl⟩
    exact edge
  · intro edge
    exact ⟨_, ⟨edge, rfl⟩, rfl⟩

/-- With a node gone, the nodes that were built on it are pending. -/
theorem Linked.drop {rest : List String} (linked : c.Linked (name :: rest)) :
    (c.drop name).Linked (c.dependents name ++ rest) where
  unique := List.Nodup.sublist (List.filter_sublist.map _) linked.unique
  edge_iff := by
    intro parent child
    rw [contains_drop]
    simp only [Cache.drop, List.mem_filter, Bool.and_eq_true, bne_iff_ne, linked.edge_iff]
    constructor
    · rintro ⟨⟨cached, n, member, rfl, built⟩, kept, keptChild⟩
      exact ⟨⟨keptChild, cached⟩, n, ⟨member, kept⟩, rfl, built⟩
    · rintro ⟨⟨keptChild, cached⟩, n, ⟨member, kept⟩, rfl, built⟩
      exact ⟨⟨cached, n, member, rfl, built⟩, kept, keptChild⟩
  covered := by
    intro n member settled child built
    simp only [Cache.drop, List.mem_filter, bne_iff_ne] at member
    obtain ⟨member, kept⟩ := member
    simp only [List.mem_append, mem_dependents, linked.edge_iff, not_or, not_and] at settled
    have cached := linked.covered n member (by simp [kept, settled.2]) child built
    refine contains_drop.2 ⟨?_, cached⟩
    -- A node built on the one that goes would be among its dependents, and so pending.
    rintro rfl
    exact settled.1 cached ⟨n, member, rfl, built⟩

theorem Linked.skip {rest : List String} (linked : c.Linked (name :: rest))
    (absent : ¬ c.contains name = true) : c.Linked rest where
  unique := linked.unique
  edge_iff := linked.edge_iff
  covered := by
    intro n member settled
    exact linked.covered n member (not_mem_cons_of_absent member absent settled)

theorem Linked.evict {pending : List String} (linked : c.Linked pending) :
    (c.evict pending).2.Linked [] := by
  -- One case for each turn of the worklist: done, a cached name, a name that is gone already.
  induction c, pending using evict.induct with
  | case1 c => simpa [Cache.evict] using linked
  | case2 c name rest cached gone left evicted ih =>
    rw [Cache.evict, dif_pos cached]
    exact ih linked.drop
  | case3 c name rest absent ih =>
    rw [Cache.evict, dif_neg absent]
    exact ih (linked.skip absent)

theorem mem_of_mem_evict {pending : List String} (member : n ∈ (c.evict pending).2.nodes) :
    n ∈ c.nodes := by
  induction c, pending using evict.induct with
  | case1 c => simpa [Cache.evict] using member
  | case2 c name rest cached gone left evicted ih =>
    rw [Cache.evict, dif_pos cached] at member
    exact (List.mem_filter.1 (ih member)).1
  | case3 c name rest absent ih =>
    rw [Cache.evict, dif_neg absent] at member
    exact ih member

/-- No name that was pending is left. -/
theorem name_ne_of_mem_evict {pending : List String} (member : n ∈ (c.evict pending).2.nodes) :
    n.name ∉ pending := by
  induction c, pending using evict.induct with
  | case1 c => simp
  | case2 c name rest cached gone left evicted ih =>
    rw [Cache.evict, dif_pos cached] at member
    have settled := ih member
    -- The name itself was dropped, and nothing comes back later.
    have kept := (List.mem_filter.1 (mem_of_mem_evict member)).2
    simp only [List.mem_append, not_or] at settled
    simp only [bne_iff_ne] at kept
    simp [kept, settled.2]
  | case3 c name rest absent ih =>
    rw [Cache.evict, dif_neg absent] at member
    exact not_mem_cons_of_absent (mem_of_mem_evict member) absent (ih member)

theorem Linked.weaken {pending : List String} (linked : c.Linked []) : c.Linked pending :=
  ⟨linked.unique, linked.edge_iff, fun n member _ => linked.covered n member (by simp)⟩

theorem Linked.invalidate (linked : c.Linked []) (name : String) :
    (c.invalidate name).2.Linked [] := linked.weaken.evict

/-! ## Putting a node in -/

theorem of_mem_place {nodes : List (Node α)} (member : m ∈ place n nodes) : m = n ∨ m ∈ nodes := by
  induction nodes with
  | nil => simpa [place] using member
  | cons first rest ih =>
    rw [place] at member
    split at member
    · exact (List.mem_cons.1 member).imp_right (List.mem_cons_of_mem _)
    · cases List.mem_cons.1 member with
      | inl same =>
        obtain rfl := same
        exact .inr List.mem_cons_self
      | inr member => exact (ih member).imp_right (List.mem_cons_of_mem _)

/-- A node that is placed is the one of its name from then on. -/
theorem find?_place (n : Node α) (nodes : List (Node α)) (name : String) :
    (place n nodes).find? (·.name == name) =
      if name = n.name then some n else nodes.find? (·.name == name) := by
  induction nodes with
  | nil =>
    rw [place, List.find?_singleton]
    by_cases same : name = n.name
    · simp [same]
    · simp [same, Ne.symm same]
  | cons first rest ih =>
    rw [place]
    by_cases same : first.name = n.name
    · rw [if_pos (by simpa using same)]
      by_cases found : name = n.name
      · simp [found]
      · rw [List.find?_cons_of_neg (by simpa using Ne.symm found),
          List.find?_cons_of_neg (by simpa [same] using Ne.symm found), if_neg found]
    · rw [if_neg (by simpa using same)]
      by_cases found : name = first.name
      · simp [found, same]
      · rw [List.find?_cons_of_neg (by simpa using Ne.symm found),
          List.find?_cons_of_neg (by simpa using Ne.symm found), ih]

theorem mem_names_place {nodes : List (Node α)} :
    name ∈ (place n nodes).map (·.name) ↔ name = n.name ∨ name ∈ nodes.map (·.name) := by
  induction nodes with
  | nil => simp [place]
  | cons first rest ih =>
    by_cases same : first.name = n.name
    · simp [place, same]
    · simp only [place, beq_iff_eq, same, if_false, List.map_cons, List.mem_cons, ih]
      exact or_left_comm

theorem mem_place {nodes : List (Node α)} (unique : (nodes.map (·.name)).Nodup) :
    m ∈ place n nodes ↔ m = n ∨ m ∈ nodes ∧ m.name ≠ n.name := by
  induction nodes with
  | nil => simp [place]
  | cons first rest ih =>
    simp only [List.map_cons, List.nodup_cons, List.mem_map, not_exists, not_and] at unique
    obtain ⟨alone, unique⟩ := unique
    by_cases same : first.name = n.name
    · have others : m ∈ rest → m.name ≠ n.name := fun member eq =>
        alone m member (eq.trans same.symm)
      simp only [place, same, beq_self_eq_true, if_true, List.mem_cons]
      constructor
      · rintro (rfl | member)
        · exact .inl rfl
        · exact .inr ⟨.inr member, others member⟩
      · rintro (rfl | ⟨rfl | member, ne⟩)
        · exact .inl rfl
        · exact absurd same ne
        · exact .inr member
    · simp only [place, beq_iff_eq, same, if_false, List.mem_cons, ih unique]
      constructor
      · rintro (rfl | rfl | ⟨member, ne⟩)
        · exact .inr ⟨.inl rfl, same⟩
        · exact .inl rfl
        · exact .inr ⟨.inr member, ne⟩
      · rintro (rfl | ⟨rfl | member, ne⟩)
        · exact .inr (.inl rfl)
        · exact .inl rfl
        · exact .inr (.inr ⟨member, ne⟩)

theorem nodup_place {nodes : List (Node α)} (unique : (nodes.map (·.name)).Nodup) :
    ((place n nodes).map (·.name)).Nodup := by
  induction nodes with
  | nil => simp [place]
  | cons first rest ih =>
    have split := unique
    simp only [List.map_cons, List.nodup_cons, List.mem_map, not_exists, not_and] at split
    by_cases same : first.name = n.name
    · simpa [place, same] using unique
    · simp only [place, beq_iff_eq, same, if_false, List.map_cons, List.nodup_cons, List.mem_map,
        mem_place split.2]
      refine ⟨?_, ih split.2⟩
      rintro ⟨m, rfl | ⟨member, -⟩, eq⟩
      · exact same eq.symm
      · exact split.1 m member eq

theorem mem_foldl_link {edges more : List Edge} {e : Edge} :
    e ∈ more.foldl link edges ↔ e ∈ edges ∨ e ∈ more := by
  induction more generalizing edges with
  | nil => simp
  | cons first rest ih =>
    have linked : e ∈ link edges first ↔ e ∈ edges ∨ e = first := by
      unfold link
      split
      · next known =>
        constructor
        · exact .inl
        · rintro (member | rfl)
          · exact member
          · exact known
      · simp [or_comm]
    rw [List.foldl_cons, ih, linked, List.mem_cons, or_assoc]

theorem put?_of_current (current : c.isCurrent n = true) :
    c.put? n = some ⟨place n c.nodes, (n.dependencyNames.map (Edge.mk n.name)).foldl link
      (c.edges.filter (·.parent != n.name))⟩ := by
  rw [put?, if_pos current]

/-- A node that was put in was up to date, and takes the place of the one of its name. -/
theorem put?_eq_some (put : c.put? n = some c') :
    c.isCurrent n = true ∧ c'.nodes = place n c.nodes ∧
      ∀ parent child, ⟨parent, child⟩ ∈ c'.edges ↔
        (⟨parent, child⟩ ∈ c.edges ∧ parent ≠ n.name) ∨
          parent = n.name ∧ child ∈ n.dependencyNames := by
  unfold put? at put
  split at put
  · next current =>
    cases put
    refine ⟨current, rfl, ?_⟩
    intro parent child
    simp only [mem_foldl_link, List.mem_filter, bne_iff_ne, List.mem_map, Edge.mk.injEq]
    refine or_congr Iff.rfl ?_
    constructor
    · rintro ⟨_, built, rfl, rfl⟩
      exact ⟨rfl, built⟩
    · rintro ⟨rfl, built⟩
      exact ⟨_, built, rfl, rfl⟩
  · cases put

theorem isCurrent_iff : c.isCurrent n = true ↔
    ∀ d ∈ n.dependencies, ∃ m, c.get? d.name = some m ∧ m.same d = true := by
  simp [isCurrent, Option.any_eq_true]

theorem Linked.mem_put (linked : c.Linked []) (put : c.put? n = some c') :
    m ∈ c'.nodes ↔ m = n ∨ m ∈ c.nodes ∧ m.name ≠ n.name := by
  rw [(put?_eq_some put).2.1, mem_place linked.unique]

theorem contains_put (put : c.put? n = some c') :
    c'.contains name = true ↔ name = n.name ∨ c.contains name = true := by
  have names : ∀ c : Cache α, c.contains name = true ↔ name ∈ c.nodes.map (·.name) := by
    simp [contains_iff]
  rw [names, names, (put?_eq_some put).2.1, mem_names_place]

theorem get?_put (put : c.put? n = some c') (name : String) :
    c'.get? name = if name = n.name then some n else c.get? name := by
  rw [get?, (put?_eq_some put).2.1, find?_place, get?]

theorem Linked.put (linked : c.Linked []) (put : c.put? n = some c') : c'.Linked [] := by
  obtain ⟨current, placed, edges⟩ := put?_eq_some put
  -- A node that is up to date was built from cached ones.
  have built : ∀ child ∈ n.dependencyNames, c.contains child = true := by
    intro child member
    obtain ⟨d, dependency, rfl⟩ := List.mem_map.1 member
    obtain ⟨m, found, -⟩ := isCurrent_iff.1 current d dependency
    simp [contains, found]
  refine ⟨placed ▸ nodup_place linked.unique, ?_, ?_⟩
  · intro parent child
    -- The edges of the new node are its own, those of the others stay.
    rw [edges, contains_put put]
    constructor
    · rintro (⟨edge, ne⟩ | ⟨rfl, member⟩)
      · obtain ⟨cached, m, member, rfl, tells⟩ := (linked.edge_iff _ _).1 edge
        exact ⟨.inr cached, m, (linked.mem_put put).2 (.inr ⟨member, ne⟩), rfl, tells⟩
      · exact ⟨.inr (built child member), n, (linked.mem_put put).2 (.inl rfl), rfl, member⟩
    · rintro ⟨-, m, member, rfl, tells⟩
      rcases (linked.mem_put put).1 member with rfl | ⟨member, ne⟩
      · exact .inr ⟨rfl, tells⟩
      · have cached := linked.covered m member (by simp) child tells
        exact .inl ⟨(linked.edge_iff _ _).2 ⟨cached, m, member, rfl, tells⟩, ne⟩
  · intro m member _ child tells
    -- Whatever was cached under a name, something still is.
    rw [contains_put put]
    rcases (linked.mem_put put).1 member with rfl | ⟨member, -⟩
    · exact .inr (built child tells)
    · exact .inr (linked.covered m member (by simp) child tells)

/-! ## Parents and children -/

@[simp] theorem mem_sortNames {names : List String} : name ∈ sortNames names ↔ name ∈ names := by
  rw [sortNames, List.mem_mergeSort, List.mem_eraseDups]

theorem ordered_sortNames (names : List String) : (sortNames names).Pairwise (· ≤ ·) := by
  refine (List.pairwise_mergeSort ?_ ?_ _).imp of_decide_eq_true
  · simp only [decide_eq_true_eq]
    exact fun _ _ _ => String.le_trans
  · simp only [Bool.or_eq_true, decide_eq_true_eq]
    exact String.le_total

theorem nodup_sortNames (names : List String) : (sortNames names).Nodup :=
  (List.mergeSort_perm _ _).nodup_iff.2 (nodup_eraseDups names)

/-- Names in order and without repeats are determined by which ones they are. -/
theorem eq_sortNames {sorted names : List String} (ordered : sorted.Pairwise (· ≤ ·))
    (distinct : sorted.Nodup) (same : ∀ name, name ∈ sorted ↔ name ∈ names) :
    sorted = sortNames names := by
  have alike : sorted.Perm (sortNames names) := by
    rw [List.perm_ext_iff_of_nodup distinct (nodup_sortNames names)]
    simpa using same
  exact alike.eq_of_pairwise (fun _ _ _ _ => String.le_antisymm) ordered (ordered_sortNames names)

theorem sortNames_congr {names names' : List String}
    (same : ∀ name, name ∈ names ↔ name ∈ names') : sortNames names = sortNames names' :=
  eq_sortNames (ordered_sortNames names) (nodup_sortNames names) (by simpa using same)

theorem filter_sortNames (keeps : String → Bool) (names : List String) :
    (sortNames names).filter keeps = sortNames (names.filter keeps) :=
  eq_sortNames ((ordered_sortNames names).filter _) ((nodup_sortNames names).filter _) (by simp)

theorem mem_parents : other ∈ c.parents name ↔ ⟨other, name⟩ ∈ c.edges := by
  rw [parents, mem_sortNames, ← mem_dependents, dependents, List.mem_reverse]

theorem mem_children : other ∈ c.children name ↔ ⟨name, other⟩ ∈ c.edges := by
  simp only [children, mem_sortNames, List.mem_map, List.mem_filter, beq_iff_eq]
  constructor
  · rintro ⟨⟨parent, child⟩, ⟨edge, rfl⟩, rfl⟩
    exact edge
  · intro edge
    exact ⟨_, ⟨edge, rfl⟩, rfl⟩

/-- The children of a cached node are what it was built from. -/
theorem Linked.children_eq (linked : c.Linked []) (found : c.get? name = some n) :
    c.children name = sortNames n.dependencyNames := by
  refine sortNames_congr fun other => ?_
  obtain ⟨member, named⟩ := mem_of_get? found
  rw [← mem_sortNames, ← children, mem_children, linked.edge_iff]
  constructor
  · rintro ⟨-, m, member', named', tells⟩
    rw [List.inj_on_of_nodup_map linked.unique member member' (named.trans named'.symm)]
    exact tells
  · intro tells
    exact ⟨linked.covered n member (by simp) other tells, n, member, named, tells⟩

end Collage.Cache
