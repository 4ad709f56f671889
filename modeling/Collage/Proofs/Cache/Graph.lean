import Mathlib.Data.List.Nodup
import Collage.Cache.Graph

/-! # The slots of a cache

`Graph.Sound` is the invariant of a graph with numbered slots: the table tells exactly the slots of
the nodes by their names, edges join slots that are filled, there is no more than one edge from one
slot to another, and the empty slots on record are empty.  Each operation keeps it, and so does each
step of the walk that gives names up.
-/

namespace Collage.Graph

variable {α : Type} {g h : Graph α} {n m : Node α} {name : String} {slot other : Nat}

/-- There is a node in a slot. -/
def Holds (g : Graph α) (slot : Nat) : Prop := ∃ n, g.node? slot = some n

structure Sound (g : Graph α) : Prop where
  /-- The table tells the slots of the nodes by their names. -/
  place_iff : ∀ name slot, g.places.lookup name = some slot ↔
    ∃ n, g.node? slot = some n ∧ n.name = name
  /-- The names in the table increase, so none is there twice. -/
  ordered : Sorted.Ordered g.places
  ends : ∀ arc ∈ g.arcs, g.Holds arc.1 ∧ g.Holds arc.2
  /-- There is no edge twice. -/
  simple : g.arcs.Nodup
  vacant : ∀ slot ∈ g.vacant, slot < g.slots.length ∧ g.node? slot = none
  emptied : g.vacant.Nodup

theorem sound_empty : (empty : Graph α).Sound :=
  ⟨by simp [empty, node?], by simp [empty, Sorted.Ordered, Sorted.keys], by simp [empty],
    by simp [empty], by simp [empty], by simp [empty]⟩

/-! ## Slots -/

theorem lt_of_node? (held : g.node? slot = some n) : slot < g.slots.length :=
  (List.getElem?_eq_some_iff.1 (Option.join_eq_some_iff.1 held)).1

theorem join_getElem?_set {slots : List (Option (Node α))} (inside : slot < slots.length)
    (content : Option (Node α)) :
    (slots.set slot content)[other]?.join =
      if other = slot then content else slots[other]?.join := by
  rw [List.getElem?_set]
  by_cases same : other = slot
  · subst same
    simp [inside]
  · simp [same, Ne.symm same]

/-- Nodes of one name are in one slot. -/
theorem Sound.slot_unique (sound : g.Sound) (held : g.node? slot = some n)
    (held' : g.node? other = some m) (same : n.name = m.name) : slot = other := by
  have place := (sound.place_iff n.name slot).2 ⟨n, held, rfl⟩
  have place' := (sound.place_iff n.name other).2 ⟨m, held', same.symm⟩
  exact Option.some.inj (place.symm.trans place')

theorem Sound.get?_eq_some_iff (sound : g.Sound) :
    g.get? name = some n ↔ ∃ slot, g.node? slot = some n ∧ n.name = name := by
  rw [get?, Option.bind_eq_some_iff]
  constructor
  · rintro ⟨slot, place, held⟩
    obtain ⟨m, held', named⟩ := (sound.place_iff name slot).1 place
    obtain rfl := Option.some.inj (held.symm.trans held')
    exact ⟨slot, held, named⟩
  · rintro ⟨slot, held, named⟩
    exact ⟨slot, (sound.place_iff name slot).2 ⟨n, held, named⟩, held⟩

/-! ## Putting a node in -/

/-- A node is added in a slot that was empty, and the other slots stay as they are. -/
theorem Sound.add (sound : g.Sound) (n : Node α) :
    g.node? (g.add n).1 = none ∧
      (∀ j, (g.add n).2.node? j = if j = (g.add n).1 then some n else g.node? j) ∧
      (g.add n).2.arcs = g.arcs ∧ (g.add n).2.places = g.places ∧
      (∀ j ∈ (g.add n).2.vacant, j < (g.add n).2.slots.length ∧ (g.add n).2.node? j = none) ∧
      (g.add n).2.vacant.Nodup := by
  cases free : g.vacant with
  | nil =>
    have added : g.add n = (g.slots.length, { g with slots := g.slots ++ [some n] }) := by
      simp only [Graph.add, free]
    rw [added]
    refine ⟨by simp [node?], ?_, rfl, rfl, by simp [free], by simp [free]⟩
    intro j
    simp only [node?, List.getElem?_append]
    rcases Nat.lt_trichotomy j g.slots.length with before | same | behind
    · simp [before, Nat.ne_of_lt before]
    · simp [same]
    · have beyond : g.slots[j]? = none := List.getElem?_eq_none (Nat.le_of_lt behind)
      have last : ([some n] : List (Option (Node α)))[j - g.slots.length]? = none :=
        List.getElem?_eq_none (by simp; omega)
      rw [if_neg (by omega), if_neg (by omega), beyond, last]
  | cons slot rest =>
    have added : g.add n =
        (slot, { g with slots := g.slots.set slot (some n), vacant := rest }) := by
      simp only [Graph.add, free]
    obtain ⟨inside, none⟩ := sound.vacant slot (by simp [free])
    have once := sound.emptied
    rw [free, List.nodup_cons] at once
    rw [added]
    refine ⟨none, fun j => join_getElem?_set inside _, rfl, rfl, ?_, once.2⟩
    intro j member
    obtain ⟨inside', none'⟩ := sound.vacant j (by simp [free, member])
    refine ⟨by simpa using inside', ?_⟩
    -- The slot that was filled is not on record any more.
    have ne : j ≠ slot := by
      rintro rfl
      exact once.1 member
    exact (join_getElem?_set inside _).trans ((if_neg ne).trans none')

/-- A graph in which one slot was filled anew, and the edges from there were taken away. -/
theorem Sound.refill (sound : g.Sound)
    (own : ∀ j m, g.node? j = some m → (m.name = n.name ↔ j = slot))
    (nodes : ∀ j, h.node? j = if j = slot then some n else g.node? j)
    (places : ∀ x, h.places.lookup x = if x = n.name then some slot else g.places.lookup x)
    (ordered : Sorted.Ordered h.places) (arcs : h.arcs = g.arcs.filter (·.1 ≠ slot))
    (vacant : ∀ j ∈ h.vacant, j < h.slots.length ∧ h.node? j = none) (emptied : h.vacant.Nodup) :
    h.Sound where
  place_iff := by
    intro x j
    rw [places, nodes]
    by_cases named : x = n.name
    · subst named
      rw [if_pos rfl]
      constructor
      · intro same
        cases same
        exact ⟨n, if_pos rfl, rfl⟩
      · rintro ⟨m, held, named⟩
        split at held
        · next same => rw [same]
        · rw [(own j m held).1 named]
    · rw [if_neg named, sound.place_iff]
      constructor
      · rintro ⟨m, held, rfl⟩
        have ne : j ≠ slot := fun same => named ((own j m held).2 same)
        exact ⟨m, (if_neg ne).trans held, rfl⟩
      · rintro ⟨m, held, rfl⟩
        split at held
        · cases held
          exact absurd rfl named
        · exact ⟨m, held, rfl⟩
  ordered := ordered
  ends := by
    have grown : ∀ j, g.Holds j → h.Holds j := by
      rintro j ⟨m, held⟩
      by_cases same : j = slot
      · exact ⟨n, (nodes j).trans (if_pos same)⟩
      · exact ⟨m, (nodes j).trans ((if_neg same).trans held)⟩
    intro arc member
    rw [arcs] at member
    obtain ⟨source, target⟩ := sound.ends arc (List.mem_filter.1 member).1
    exact ⟨grown _ source, grown _ target⟩
  simple := arcs ▸ sound.simple.filter _
  vacant := vacant
  emptied := emptied

/-- A node gets the slot that its name had, or one that was empty.  No edge leads from there. -/
theorem Sound.seat (sound : g.Sound) (n : Node α) :
    (∀ j m, g.node? j = some m → (m.name = n.name ↔ j = (g.seat n).1)) ∧
      (∀ j, (g.seat n).2.node? j = if j = (g.seat n).1 then some n else g.node? j) ∧
      (g.seat n).2.arcs = g.arcs.filter (·.1 ≠ (g.seat n).1) ∧ (g.seat n).2.Sound := by
  cases place : g.places.lookup n.name with
  | some slot =>
    have seated : g.seat n = (slot, { g with
        slots := g.slots.set slot (some n), arcs := g.arcs.filter (·.1 ≠ slot) }) := by
      simp only [Graph.seat, place]
    obtain ⟨m, held, named⟩ := (sound.place_iff _ _).1 place
    have own : ∀ j m, g.node? j = some m → (m.name = n.name ↔ j = slot) := by
      intro j m' held'
      constructor
      · exact fun same => sound.slot_unique held' held (same.trans named.symm)
      · rintro rfl
        obtain rfl := Option.some.inj (held.symm.trans held')
        exact named
    have nodes : ∀ j, ((g.slots.set slot (some n))[j]?).join =
        if j = slot then some n else g.node? j := fun j => join_getElem?_set (lt_of_node? held) _
    rw [seated]
    refine ⟨own, nodes, rfl, sound.refill own nodes ?_ sound.ordered rfl ?_ sound.emptied⟩
    · intro x
      split
      · next same => rw [same, place]
      · rfl
    · intro j member
      obtain ⟨inside, none⟩ := sound.vacant j member
      have ne : j ≠ slot := by
        rintro rfl
        rw [held] at none
        cases none
      exact ⟨by simpa using inside, (nodes j).trans ((if_neg ne).trans none)⟩
  | none =>
    obtain ⟨free, nodes, arcs, places, vacant, emptied⟩ := sound.add n
    have seated : g.seat n = ((g.add n).1, { (g.add n).2 with
        places := Sorted.insert n.name (g.add n).1 (g.add n).2.places }) := by
      simp only [Graph.seat, place]
    -- The name is new, so no slot holds a node of it, and the slot that is filled was empty.
    have own : ∀ j m, g.node? j = some m → (m.name = n.name ↔ j = (g.add n).1) := by
      intro j m held
      constructor
      · intro named
        rw [(sound.place_iff _ _).2 ⟨m, held, named⟩] at place
        cases place
      · rintro rfl
        rw [free] at held
        cases held
    have bare : g.arcs = g.arcs.filter (·.1 ≠ (g.add n).1) := by
      refine (List.filter_eq_self.2 fun arc member => ?_).symm
      obtain ⟨m, held⟩ := (sound.ends arc member).1
      refine decide_eq_true fun same => ?_
      rw [same, free] at held
      cases held
    rw [seated]
    refine ⟨own, nodes, arcs.trans bare, sound.refill own nodes ?_ ?_ (arcs.trans bare) vacant
      emptied⟩
    · intro x
      rw [Sorted.lookup_insert, places]
    · exact Sorted.ordered_insert (places ▸ sound.ordered)

theorem mem_join {arcs : List (Nat × Nat)} {arc first : Nat × Nat} :
    arc ∈ join arcs first ↔ arc ∈ arcs ∨ arc = first := by
  unfold join
  split
  · next known =>
    constructor
    · exact .inl
    · rintro (member | rfl)
      · exact member
      · exact known
  · simp [or_comm]

theorem mem_foldl_join {arcs more : List (Nat × Nat)} {arc : Nat × Nat} :
    arc ∈ more.foldl join arcs ↔ arc ∈ arcs ∨ arc ∈ more := by
  induction more generalizing arcs with
  | nil => simp
  | cons first rest ih => rw [List.foldl_cons, ih, mem_join, List.mem_cons, or_assoc]

theorem nodup_foldl_join {arcs : List (Nat × Nat)} (simple : arcs.Nodup)
    (more : List (Nat × Nat)) : (more.foldl join arcs).Nodup := by
  induction more generalizing arcs with
  | nil => exact simple
  | cons first rest ih =>
    refine ih ?_
    unfold join
    split
    · exact simple
    · next new => exact List.nodup_cons.2 ⟨new, simple⟩

/-- Edges between slots that are filled may be added. -/
theorem Sound.link (sound : g.Sound) {more : List (Nat × Nat)}
    (ends : ∀ arc ∈ more, g.Holds arc.1 ∧ g.Holds arc.2) :
    ({ g with arcs := more.foldl join g.arcs } : Graph α).Sound where
  place_iff := sound.place_iff
  ordered := sound.ordered
  ends := by
    intro arc member
    cases mem_foldl_join.1 member with
    | inl member => exact sound.ends arc member
    | inr member => exact ends arc member
  simple := nodup_foldl_join sound.simple more
  vacant := sound.vacant
  emptied := sound.emptied

theorem Sound.ends_of_links (sound : g.Sound) (holds : g.Holds slot) (n : Node α) :
    ∀ arc ∈ g.links slot n, g.Holds arc.1 ∧ g.Holds arc.2 := by
  intro arc member
  obtain ⟨target, known, rfl⟩ := List.mem_map.1 member
  obtain ⟨name, -, place⟩ := List.mem_filterMap.1 known
  obtain ⟨m, held, -⟩ := (sound.place_iff name target).1 place
  exact ⟨holds, m, held⟩

theorem put?_of_current (current : g.isCurrent n = true) :
    g.put? n = some { (g.seat n).2 with
      arcs := ((g.seat n).2.links (g.seat n).1 n).foldl join (g.seat n).2.arcs } := by
  rw [put?, if_pos current]

theorem Sound.put (sound : g.Sound) (put : g.put? n = some h) : h.Sound := by
  obtain ⟨-, nodes, -, seated⟩ := sound.seat n
  cases current : g.isCurrent n with
  | true =>
    rw [put?_of_current current] at put
    cases put
    exact seated.link (seated.ends_of_links ⟨n, (nodes _).trans (if_pos rfl)⟩ n)
  | false => simp [put?, current] at put

/-! ## Giving names up -/

theorem node?_remove (g : Graph α) (slot : Nat) (name : String) (j : Nat) :
    (g.remove slot name).node? j = if j = slot then none else g.node? j := by
  by_cases inside : slot < g.slots.length
  · exact join_getElem?_set inside none
  · have same : g.slots.set slot none = g.slots := List.set_eq_of_length_le (Nat.not_lt.1 inside)
    rw [node?, remove, same]
    split
    · next same =>
      rw [same, List.getElem?_eq_none (Nat.not_lt.1 inside)]
      rfl
    · rfl

theorem Sound.remove (sound : g.Sound) (held : g.node? slot = some n) :
    (g.remove slot n.name).Sound where
  place_iff := by
    intro x j
    rw [node?_remove, Graph.remove, Sorted.lookup_filter]
    by_cases named : x = n.name
    · rw [if_pos named]
      constructor
      · intro placed
        cases placed
      · rintro ⟨m, held', rfl⟩
        split at held'
        · cases held'
        · next ne => exact absurd (sound.slot_unique held' held named) ne
    · rw [if_neg named, sound.place_iff]
      refine exists_congr fun m => and_congr_left fun same => ?_
      subst same
      by_cases same : j = slot
      · subst same
        rw [if_pos rfl, held]
        constructor
        · exact fun same => absurd (congrArg (·.name) (Option.some.inj same)).symm named
        · intro gone
          cases gone
      · rw [if_neg same]
  ordered := sound.ordered.sublist (List.filter_sublist.map _)
  ends := by
    intro arc member
    obtain ⟨member, apart⟩ := List.mem_filter.1 member
    obtain ⟨⟨m, source⟩, m', target⟩ := sound.ends arc member
    have ne := of_decide_eq_true apart
    exact ⟨⟨m, (node?_remove ..).trans ((if_neg ne.1).trans source)⟩,
      m', (node?_remove ..).trans ((if_neg ne.2).trans target)⟩
  simple := sound.simple.filter _
  vacant := by
    intro j member
    rw [node?_remove]
    cases List.mem_cons.1 member with
    | inl same =>
      subst same
      exact ⟨by simpa [Graph.remove] using lt_of_node? held, if_pos rfl⟩
    | inr member =>
      obtain ⟨inside, none⟩ := sound.vacant j member
      exact ⟨by simpa [Graph.remove] using inside, by simp [none]⟩
  emptied := by
    refine List.nodup_cons.2 ⟨fun member => ?_, sound.emptied⟩
    have none := (sound.vacant slot member).2
    rw [held] at none
    cases none

end Collage.Graph
