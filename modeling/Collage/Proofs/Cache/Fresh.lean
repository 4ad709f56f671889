import Mathlib.Logic.Relation
import Collage.Proofs.Cache.Linked

/-! # Fresh caches

A cache is fresh when it is linked and every node that a cached node was built from is itself the
node cached under its name.  Then no cached node embeds a copy that giving a name up would miss
(`Fresh.embedded`), and no names depend on one another in a circle (`Fresh.acyclic`): a node is a
finite tree, and each edge leads to a smaller one.
-/

namespace Collage

open Relation

namespace Node

variable {α : Type} {n d m : Node α}

theorem sizeOf_lt_of_mem [SizeOf α] (member : d ∈ n.dependencies) : sizeOf d < sizeOf n := by
  have smaller := List.sizeOf_lt_of_mem member
  obtain ⟨serial, name, artifact, dependencies⟩ := n
  simp only [Node.mk.sizeOf_spec] at smaller ⊢
  omega

theorem Embeds.trans {k : Node α} (first : n.Embeds m) (second : m.Embeds k) : n.Embeds k := by
  induction first with
  | refl n => exact second
  | step member _ ih => exact .step member (ih second)

theorem Embeds.of_mem (member : d ∈ n.dependencies) : n.Embeds d := .step member (.refl d)

theorem Embeds.sizeOf_le [SizeOf α] (embeds : n.Embeds m) : sizeOf m ≤ sizeOf n := by
  induction embeds with
  | refl n => exact Nat.le_refl _
  | step member _ ih => exact Nat.le_of_lt (Nat.lt_of_le_of_lt ih (sizeOf_lt_of_mem member))

theorem Embeds.cases_head (embeds : n.Embeds m) :
    m = n ∨ ∃ d ∈ n.dependencies, d.Embeds m := by
  cases embeds with
  | refl => exact .inl rfl
  | step member below => exact .inr ⟨_, member, below⟩

end Node

namespace Cache

variable {α : Type} {c c' : Cache α} {n m : Node α} {name : String}

/-- `c.DependsOn parent child`: there is an edge from one cached name to another. -/
def DependsOn (c : Cache α) (parent child : String) : Prop := ⟨parent, child⟩ ∈ c.edges

/-- The cache is linked, and what a node was built from is the very node cached under its name,
unless the name of the node is among those `pending`. -/
structure Fresh (pending : List String) (c : Cache α) : Prop extends Linked pending c where
  same : ∀ n ∈ c.nodes, n.name ∉ pending → ∀ d ∈ n.dependencies, d ∈ c.nodes

theorem fresh_empty (pending : List String) : (empty : Cache α).Fresh pending :=
  ⟨linked_empty pending, by simp [empty]⟩

/-! ## Giving names up -/

theorem Fresh.drop {rest : List String} (fresh : c.Fresh (name :: rest)) :
    (c.drop name).Fresh (c.dependents name ++ rest) where
  toLinked := fresh.toLinked.drop
  same := by
    intro n member settled d built
    simp only [Cache.drop, List.mem_filter, bne_iff_ne] at member ⊢
    obtain ⟨member, kept⟩ := member
    simp only [List.mem_append, mem_dependents, fresh.edge_iff, not_or, not_and] at settled
    have cached := fresh.same n member (by simp [kept, settled.2]) d built
    refine ⟨cached, ?_⟩
    rintro rfl
    exact settled.1 (contains_name cached) ⟨n, member, rfl, List.mem_map_of_mem built⟩

theorem Fresh.evict {pending : List String} (fresh : c.Fresh pending) :
    (c.evict pending).2.Fresh [] := by
  induction c, pending using evict.induct with
  | case1 c => simpa [Cache.evict] using fresh
  | case2 c name rest cached gone left evicted ih =>
    rw [Cache.evict, dif_pos cached]
    exact ih fresh.drop
  | case3 c name rest absent ih =>
    rw [Cache.evict, dif_neg absent]
    refine ih ⟨fresh.toLinked.skip absent, ?_⟩
    intro n member settled
    exact fresh.same n member (not_mem_cons_of_absent member absent settled)

theorem Fresh.invalidate (fresh : c.Fresh []) (name : String) :
    (c.invalidate name).2.Fresh [] :=
  Fresh.evict ⟨fresh.toLinked.weaken, fun n member _ => fresh.same n member (by simp)⟩

/-! ## Putting a node in -/

/-- A node whose name is not cached keeps a cache fresh, where nodes with one serial number are one
node. -/
theorem Fresh.put (fresh : c.Fresh []) (put : c.put? n = some c')
    (absent : ¬ c.contains n.name = true)
    (identity : ∀ d ∈ n.dependencies, ∀ m ∈ c.nodes, m.same d = true → m = d) : c'.Fresh [] where
  toLinked := fresh.toLinked.put put
  same := by
    -- A node that took the place of another would leave behind the copies of that other one.
    have others : ∀ m ∈ c.nodes, m ∈ c'.nodes := by
      intro m member
      refine (fresh.toLinked.mem_put put).2 (.inr ⟨member, ?_⟩)
      intro eq
      exact absent (eq ▸ contains_name member)
    intro m member _ d built
    rcases (fresh.toLinked.mem_put put).1 member with rfl | ⟨member, -⟩
    · -- The check compares serial numbers, and those tell the nodes apart.
      obtain ⟨k, found, same⟩ := isCurrent_iff.1 (put?_eq_some put).1 d built
      have cached := (mem_of_get? found).1
      rw [identity d built k cached same] at cached
      exact others d cached
    · exact others d (fresh.same m member (by simp) d built)

/-! ## What is fresh -/

/-- Everything a cached node embeds is cached. -/
theorem Fresh.embedded (fresh : c.Fresh []) (member : n ∈ c.nodes) (embeds : n.Embeds m) :
    m ∈ c.nodes := by
  induction embeds with
  | refl => exact member
  | step built _ ih => exact ih (fresh.same _ member (by simp) _ built)

/-- An edge leads from a cached node to a cached node that is smaller. -/
theorem Fresh.smaller_of_dependsOn (fresh : c.Fresh []) {parent child : String}
    (depends : c.DependsOn parent child) :
    ∃ n ∈ c.nodes, ∃ d ∈ c.nodes, n.name = parent ∧ d.name = child ∧ sizeOf d < sizeOf n := by
  obtain ⟨-, n, member, named, tells⟩ := (fresh.edge_iff _ _).1 depends
  obtain ⟨d, built, rfl⟩ := List.mem_map.1 tells
  exact ⟨n, member, d, fresh.same n member (by simp) d built, named, rfl,
    Node.sizeOf_lt_of_mem built⟩

theorem Fresh.smaller_of_path (fresh : c.Fresh []) {first last : String}
    (path : TransGen c.DependsOn first last) :
    ∃ n ∈ c.nodes, ∃ d ∈ c.nodes, n.name = first ∧ d.name = last ∧ sizeOf d < sizeOf n := by
  induction path with
  | single depends => exact fresh.smaller_of_dependsOn depends
  | tail _ depends ih =>
    obtain ⟨n, member, d, below, named, rfl, smaller⟩ := ih
    -- The path goes on from the node it came to, since there is one node to a name.
    obtain ⟨d', same, e, deeper, eq, last, smallest⟩ := fresh.smaller_of_dependsOn depends
    obtain rfl := List.inj_on_of_nodup_map fresh.unique below same eq.symm
    exact ⟨n, member, e, deeper, named, last, Nat.lt_trans smallest smaller⟩

/-- No name depends on itself. -/
theorem Fresh.acyclic (fresh : c.Fresh []) (name : String) : ¬ TransGen c.DependsOn name name := by
  intro path
  obtain ⟨n, member, d, below, named, same, smaller⟩ := fresh.smaller_of_path path
  obtain rfl := List.inj_on_of_nodup_map fresh.unique member below (named.trans same.symm)
  exact Nat.lt_irrefl _ smaller

/-- Once a name is given up, nothing that is cached embeds a node of that name. -/
theorem Fresh.name_ne_of_embedded (fresh : c.Fresh []) (member : n ∈ (c.invalidate name).2.nodes)
    (embeds : n.Embeds m) : m.name ≠ name := by
  have cached := (fresh.invalidate name).embedded member embeds
  simpa using name_ne_of_mem_evict cached

end Cache

end Collage
