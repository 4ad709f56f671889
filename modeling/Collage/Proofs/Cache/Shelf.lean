import Collage.Proofs.Cache.Fresh

/-! # What shelves keep

A shelf is a cache or nothing, so what holds of caches holds of shelves.
-/

namespace Collage.Shelf

variable {α : Type} {s : Shelf α} {name : String} {n m : Node α}

@[simp] theorem cache_clear : s.clear.cache = .empty := by cases s <;> rfl

theorem mem_of_mem_invalidate (member : n ∈ (s.invalidate name).2.cache.nodes) :
    n ∈ s.cache.nodes := by
  cases s with
  | keeping c => exact Cache.mem_of_mem_evict member
  | discarding => exact member

theorem fresh_invalidate (fresh : s.cache.Fresh []) (name : String) :
    (s.invalidate name).2.cache.Fresh [] := by
  cases s with
  | keeping c => exact fresh.invalidate name
  | discarding => exact fresh

theorem name_ne_of_mem_invalidate (kept : n ∈ (s.invalidate name).2.cache.nodes) :
    n.name ≠ name := by
  cases s with
  | keeping c => simpa using Cache.name_ne_of_mem_evict kept
  | discarding => simp [invalidate, cache, Cache.empty] at kept

/-- Once a name is given up, nothing that is kept embeds a node of that name. -/
theorem name_ne_of_embedded (fresh : s.cache.Fresh [])
    (kept : n ∈ (s.invalidate name).2.cache.nodes) (embeds : n.Embeds m) : m.name ≠ name := by
  cases s with
  | keeping c => exact fresh.name_ne_of_embedded kept embeds
  | discarding => simp [invalidate, cache, Cache.empty] at kept

theorem put_cases (s : Shelf α) (n : Node α) :
    (∃ c, s.cache.put? n = some c ∧ (s.put n).2.cache = c) ∨ (s.put n).2 = s := by
  cases s with
  | keeping c =>
    cases put : c.put? n with
    | some c' => exact .inl ⟨c', put, by simp [Shelf.put, put, cache]⟩
    | none => exact .inr (by simp [Shelf.put, put])
  | discarding => exact .inr rfl

@[simp] theorem put_discarding : ((discarding : Shelf α).put n).2 = discarding := rfl

theorem of_mem_put (member : m ∈ (s.put n).2.cache.nodes) : m = n ∨ m ∈ s.cache.nodes := by
  obtain ⟨c, put, eq⟩ | eq := s.put_cases n
  · rw [eq, (Cache.put?_eq_some put).2.1] at member
    exact Cache.of_mem_place member
  · rw [eq] at member
    exact .inr member

/-- Offering a node loses no name. -/
theorem contains_put (kept : s.cache.contains name = true) :
    (s.put n).2.cache.contains name = true := by
  obtain ⟨c, put, eq⟩ | eq := s.put_cases n
  · rw [eq]
    exact (Cache.contains_put put).2 (.inr kept)
  · rw [eq]
    exact kept

end Collage.Shelf
