/-! # Entries in the order of their keys

A finite map written as a list of entries whose keys increase.  `Sorted.insert` keeps the order and
replaces the entry of a key that is there; `List.lookup` reads an entry.  Keys are ordered by code
point, which is also the order of their bytes.
-/

namespace Collage.Sorted

variable {α : Type}

/-- The entries with one more, in the place of the one of its key if there is one. -/
def insert (key : String) (value : α) : List (String × α) → List (String × α)
  | [] => [(key, value)]
  | (k, v) :: rest =>
    if key < k then (key, value) :: (k, v) :: rest
    else if key = k then (key, value) :: rest
    else (k, v) :: insert key value rest

def keys (entries : List (String × α)) : List String := entries.map (·.1)

def Ordered (entries : List (String × α)) : Prop := (keys entries).Pairwise (· < ·)

instance (entries : List (String × α)) : Decidable (Ordered entries) :=
  inferInstanceAs (Decidable ((keys entries).Pairwise (· < ·)))

theorem lookup_cons_ite (name key : String) (value : α) (rest : List (String × α)) :
    ((key, value) :: rest).lookup name = if name = key then some value else rest.lookup name := by
  rw [List.lookup_cons]
  by_cases h : name = key
  · simp [h]
  · have : (name == key) = false := by simpa using h
    simp [this, h]

@[simp] theorem lookup_insert (key name : String) (value : α) (entries : List (String × α)) :
    (insert key value entries).lookup name =
      if name = key then some value else entries.lookup name := by
  induction entries with
  | nil => simp [insert, lookup_cons_ite]
  | cons entry rest ih =>
    obtain ⟨k, v⟩ := entry
    simp only [insert]
    split
    · rw [lookup_cons_ite]
    · split
      · next hk => subst hk; simp only [lookup_cons_ite]; split <;> rfl
      · next hk =>
        simp only [lookup_cons_ite, ih]
        by_cases h : name = k
        · subst h; simp [Ne.symm hk]
        · simp [h]

/-- With the entries of a key left out, the other keys have the values that they had. -/
theorem lookup_filter (key name : String) (entries : List (String × α)) :
    (entries.filter (·.1 ≠ key)).lookup name =
      if name = key then none else entries.lookup name := by
  induction entries with
  | nil => simp
  | cons entry rest ih =>
    obtain ⟨k, value⟩ := entry
    by_cases same : k = key
    · subst same
      rw [List.filter_cons_of_neg (by simp), ih, lookup_cons_ite]
      split <;> rfl
    · rw [List.filter_cons_of_pos (by simpa using same), lookup_cons_ite, lookup_cons_ite, ih]
      by_cases found : name = k
      · subst found
        simp [same]
      · simp [found]

theorem mem_keys_insert {key name : String} {value : α} {entries : List (String × α)} :
    name ∈ keys (insert key value entries) ↔ name = key ∨ name ∈ keys entries := by
  induction entries with
  | nil => simp [insert, keys]
  | cons entry rest ih =>
    obtain ⟨k, v⟩ := entry
    simp only [insert]
    split
    · simp [keys]
    · split
      · next hk => subst hk; simp [keys]
      · simp only [keys, List.map_cons, List.mem_cons] at ih ⊢
        rw [ih]
        constructor <;> rintro (h | h | h) <;> simp [h]

theorem ordered_insert {key : String} {value : α} {entries : List (String × α)}
    (h : Ordered entries) : Ordered (insert key value entries) := by
  induction entries with
  | nil => simp [insert, Ordered, keys]
  | cons entry rest ih =>
    obtain ⟨k, v⟩ := entry
    simp only [Ordered, keys, List.map_cons, List.pairwise_cons] at h ih
    simp only [insert]
    split
    · next hlt =>
      simp only [Ordered, keys, List.map_cons, List.pairwise_cons, List.mem_cons]
      refine ⟨?_, h.1, h.2⟩
      rintro b (rfl | hb)
      · exact hlt
      · exact String.lt_trans hlt (h.1 b hb)
    · next hlt =>
      split
      · next hk => subst hk; exact List.pairwise_cons.2 h
      · next hk =>
        refine List.pairwise_cons.2 ⟨?_, ih h.2⟩
        intro b hb
        rcases mem_keys_insert.1 hb with rfl | hb
        · exact Decidable.byContradiction fun hn =>
            hk (String.le_antisymm (String.not_lt.1 hn) (String.not_lt.1 hlt))
        · exact h.1 b hb

theorem insert_last {key : String} {value : α} {entries : List (String × α)}
    (last : ∀ name ∈ keys entries, name < key) :
    insert key value entries = entries ++ [(key, value)] := by
  induction entries with
  | nil => rfl
  | cons entry rest ih =>
    obtain ⟨k, v⟩ := entry
    obtain ⟨before, last⟩ := List.forall_mem_cons.1 last
    have ne : key ≠ k := by
      rintro rfl
      exact String.lt_irrefl key before
    rw [insert, if_neg (String.lt_asymm before), if_neg ne, ih last, List.cons_append]

/-- Entries in order that are put in one after the other stand as they stood. -/
theorem foldl_insert_of_ordered {front entries : List (String × α)}
    (ordered : Ordered (front ++ entries)) :
    entries.foldl (fun sorted (name, value) => insert name value sorted) front =
      front ++ entries := by
  induction entries generalizing front with
  | nil => simp
  | cons entry rest ih =>
    obtain ⟨k, v⟩ := entry
    have last : ∀ name ∈ keys front, name < k := by
      intro name member
      rw [Ordered, keys, List.map_append, List.pairwise_append] at ordered
      exact ordered.2.2 name member k List.mem_cons_self
    rw [List.append_cons] at ordered
    simp only [List.foldl_cons]
    rw [insert_last last, ih ordered, List.append_assoc, List.singleton_append]

end Collage.Sorted
