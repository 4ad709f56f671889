import Collage.Cache.Basic
import Collage.Sorted

/-! # The cache as a graph with numbered slots

In memory the cached nodes are kept in slots, and the edges lead from slot to slot.  The slot of a
node that is given up stays behind empty and is filled again before a new one is made, the one that
was emptied last at first.  A table beside the graph tells the slot of each cached name.

The operations here are those of `Cache` done on slots: `Graph.put?` refuses a node that is out of
date and otherwise rewires the slot of its name, and `Graph.invalidate` walks against the edges.
-/

namespace Collage

/-- Cached nodes in slots, the edges between the slots, and the slot of each name. -/
structure Graph (α : Type) where
  slots : List (Option (Node α))
  /-- The empty slots, the one that was emptied last at the front. -/
  vacant : List Nat
  /-- The edges, each from a slot to that of a node it was built from, newest first. -/
  arcs : List (Nat × Nat)
  places : List (String × Nat)

namespace Graph

variable {α : Type}

def empty : Graph α := ⟨[], [], [], []⟩

def node? (g : Graph α) (slot : Nat) : Option (Node α) := g.slots[slot]?.join

def get? (g : Graph α) (name : String) : Option (Node α) := (g.places.lookup name).bind g.node?

/-- The names of the nodes in some slots, in order. -/
def namesOf (g : Graph α) (slots : List Nat) : List String :=
  Cache.sortNames ((slots.filterMap g.node?).map (·.name))

/-- The slots of the nodes that were built on the one in a slot, the one linked last first. -/
def sources (g : Graph α) (slot : Nat) : List Nat := (g.arcs.filter (·.2 = slot)).map (·.1)

/-- The slots of the nodes that the one in a slot was built from. -/
def targets (g : Graph α) (slot : Nat) : List Nat := (g.arcs.filter (·.1 = slot)).map (·.2)

/-- The names of the nodes at the slots that some function finds for the slot of a name. -/
def neighbors (g : Graph α) (find : Nat → List Nat) (name : String) : List String :=
  match g.places.lookup name with
  | none => []
  | some slot => g.namesOf (find slot)

def parents (g : Graph α) (name : String) : List String := g.neighbors g.sources name

def children (g : Graph α) (name : String) : List String := g.neighbors g.targets name

/-! ## Putting a node in -/

def isCurrent (g : Graph α) (n : Node α) : Bool :=
  n.dependencies.all fun d => (g.get? d.name).any (·.same d)

/-- A node put into an empty slot, or else into a new one. -/
def add (g : Graph α) (n : Node α) : Nat × Graph α :=
  match g.vacant with
  | slot :: rest => (slot, { g with slots := g.slots.set slot (some n), vacant := rest })
  | [] => (g.slots.length, { g with slots := g.slots ++ [some n] })

/-- The slot of a node's name with the node in it, and no edge that leads from it. -/
def seat (g : Graph α) (n : Node α) : Nat × Graph α :=
  match g.places.lookup n.name with
  | some slot =>
    -- The edges that lead to the slot stay, so what was built on the old node hangs on the new one.
    (slot, { g with
      slots := g.slots.set slot (some n)
      arcs := g.arcs.filter (·.1 ≠ slot) })
  | none =>
    let (slot, g) := g.add n
    (slot, { g with places := Sorted.insert n.name slot g.places })

/-- An edge added as the newest, unless it is there. -/
def join (arcs : List (Nat × Nat)) (arc : Nat × Nat) : List (Nat × Nat) :=
  if arc ∈ arcs then arcs else arc :: arcs

/-- The edges that lead from a node in a slot to what it was built from. -/
def links (g : Graph α) (slot : Nat) (n : Node α) : List (Nat × Nat) :=
  (n.dependencyNames.filterMap fun name => g.places.lookup name).map (slot, ·)

/-- The graph with a node put in and linked to what it was built from; none when the node is out of
date. -/
def put? (g : Graph α) (n : Node α) : Option (Graph α) :=
  if g.isCurrent n then
    let (slot, g) := g.seat n
    some { g with arcs := (g.links slot n).foldl join g.arcs }
  else none

/-! ## Giving names up -/

def size (g : Graph α) : Nat := g.slots.countP (·.isSome)

/-- The graph with a slot emptied, without the edges at it and without the name of its node. -/
def remove (g : Graph α) (slot : Nat) (name : String) : Graph α where
  slots := g.slots.set slot none
  vacant := slot :: g.vacant
  arcs := g.arcs.filter fun arc => arc.1 ≠ slot ∧ arc.2 ≠ slot
  places := g.places.filter (·.1 ≠ name)

theorem size_remove {g : Graph α} {slot : Nat} {n : Node α} (held : g.node? slot = some n)
    (name : String) : (g.remove slot name).size < g.size := by
  obtain ⟨inside, content⟩ := List.getElem?_eq_some_iff.1 (Option.join_eq_some_iff.1 held)
  have counted : 0 < g.slots.countP (·.isSome) :=
    List.countP_pos_iff.2 ⟨some n, List.mem_of_getElem content, rfl⟩
  simp only [size, remove, List.countP_set inside, content, Option.isSome_some, if_true,
    Option.isSome_none, Bool.false_eq_true, if_false]
  omega

/-- Empties the slots that are pending, each followed by those built on it, but none that was
visited before.  Gives the names that went, in order. -/
def walk (g : Graph α) (visited : List Nat) : List Nat → List String × Graph α
  | [] => ([], g)
  | slot :: rest =>
    if slot ∈ visited then g.walk visited rest
    else
      match _held : g.node? slot with
      | none => g.walk (slot :: visited) rest
      | some n =>
        -- Of what was built on the node, the one linked first goes first.
        let (gone, left) :=
          (g.remove slot n.name).walk (slot :: visited) ((g.sources slot).reverse ++ rest)
        (n.name :: gone, left)
termination_by pending => (g.size, pending.length)
decreasing_by
  · exact Prod.Lex.right _ (by simp)
  · exact Prod.Lex.right _ (by simp)
  · exact Prod.Lex.left _ _ (size_remove _held _)

/-- Gives up a name and, through any number of steps, everything built from it.  Gives the names
that went, in order. -/
def invalidate (g : Graph α) (name : String) : List String × Graph α :=
  match g.places.lookup name with
  | none => ([], g)
  | some slot => g.walk [] [slot]

end Graph

end Collage
