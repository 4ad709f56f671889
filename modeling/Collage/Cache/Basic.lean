import Collage.Node

/-! # Cache of compiled nodes

A node embeds a copy of everything it was built from, so when a node is given up every node built
on it has to go too.  The cache keeps the nodes, one to a name, and an edge from each node to each
node it was built from.

* `Cache.put?` takes a node only while the cached nodes of its dependencies' names are the very
  nodes it was built from; otherwise the node is out of date and is refused.
* `Cache.invalidate` gives up a name and everything that depends on it, in an order fixed by the
  age of the edges: what was linked to a node first goes first.
-/

namespace Collage

/-- A cached node `parent` was built from the cached node `child`. -/
structure Cache.Edge where
  parent : String
  child : String
  deriving DecidableEq, Repr

/-- Cached nodes and the edges between them. -/
structure Cache (α : Type) where
  nodes : List (Node α)
  /-- The edges, newest first. -/
  edges : List Cache.Edge

namespace Cache

variable {α : Type}

def empty : Cache α := ⟨[], []⟩

def get? (c : Cache α) (name : String) : Option (Node α) := c.nodes.find? (·.name == name)

def contains (c : Cache α) (name : String) : Bool := (c.get? name).isSome

def size (c : Cache α) : Nat := c.nodes.length

/-- A list of names in order and without repeats. -/
def sortNames (names : List String) : List String :=
  names.eraseDups.mergeSort fun a b => decide (a ≤ b)

def names (c : Cache α) : List String := sortNames (c.nodes.map (·.name))

/-- The names of the cached nodes that were built from `name`, in order. -/
def parents (c : Cache α) (name : String) : List String :=
  sortNames ((c.edges.filter (·.child == name)).map (·.parent))

/-- The names of the cached nodes that `name` was built from, in order. -/
def children (c : Cache α) (name : String) : List String :=
  sortNames ((c.edges.filter (·.parent == name)).map (·.child))

/-! ## Putting a node in -/

/-- Whether a node is up to date: each node it was built from is the one cached under its name. -/
def isCurrent (c : Cache α) (n : Node α) : Bool :=
  n.dependencies.all fun d => (c.get? d.name).any (·.same d)

/-- A node put in the place of the one of its name, or at the end. -/
def place (n : Node α) : List (Node α) → List (Node α)
  | [] => [n]
  | m :: rest => if m.name == n.name then n :: rest else m :: place n rest

/-- An edge added as the newest, unless it is there. -/
def link (edges : List Edge) (e : Edge) : List Edge := if e ∈ edges then edges else e :: edges

/-- The cache with a node added, or with the node of its name replaced by it; none when the node
is out of date.  Edges that lead to the name stay. -/
def put? (c : Cache α) (n : Node α) : Option (Cache α) :=
  if c.isCurrent n then
    some {
      nodes := place n c.nodes
      edges := (n.dependencyNames.map (Edge.mk n.name)).foldl link
        (c.edges.filter (·.parent != n.name)) }
  else none

/-! ## Giving names up -/

/-- The cache without a node and without the edges at it. -/
def drop (c : Cache α) (name : String) : Cache α where
  nodes := c.nodes.filter (·.name != name)
  edges := c.edges.filter fun e => e.parent != name && e.child != name

/-- The names built from `name`, the one linked to it first at the front. -/
def dependents (c : Cache α) (name : String) : List String :=
  ((c.edges.filter (·.child == name)).map (·.parent)).reverse

theorem length_drop {c : Cache α} {name : String} (h : c.contains name) :
    (c.drop name).nodes.length < c.nodes.length := by
  simp only [contains, get?, List.find?_isSome] at h
  obtain ⟨n, hn, he⟩ := h
  simp only [drop]
  rw [List.length_filter_lt_length_iff_exists]
  exact ⟨n, hn, by simpa using he⟩

/-- Gives up the names that are pending, each with everything built from it, before the next one.
Gives the names in the order they went. -/
def evict (c : Cache α) (pending : List String) : List String × Cache α :=
  match pending with
  | [] => ([], c)
  | name :: rest =>
    if _cached : c.contains name then
      let (gone, left) := evict (c.drop name) (c.dependents name ++ rest)
      (name :: gone, left)
    else evict c rest
termination_by (c.nodes.length, pending.length)
decreasing_by
  · exact Prod.Lex.left _ _ (length_drop _cached)
  · exact Prod.Lex.right _ (by simp)

/-- Gives up a name and, through any number of steps, everything built from it.  Gives the names
that went, in order. -/
def invalidate (c : Cache α) (name : String) : List String × Cache α := c.evict [name]

end Cache

end Collage
