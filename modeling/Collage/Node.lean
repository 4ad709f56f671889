/-! # Compiled nodes

A node is a template after composition: the name it was resolved under, what it was compiled to,
and the nodes it was built from.  Two nodes with equal contents are still two nodes: each is made
with a serial number of its own, and `Node.same` compares those.
-/

namespace Collage

/-- A compiled template with the nodes whose artifacts went into its own. -/
structure Node (α : Type) where
  serial : Nat
  name : String
  artifact : α
  /-- What the artifact was built from, in the order of the directives. -/
  dependencies : List (Node α)

namespace Node

variable {α : Type}

/-- Whether two nodes are one and the same node. -/
def same (a b : Node α) : Bool := a.serial == b.serial

def dependencyNames (n : Node α) : List String := n.dependencies.map (·.name)

/-- `Embeds n m`: `m` is `n` itself or went, directly or through others, into it. -/
inductive Embeds : Node α → Node α → Prop where
  | refl (n : Node α) : Embeds n n
  | step {n d m : Node α} : d ∈ n.dependencies → Embeds d m → Embeds n m

end Node

end Collage
