import Collage.Cache.Basic
import Collage.Text.Quoted

/-! # Keeping or not keeping nodes

A shelf is where compiled nodes go: either a cache, or nowhere.  A shelf without a cache finds
nothing, stores nothing and has nothing to give up.
-/

namespace Collage

/-- Whether compiled templates are kept between renders. -/
inductive CacheMode where
  | enabled
  | disabled
  deriving DecidableEq, Repr

namespace CacheMode

def text : CacheMode → String
  | enabled => "enabled"
  | disabled => "disabled"

def ofText? (text : String) : Option CacheMode :=
  if text = "enabled" then some enabled else if text = "disabled" then some disabled else none

end CacheMode

/-- The place compiled nodes are kept in. -/
inductive Shelf (α : Type) where
  | keeping (cache : Cache α)
  | discarding

namespace Shelf

variable {α : Type}

def ofMode : CacheMode → Shelf α
  | .enabled => keeping .empty
  | .disabled => discarding

/-- What is kept; nothing for a shelf that keeps nothing. -/
def cache : Shelf α → Cache α
  | keeping c => c
  | discarding => .empty

def get? (s : Shelf α) (name : String) : Option (Node α) := s.cache.get? name

/-- Offers a node; tells whether it was stored. -/
def put : Shelf α → Node α → Bool × Shelf α
  | keeping c, n =>
    match c.put? n with
    | some c' => (true, keeping c')
    | none => (false, keeping c)
  | discarding, _ => (false, discarding)

def invalidate : Shelf α → String → List String × Shelf α
  | keeping c, name => ((c.invalidate name).1, keeping (c.invalidate name).2)
  | discarding, _ => ([], discarding)

/-- What is kept, as diagnostics show it. -/
def display : Shelf α → String
  | keeping c => "DependencyCache \x7b names: " ++ Text.quotedList c.names ++ " \x7d"
  | discarding => "NopCache"

def clear : Shelf α → Shelf α
  | keeping _ => keeping .empty
  | discarding => discarding

end Shelf

end Collage
