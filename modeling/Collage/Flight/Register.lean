import Collage.Flight

/-! # Registers of templates in flight

A register keeps the names in flight twice: as a set, which tells whether a name is in flight, and
as a path, which shows them outermost first.  Each name enters both and leaves both, and names may
leave in any order.
-/

namespace Collage.Flight

/-- The names in flight, as a set and as a path. -/
structure Register where
  /-- The names that have entered and not left; their order means nothing. -/
  active : List String
  /-- The same names, outermost first. -/
  path : List String
  deriving DecidableEq, Repr

namespace Register

def empty : Register := ⟨[], []⟩

def isActive (r : Register) (name : String) : Bool := r.active.contains name

def depth (r : Register) : Nat := r.path.length

/-- Lets a name enter, and tells whether it could: a name that is in flight cannot. -/
def enter (r : Register) (name : String) : Bool × Register :=
  if r.isActive name then (false, r)
  else (true, ⟨name :: r.active, r.path ++ [name]⟩)

/-- Takes a name out; of the path its latest entry.  The path is only searched for a name that is in
the set. -/
def leave (r : Register) (name : String) : Register :=
  if r.isActive name then ⟨r.active.erase name, (r.path.reverse.erase name).reverse⟩ else r

/-- What a resolution knows of the names in flight. -/
def flight (r : Register) : Flight := ⟨r.path⟩

end Register

end Collage.Flight
