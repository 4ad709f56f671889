/-! # Templates in flight

While a template is being resolved its name is in flight; the names in flight form a path from the
template that was asked for down to the one being worked on.  A name cannot enter twice, which is
how a cycle is noticed.
-/

namespace Collage

/-- The names in flight, outermost first. -/
structure Flight where
  path : List String
  deriving DecidableEq, Repr

namespace Flight

def empty : Flight := ⟨[]⟩

def isActive (f : Flight) (name : String) : Bool := f.path.contains name

def depth (f : Flight) : Nat := f.path.length

def enter? (f : Flight) (name : String) : Option Flight :=
  if f.isActive name then none else some ⟨f.path ++ [name]⟩

/-- Takes a name out, the latest entry of it. -/
def leave (f : Flight) (name : String) : Flight := ⟨(f.path.reverse.erase name).reverse⟩

end Flight

end Collage
