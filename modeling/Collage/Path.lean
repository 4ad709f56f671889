import Collage.Name

/-! # File paths

Paths are texts with slashes.  `Path.push` extends a path by another one the way a file system
reads them: an absolute path replaces what stands before it.  `Path.under?` places a template name
below a root directory, and refuses the names that would leave it.
-/

namespace Collage.Path

def isAbsolute (path : String) : Bool := path.toList.head? = some '/'

def push (path more : String) : String :=
  if isAbsolute more then more
  else if path.toList.getLast?.all (· = '/') then path ++ more
  else path ++ "/" ++ more

/-- A path followed down through segments; none where one of them leads up again. -/
def descend? (path : String) : List String → Option String
  | [] => some path
  | segment :: rest => if segment = ".." then none else descend? (push path segment) rest

/-- The path a template name has below `root`; none for a name that leads out of it. -/
def under? (root name : String) : Option String := descend? root (Name.segments name)

/-- Whether what stands between two slashes says nothing. -/
def isIdle (segment : List Char) : Bool := segment = [] || segment = ['.']

/-- Segments without the ones at the end that say nothing. -/
def dropIdle (segments : List (List Char)) : List (List Char) :=
  (segments.reverse.dropWhile isIdle).reverse

/-- The beginning of a path that is no name: a slash, or a lone point; and the segments after it. -/
def split (path : String) : List Char × List (List Char) :=
  match path.toList.splitOn '/' with
  | [] :: segments@(_ :: _) => (['/'], segments)
  | ['.'] :: segments => (['.'], segments)
  | segments => ([], segments)

/-- The directory that the last name of a path stands in, spelled as the path spells it; none for a
path without a name. -/
def parent? (path : String) : Option String :=
  let (start, segments) := split path
  match dropIdle segments with
  | [] => if start = ['.'] then some "" else none
  | named =>
    let above := ['/'].intercalate (dropIdle named.dropLast)
    some (String.ofList
      (if start = ['.'] ∧ above ≠ [] then start ++ '/' :: above else start ++ above))

end Collage.Path
