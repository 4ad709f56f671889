import Collage.Disk
import Collage.Sorted

/-! # Where templates come from

A source is a store of texts kept under normal names, the files below a root directory, or a reader
of another kind.  Below a root, a name that means a directory reads the index file of that
directory, and a name that would leave the root is refused.
-/

namespace Collage

/-- What gives templates by their names.  There are finitely many normal names under which it gives
one. -/
structure Reader where
  read : String → Except IoError ByteArray
  names : List String
  mem_names : ∀ {name : String} {bytes : ByteArray}, Name.normalize name = name →
    read name = .ok bytes → name ∈ names

/-- A place that templates are read from. -/
inductive Source where
  /-- Templates by their normal names. -/
  | store (templates : List (String × ByteArray))
  /-- The files below a root directory. -/
  | folder (disk : Disk) (root : String)
  | reader (reader : Reader)

namespace Source

/-- The file that is read for a directory. -/
def indexFile : String := "index.html"

/-- Why a name is refused that leads out of the root. -/
def escapes (root name : String) : IoError :=
  ⟨.permissionDenied, "template name `" ++ name ++ "` escapes " ++ root⟩

/-- A template that is not in the store. -/
def notStored (name : String) : IoError := ⟨.notFound, "template `" ++ name ++ "` not found"⟩

/-- The path of the file that is read for a name below a root. -/
def pathFor (fs : FileSystem) (root name : String) : Except IoError String :=
  match Path.under? root name with
  | none => .error (escapes root name)
  | some path =>
    if name.toList.getLast? = some '/' || fs.isDirectory path then
      .ok (Path.push path indexFile)
    else .ok path

/-- What is read for a name below a root. -/
def readBelow (fs : FileSystem) (root name : String) : Except IoError ByteArray := do
  fs.read (← pathFor fs root name)

def read : Source → String → Except IoError ByteArray
  | store templates, name =>
    match templates.lookup (Name.normalize name) with
    | some bytes => .ok bytes
    | none => .error (notStored name)
  | folder disk root, name => readBelow disk.toFileSystem root name
  | reader r, name => r.read name

/-- Whether the store has a template; other sources are not asked. -/
def contains? : Source → String → Option Bool
  | store templates, name => some (templates.lookup (Name.normalize name)).isSome
  | folder .., _ | reader _, _ => none

/-- The store with a template added or replaced; other sources are left as they are. -/
def insert : Source → String → ByteArray → Source
  | store templates, name, bytes => store (Sorted.insert (Name.normalize name) bytes templates)
  | folder disk root, _, _ => folder disk root
  | reader r, _, _ => reader r

/-- The store without a template; other sources are left as they are. -/
def erase : Source → String → Source
  | store templates, name => store (templates.filter (·.1 ≠ Name.normalize name))
  | folder disk root, _ => folder disk root
  | reader r, _ => reader r

/-- The number of templates there can be: a file is read under its own name, or under the name of
its directory. -/
def capacity : Source → Nat
  | store templates => templates.length
  | folder disk _ => 2 * disk.places.length
  | reader r => r.names.length

end Source

end Collage
