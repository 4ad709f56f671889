import Collage.FileSystem
import Collage.Path

/-! # Files

The files that a program knows, as seen from the directory it runs in.  A place is the list of names
that leads to it: from there, from above it when it begins with `..`, or from the top of the file
system when it begins with `/`.

A path is followed name by name: each name but the last has to be a directory's, a lone point stays
where it is and two points lead up.  Names and paths have a greatest length.
-/

namespace Collage

structure Files where
  directories : List (List String)
  files : List (List String × ByteArray)

namespace Files

def empty : Files := ⟨[], []⟩

/-- Whether a place is the directory of the program, one above it, or the top: these are always
there. -/
def isAlwaysThere (place : List String) : Bool := place.all (· = "..") || place = ["/"]

def isDirectory (f : Files) (place : List String) : Bool :=
  isAlwaysThere place || f.directories.contains place

def bytes? (f : Files) (place : List String) : Option ByteArray := f.files.lookup place

/-- The place that paths of a kind start from. -/
def origin (path : String) : List String := if Path.isAbsolute path then ["/"] else []

def steps (path : String) : List String := (path.toList.splitOn '/').map String.ofList

/-- The place that one step leads to, whatever is there. -/
def step (place : List String) (name : String) : List String :=
  if name = "" ∨ name = "." then place
  else if name ≠ ".." then place ++ [name]
  else if place = ["/"] then place
  else if place.all (· = "..") then place ++ [".."]
  else place.dropLast

def nameLimit : Nat := 255

def pathLimit : Nat := 4095

/-- The place that steps lead to, if there is a directory or file. -/
def follow (f : Files) (place : List String) : List String → Except IoError (List String)
  | [] => .ok place
  | name :: rest =>
    if f.isDirectory place then
      if nameLimit < name.utf8ByteSize then .error .nameTooLong
      else
        let next := step place name
        if f.isDirectory next || (f.bytes? next).isSome then follow f next rest
        else .error .noSuchFile
    else .error .notDirectory

def find (f : Files) (path : String) : Except IoError (List String) :=
  if path.toList.contains '\x00' then .error .nulInPath
  else if path = "" then .error .noSuchFile
  else if pathLimit < path.utf8ByteSize then .error .nameTooLong
  else f.follow (origin path) (steps path)

def leadsToDirectory (f : Files) (path : String) : Bool :=
  match f.find path with
  | .ok place => f.isDirectory place
  | .error _ => false

def read (f : Files) (path : String) : Except IoError ByteArray := do
  let place ← f.find path
  match f.bytes? place with
  | some bytes => .ok bytes
  | none => .error .directory

/-- The files as a file system, on which everything may be read. -/
def system (f : Files) : FileSystem := ⟨f.leadsToDirectory, f.read⟩

/-! ## Changes -/

/-- The place a path leads to if everything on it is there. -/
def placeOf (path : String) : List String := (steps path).foldl step (origin path)

/-- The places that steps pass before they come to their end. -/
def passed (place : List String) : List String → List (List String)
  | [] => []
  | name :: rest => place :: passed (step place name) rest

def above (path : String) : List (List String) := passed (origin path) (steps path)

def addPlace (f : Files) (place : List String) : Files :=
  if f.isDirectory place then f else { f with directories := f.directories ++ [place] }

def addDirectory (f : Files) (path : String) : Files :=
  (above path ++ [placeOf path]).foldl addPlace f

/-- Whether a path has a length that files can have. -/
def isWritable (path : String) : Bool :=
  path.utf8ByteSize ≤ pathLimit && (steps path).all (·.utf8ByteSize ≤ nameLimit)

/-- Writes a file, with the directories on its path.  Nothing is written where a directory is, below
a file, or under a name that is too long. -/
def write (f : Files) (path : String) (bytes : ByteArray) : Files :=
  let place := placeOf path
  if !isWritable path || f.isDirectory place || (above path).any fun p => (f.bytes? p).isSome then f
  else
    let f := (above path).foldl addPlace f
    { f with files := (place, bytes) :: f.files.filter (·.1 ≠ place) }

/-- Takes a file away; tells whether there was one. -/
def remove (f : Files) (path : String) : Bool × Files :=
  match f.find path with
  | .ok place =>
    if (f.bytes? place).isSome then
      (true, { f with files := f.files.filter (·.1 ≠ place) })
    else (false, f)
  | .error _ => (false, f)

end Files

end Collage
