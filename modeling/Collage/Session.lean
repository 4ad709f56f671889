import Collage.Cache.Shelf
import Collage.ComposeError
import Collage.Flight
import Collage.Source

/-! # Sessions

A session renders templates from one source with its tools.  It keeps what it compiled on two
shelves, one for text and one for HTML.  It also remembers what it asked its source for, and may be
disturbed: right after a reading the source or a shelf changes.
-/

namespace Collage

/-- What output is rendered as. -/
inductive OutputKind where
  /-- Values are written as they are. -/
  | text
  /-- Values are escaped. -/
  | html
  deriving DecidableEq, Repr

namespace OutputKind

def escaping : OutputKind → Escaping
  | text => .off
  | html => .html

def word : OutputKind → String
  | text => "text"
  | html => "html"

def ofWord? (w : String) : Option OutputKind :=
  if w = "text" then some text else if w = "html" then some html else none

end OutputKind

/-- What may change between two templates, or while one is being composed. -/
inductive Change where
  | store (name : String) (bytes : ByteArray)
  | erase (name : String)
  | become (source : Source)
  /-- A template is given up under any spelling of its name, with all that was built on it. -/
  | evict (kind : OutputKind) (name : String)
  /-- A name is given up as it is spelled, with all that was built on it. -/
  | invalidate (kind : OutputKind) (name : String)
  | clear (kind : OutputKind)

/-- The number of templates that a change may add to those there are. -/
def Change.gain : Change → Nat
  | .store .. => 1
  | .become source => source.capacity
  | .erase _ | .evict .. | .invalidate .. | .clear _ => 0

/-- A name that was asked for while others were in flight, outermost first. -/
structure Reading where
  name : String
  within : List String
  deriving DecidableEq, Repr

/-- Changes that happen once, right after the first reading at which they are due.  Whether they are
is judged by all that was read, the newest first. -/
structure Disturbance where
  due : List Reading → Bool
  changes : List Change

/-- The state of a session. -/
structure Session where
  source : Source
  tools : Tools
  text : Shelf Artifact
  html : Shelf Artifact
  flight : Flight
  made : Nat
  readings : List Reading
  /-- The disturbances still to come. -/
  disturbances : List Disturbance

namespace Session

def start (source : Source) (tools : Tools) (mode : CacheMode)
    (disturbances : List Disturbance) : Session :=
  ⟨source, tools, .ofMode mode, .ofMode mode, .empty, 0, [], disturbances⟩

def shelf (s : Session) : OutputKind → Shelf Artifact
  | .text => s.text
  | .html => s.html

def withShelf (s : Session) (kind : OutputKind) (shelf : Shelf Artifact) : Session :=
  match kind with
  | .text => { s with text := shelf }
  | .html => { s with html := shelf }

@[simp] theorem shelf_withShelf (s : Session) (kind other : OutputKind) (shelf : Shelf Artifact) :
    (s.withShelf kind shelf).shelf other = if other = kind then shelf else s.shelf other := by
  cases kind <;> cases other <;> rfl

/-- Gives up a name and all that was built on it.  Gives the names that went, in order. -/
def invalidate (s : Session) (kind : OutputKind) (name : String) : List String × Session :=
  (((s.shelf kind).invalidate name).1, s.withShelf kind ((s.shelf kind).invalidate name).2)

/-- Gives up a template under any spelling of its name; tells whether there was something. -/
def evict (s : Session) (kind : OutputKind) (name : String) : Bool × Session :=
  let (gone, s) := s.invalidate kind (Name.normalize name)
  (!gone.isEmpty, s)

def clear (s : Session) (kind : OutputKind) : Session := s.withShelf kind (s.shelf kind).clear

def apply (s : Session) : Change → Session
  | .store name bytes => { s with source := s.source.insert name bytes }
  | .erase name => { s with source := s.source.erase name }
  | .become source => { s with source }
  | .evict kind name => (s.evict kind name).2
  | .invalidate kind name => (s.invalidate kind name).2
  | .clear kind => s.clear kind

/-- Lets the disturbances happen that are due. -/
def disturb (s : Session) : Session :=
  let due := s.disturbances.filter (·.due s.readings)
  let later := s.disturbances.filter fun d => !d.due s.readings
  (due.flatMap (·.changes)).foldl apply { s with disturbances := later }

def read (s : Session) (name : String) : Except IoError ByteArray × Session :=
  let asked := { s with readings := ⟨name, s.flight.path⟩ :: s.readings }
  (s.source.read name, asked.disturb)

/-- Makes a node and offers it to the shelf of its output kind. -/
def commit (s : Session) (kind : OutputKind) (name : String) (artifact : Artifact)
    (dependencies : List (Node Artifact)) : Node Artifact × Session :=
  let node : Node Artifact := ⟨s.made, name, artifact, dependencies⟩
  (node, { s.withShelf kind ((s.shelf kind).put node).2 with made := s.made + 1 })

/-- What the session holds, as diagnostics show it. -/
def display (s : Session) : String :=
  "Runtime \x7b library: " ++ s.tools.library.display ++ ", text_cached: " ++
    toString s.text.cache.size ++ ", html_cached: " ++ toString s.html.cache.size ++ ", .. \x7d"

end Session

end Collage
