import Collage.Artifact

/-! # Workbenches

Artifacts are worked on in slots.  A slot is given a new artifact or a copy of another one, and
that is changed where it is: definitions are merged into it (`Artifact.absorb`), and sources are
parsed into it.
-/

namespace Collage

namespace Artifact

/-- Adds a definition of another artifact in place, unless it is the other's root or there is one of
its name. -/
def takeAlong (root : String) (entry : String × String) :
    ExceptT ArtifactError (StateM Artifact) Unit := do
  if entry.1 ≠ root ∧ (← get).definition? entry.1 = none then
    modify fun a => { a with definitions := Sorted.insert entry.1 entry.2 a.definitions }

/-- Takes a definition over from another artifact, in place, and with it the definitions that are
missing here.  One change follows the other, and what was changed before a failure stays changed. -/
def absorb (other : Artifact) (definition : String) :
    ExceptT ArtifactError (StateM Artifact) Unit := do
  match other.definition? definition with
  | none => throw (.missingDefinition definition other.name)
  | some source =>
    modify fun a => { a with definitions := Sorted.insert definition source a.definitions }
    other.definitions.forM (takeAlong other.name)
    modify fun a => { a with compiled := none }

end Artifact

/-- Artifacts in slots. -/
structure Workbench where
  slots : List (String × Artifact)

namespace Workbench

/-- One thing that is done at a workbench. -/
inductive Task where
  /-- A slot gets a new artifact. -/
  | create (slot name : String) (tools : Tools)
  /-- A slot gets a copy of the artifact in another one. -/
  | copy (slot origin : String)
  | merge (slot origin definition : String)
  | parse (escaping : Escaping) (slot text : String)
  | execute (slot : String) (data : Json)

/-- What a task comes to. -/
inductive Answer where
  | done
  | refused (e : ArtifactError)
  /-- The text that was written, and the error that stopped it. -/
  | written (text : String) (stopped : Option ArtifactError)
  /-- A slot that is needed has no artifact. -/
  | vacant
  deriving DecidableEq, Repr

def empty : Workbench := ⟨[]⟩

def get? (b : Workbench) (slot : String) : Option Artifact := b.slots.lookup slot

def put (b : Workbench) (slot : String) (a : Artifact) : Workbench :=
  ⟨Sorted.insert slot a b.slots⟩

def answer : Except ArtifactError Unit → Answer
  | .ok _ => .done
  | .error e => .refused e

/-- What a task comes to, and the workbench after it.  A parse works on a copy, which takes the slot
if it succeeds. -/
def perform (b : Workbench) : Task → Answer × Workbench
  | .create slot name tools => (.done, b.put slot (.new name tools))
  | .copy slot origin =>
    match b.get? origin with
    | some a => (.done, b.put slot a)
    | none => (.vacant, b)
  | .merge slot origin definition =>
    match b.get? slot, b.get? origin with
    | some a, some other =>
      let (outcome, a) := (Artifact.absorb other definition).run.run a
      (answer outcome, b.put slot a)
    | _, _ => (.vacant, b)
  | .parse escaping slot text =>
    match b.get? slot with
    | some a =>
      match a.parse escaping text with
      | .ok a => (.done, b.put slot a)
      | .error e => (.refused e, b)
    | none => (.vacant, b)
  | .execute slot data =>
    match b.get? slot with
    | some a => (.written (a.execute data).1 (a.execute data).2, b)
    | none => (.vacant, b)

/-- The workbench after tasks. -/
def run (b : Workbench) (tasks : List Task) : Workbench :=
  tasks.foldl (fun b task => (b.perform task).2) b

end Workbench

end Collage
