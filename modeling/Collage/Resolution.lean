import Collage.Directive.Scan
import Collage.Session

/-! # Resolving templates

`Session.resolve` gives the compiled node of a template: the one that is kept, or one that is put
together now.  That reads the template, resolves each template its directives refer to, in order,
and builds an artifact on theirs:

1. on a copy of the layout's artifact if there is a layout, otherwise on an empty one;
2. with each included definition merged in;
3. with the text itself, but for its layout directive, parsed into it.

While that is going on the template is in flight, and a reference back to it fails.

A template put together goes to the shelf at once, so that what was finished before a failure is
kept.  `room` bounds how many templates are put together inside of one another; each of them is in
flight, so the number of templates there are is room enough.
-/

namespace Collage

/-- Why a resolution ends without a node. -/
inductive Halt where
  | failed (e : ComposeError)
  /-- Templates are put together inside of one another more often than there was room for. -/
  | outOfRoom

/-- The end of a step of a resolution. -/
abbrev Outcome (α : Type) := Except Halt α

/-- What the directives of a text have come to so far. -/
structure Draft where
  layout : Option (Node Artifact)
  /-- The included references with their nodes, in order. -/
  inclusions : List (String × Node Artifact)
  /-- The nodes of all references, one to a name, in order. -/
  dependencies : List (Node Artifact)

namespace Draft

def empty : Draft := ⟨none, [], []⟩

/-- Nodes with one more, unless there is one of its name. -/
def addUnique (nodes : List (Node Artifact)) (node : Node Artifact) : List (Node Artifact) :=
  if nodes.any (·.name == node.name) then nodes else nodes ++ [node]

def withLayout (d : Draft) (node : Node Artifact) : Draft :=
  { d with layout := some node, dependencies := addUnique d.dependencies node }

def withInclusion (d : Draft) (reference : String) (node : Node Artifact) : Draft :=
  { d with
    inclusions := d.inclusions ++ [(reference, node)]
    dependencies := addUnique d.dependencies node }

def includes (d : Draft) (reference : String) : Bool := d.inclusions.any (·.1 == reference)

/-- The artifact that a template starts from. -/
def base (d : Draft) (name : String) (tools : Tools) : Artifact :=
  match d.layout with
  | some node => node.artifact
  | none => .new name tools

def mergeAll (a : Artifact) : List (String × Node Artifact) → Except ComposeError Artifact
  | [] => .ok a
  | (reference, node) :: rest =>
    match a.merge node.artifact reference with
    | .ok a => mergeAll a rest
    | .error cause => .error (.merge reference node.name cause)

/-- The artifact of a template with some text left after its layout directive was taken out. -/
def assemble (d : Draft) (kind : OutputKind) (tools : Tools) (name text : String) :
    Except ComposeError Artifact :=
  match mergeAll (d.base name tools) d.inclusions with
  | .error e => .error e
  | .ok a =>
    match a.parse kind.escaping text with
    | .ok a => .ok a
    | .error cause => .error (.parse name cause)

end Draft

namespace Session

/-- How a template is put together by its name. -/
abbrev Visit := String → Session → Outcome (Node Artifact) × Session

/-- The node that a directive of `parent` refers to: one resolved for the same parent before, one
that is kept and not being put together right now, or one put together by `visit`. -/
def dependency (kind : OutputKind) (visit : Visit) (parent : String) (sight : Directive.Sighting)
    (resolved : List (Node Artifact)) (s : Session) : Outcome (Node Artifact) × Session :=
  let name := sight.directive.name
  match resolved.find? (·.name == name) with
  | some node => (.ok node, s)
  | none =>
    match if s.flight.isActive name then none else (s.shelf kind).get? name with
    | some node => (.ok node, s)
    | none =>
      match visit name s with
      | (.error (.failed cause), s) =>
        (.error (.failed (.directive sight.kind sight.directive.reference parent cause)), s)
      | other => other

/-- Takes one directive of `parent` into its draft.  A second layout is refused, and a reference
that is included already changes nothing. -/
def meet (kind : OutputKind) (visit : Visit) (parent : String) (sight : Directive.Sighting)
    (draft : Draft) (s : Session) : Outcome Draft × Session :=
  match sight.kind with
  | .layout =>
    if draft.layout.isSome then (.error (.failed (.duplicateLayout parent)), s)
    else
      match dependency kind visit parent sight draft.dependencies s with
      | (.error halt, s) => (.error halt, s)
      | (.ok node, s) => (.ok (draft.withLayout node), s)
  | .inclusion =>
    if draft.includes sight.directive.reference then (.ok draft, s)
    else
      match dependency kind visit parent sight draft.dependencies s with
      | (.error halt, s) => (.error halt, s)
      | (.ok node, s) => (.ok (draft.withInclusion sight.directive.reference node), s)

/-- Resolves the directives at a place of a text and ahead of it.  The layout directive is taken out
of the text, and what follows it is read as if it had never been there.  Gives what the directives
came to and the text that is left. -/
def gather (kind : OutputKind) (visit : Visit) (parent : String) (before ahead : List Char)
    (draft : Draft) (s : Session) : Outcome (Draft × List Char) × Session :=
  match _found : Directive.next? before ahead with
  | none => (.ok (draft, before.reverse ++ ahead), s)
  | some sight =>
    match meet kind visit parent sight draft s with
    | (.error halt, s) => (.error halt, s)
    | (.ok draft, s) => gather kind visit parent sight.onward sight.rest draft s
termination_by ahead.length
decreasing_by exact Directive.length_next? _found

def asksTwice (text : String) : Bool :=
  1 < ((Directive.scan text).filter (·.kind = .layout)).length

/-- Puts a template together, with `visit` for those it refers to. -/
def build (kind : OutputKind) (visit : Visit) (name : String) (s : Session) :
    Outcome (Node Artifact) × Session :=
  match s.read name with
  | (.error e, s) => (.error (.failed (.io e)), s)
  | (.ok bytes, s) =>
    match Text.Utf8.decode bytes with
    | .error defect => (.error (.failed (.encoding name defect)), s)
    | .ok text =>
      if asksTwice text then (.error (.failed (.duplicateLayout name)), s)
      else
        match gather kind visit name [] text.toList .empty s with
        | (.error halt, s) => (.error halt, s)
        | (.ok (draft, rest), s) =>
          match draft.assemble kind s.tools name (String.ofList rest) with
          | .error e => (.error (.failed e), s)
          | .ok artifact =>
            let (node, s) := s.commit kind name artifact draft.dependencies
            (.ok node, s)

/-- Puts the template of a normal name together, whether it is kept or not. -/
def preprocess (kind : OutputKind) : Nat → Visit
  | 0, _, s => (.error .outOfRoom, s)
  | room + 1, name, s =>
    match s.flight.enter? name with
    | none => (.error (.failed (.recursive name)), s)
    | some flight =>
      let (outcome, t) := build kind (preprocess kind room) name { s with flight }
      (outcome, { t with flight := t.flight.leave name })

/-- Room for every template there is and may still be stored, for one that is missing, and for one
that refers back. -/
def room (s : Session) : Nat :=
  (s.disturbances.flatMap (·.changes)).foldl (fun room c => room + c.gain) (s.source.capacity + 2)

/-- The failure that a resolution ends with.  There is always room enough; a template that used it
up would refer to itself. -/
def failure (name : String) : Halt → ComposeError
  | .failed e => e
  | .outOfRoom => .recursive name

/-- Puts a template together in as much room as it can need. -/
def compose (s : Session) (kind : OutputKind) (name : String) :
    Except ComposeError (Node Artifact) × Session :=
  match preprocess kind s.room name s with
  | (.ok node, s) => (.ok node, s)
  | (.error halt, s) => (.error (failure name halt), s)

/-- The node of a template under any spelling of its name. -/
def resolve (s : Session) (kind : OutputKind) (name : String) :
    Except ComposeError (Node Artifact) × Session :=
  let name := Name.normalize name
  match (s.shelf kind).get? name with
  | some node => (.ok node, s)
  | none => { s with flight := .empty }.compose kind name

/-- The names of the templates that a template refers to. -/
def prepare (s : Session) (kind : OutputKind) (name : String) :
    Except ComposeError (List String) × Session :=
  match s.resolve kind name with
  | (.ok node, s) => (.ok node.dependencyNames, s)
  | (.error e, s) => (.error e, s)

/-- Executes a node: the text that was written, and the failure that stopped it. -/
def execute (node : Node Artifact) (data : Json) : String × Option ComposeError :=
  if node.artifact.isEmpty then ("", some (.execute node.name (.incomplete node.name)))
  else
    let (text, stopped) := node.artifact.execute data
    (text, stopped.map (.execute node.name))

/-- Renders a template: the text that was written, and the failure that stopped it. -/
def render (s : Session) (kind : OutputKind) (name : String) (data : Json) :
    (String × Option ComposeError) × Session :=
  match s.resolve kind name with
  | (.ok node, s) => (execute node data, s)
  | (.error e, s) => (("", some e), s)

end Session

end Collage
