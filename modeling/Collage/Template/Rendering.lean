import Collage.Template.Evaluation
import Collage.Template.Suite
import Collage.Text.Cluster

/-! # Rendering

`Suite.render` writes out a template of a suite.  What was written before a fault stays written.

A template that extends another one is rendered as the template at the end of that line, with each
block taken from the first template of the line that declares it.  A block that asks what the next
declaration says takes it from further on in the line.  `deeper` renders the pieces of another
place, an embedded template or a block declared elsewhere; `depthLimit` bounds how often.
-/

namespace Collage.Template

mutual

/-- The block of a name among some pieces and in their blocks. -/
def blockAmong? (name : String) : List Piece → Option (List Piece)
  | [] => none
  | p :: rest =>
    match blockIn? name p with
    | some body => some body
    | none => blockAmong? name rest

/-- The block of a name that a piece is or holds. -/
def blockIn? (name : String) : Piece → Option (List Piece)
  | .block n body => if n = name then some body else blockAmong? name body
  | _ => none

end

/-- The first declaration of a block in a line of templates, and how many templates come before
it; the first `skipped` templates are passed over. -/
def declaration? (name : String) (line : List Definition) (skipped : Nat) :
    Option (List Piece × Nat) :=
  ((line.zipIdx).drop skipped).findSome? fun (t, n) =>
    (blockAmong? name t.body).map (·, n)

/-- How to go on after a piece. -/
inductive Flow where
  | next
  | advance
  | leave
  deriving DecidableEq, Repr

/-- What rendering has come to. -/
structure Progress where
  written : String
  scope : Scope
  /-- The declared blocks at work, the one entered last in front: their names, and how many
  templates come before the one whose declaration is rendered. -/
  blocks : List (String × Nat)

/-- A step of rendering: what was written stays when a fault stops it. -/
abbrev Render (α : Type) := ExceptT Fault (StateM Progress) α

namespace Render

def write (text : String) : Render Unit :=
  modify fun p => { p with written := p.written ++ text }

/-- Does a step and gives what it wrote in place of writing it. -/
def captured {α : Type} (step : Render α) : Render (α × String) := fun p =>
  match step { p with written := "" } with
  | (.ok a, q) => (.ok (a, q.written), { q with written := p.written })
  | (.error fault, q) => (.error fault, { q with written := p.written })

/-- Works something out in the scope. -/
def inScope {α : Type} (l : Library) (f : Setting → Except Fault α) : Render α := do
  match f ⟨l, (← get).scope⟩ with
  | .ok a => pure a
  | .error fault => throw fault

def changeScope (f : Scope → Scope) : Render Unit := modify fun p => { p with scope := f p.scope }

/-- The first of two answers that says how to leave the way, in a sequence of pieces. -/
def andThen (first rest : Render Flow) : Render Flow := do
  match ← first with
  | .next => rest
  | flow => pure flow

end Render

open Render

/-- What a loop goes through, by its name in diagnostics. -/
def containerName (t : Term) : Except Fault String :=
  match t with
  | .ident path => .ok path
  | .call c => .ok c.name
  | .array _ => .ok "an array literal"
  | t => .error (.notIterable t)

/-- The entries of a value that is gone through character by character.  There are as many as it has
code points; those that are left when the characters as readers see them are used up are empty. -/
def charactersOf (s : String) : List String :=
  let clusters := Text.clusters s
  clusters ++ List.replicate (s.length - clusters.length) ""

/-- The entries of a value that is gone through, with or without keys. -/
def entriesOf (container : String) (keyed : Bool) (value : Json) :
    Except Fault (List (String × Json)) :=
  match value, keyed with
  | .array items, false => .ok (items.map ("", ·))
  | .string s, false => .ok ((charactersOf s).map fun c => ("", .string c))
  | .object fields, true => .ok fields
  | .array _, true | .string _, true => .error (.noKeys container)
  | .object _, false => .error (.keyWanted container)
  | _, _ => .error (.badContainer container)

/-- Goes through the entries of a loop. -/
def rounds (key : Option String) (value active : String) (body : Render Flow) (index : Nat) :
    List (String × Json) → Render Unit
  | [] => pure ()
  | entry :: rest => do
    let l : Loop := ⟨key, value, entry, index, rest.isEmpty⟩
    changeScope (·.push ⟨.loop l, active, []⟩)
    let flow ← body
    changeScope (·.pop)
    match flow with
    | .leave => pure ()
    | _ => rounds key value active body (index + 1) rest

section

variable (s : Suite) (deeper : List Piece → Render Flow)

/-- Goes on with the loop at work in some way, if there is one. -/
def jump (word : String) (flow : Flow) : Render Flow := do
  if (← get).scope.isInLoop then pure flow else throw (.noLoop word)

def isEscaping : Bool := s.escaping = .html

mutual

def renderPieces : List Piece → Render Flow
  | [] => pure .next
  | p :: rest => andThen (renderPiece p) (renderPieces rest)

def renderPiece : Piece → Render Flow
  | .text text => do
    write text
    pure .next
  | .output e => do
    write (rendered (← inScope s.library (e.value · (isEscaping s))))
    pure .next
  | .assign name everywhere e => do
    let value ← inScope s.library (e.value · false)
    changeScope fun scope => if everywhere then scope.setGlobal name value else scope.set name value
    pure .next
  | .filtered filter body => do
    let (flow, text) ← captured (renderPieces body)
    if filter.name = "safe" then write text
    else
      let raw ← inScope s.library (filter.applied · (.string text))
      write (rendered raw.value)
    pure flow
  | .choose branches otherwise => renderBranches branches (renderPieces otherwise)
  | .each key value container body whenEmpty => do
    let name ← inScope s.library fun _ => containerName container.term
    let entries ← inScope s.library fun setting => do
      entriesOf name key.isSome (← container.value setting false)
    if entries.isEmpty then renderPieces whenEmpty
    else
      rounds key value (← get).scope.active (renderPieces body) 0 entries
      pure .next
  | .leave => jump "break" .leave
  | .advance => jump "continue" .advance
  | .block name body => do
    match declaration? name (s.lineOf (← get).scope.active) 0 with
    | some (body, n) =>
      modify fun p => { p with blocks := (name, n) :: p.blocks }
      deeper body
    | none => renderPieces body
  | .inherited => do
    let line := s.lineOf (← get).scope.origin
    let next? := (← get).blocks.head?.bind fun (name, n) =>
      (declaration? name line (n + 1)).map (name, ·)
    match next? with
    | some (name, body, n) =>
      modify fun p => { p with blocks := (name, n) :: p.blocks }
      let flow ← deeper body
      modify fun p => { p with blocks := p.blocks.drop (if line.length ≤ n + 1 then 2 else 1) }
      pure flow
    | none => throw .noNextDeclaration
  | .embed names mayBeMissing => do
    match names.findSome? fun name => s.templates.lookup name with
    | some t =>
      if let some parent := t.parent then throw (.extendsInside parent)
      changeScope (·.push ⟨.embedded, t.name, []⟩)
      let _ ← deeper t.body
      changeScope (·.pop)
      pure .next
    | none => if mayBeMissing then pure .next else throw (.noTemplate names)

/-- Renders the first branch whose condition holds. -/
def renderBranches (branches : List (Expr × List Piece)) (otherwise : Render Flow) : Render Flow :=
  match branches with
  | [] => otherwise
  | (condition, body) :: rest => do
    if ← inScope s.library (condition.holds · (isEscaping s)) then renderPieces body
    else renderBranches rest otherwise

end

end

/-- How deep templates may be embedded in one another. -/
def depthLimit : Nat := 1000

/-- Renders pieces in which others are nested at most `depth` deep. -/
def renderWithin (s : Suite) : Nat → List Piece → Render Flow
  | 0, _ => throw .tooDeep
  | depth + 1, pieces => renderPieces s (renderWithin s depth) pieces

namespace Suite

/-- The templates of a line that declare a block, if the first of the line does. -/
def declarers (line : List Definition) (block : String) : List String :=
  match line with
  | t :: rest =>
    if (blockAmong? block t.body).isSome then
      t.name :: (rest.filter fun t => (blockAmong? block t.body).isSome).map (·.name)
    else []
  | [] => []

/-- Where a fault happened, as far as it was not in the template itself. -/
def note (s : Suite) (name : String) (blocks : List (String × Nat)) : String :=
  let line := s.lineOf name
  let inOther (other : String) :=
    if other = name then "" else " (error happened in '" ++ other ++ "')."
  match blocks with
  | (block, n) :: _ =>
    match (declarers line block)[n]? with
    | some owner => inOther owner
    | none => " (error happened in a parent template)"
  | [] => inOther ((line.getLast?.map (·.name)).getD name)

/-- Writes out a template with some data: the text, and the fault that stopped it. -/
def render (s : Suite) (name : String) (data : List (String × Json)) : String × Option Fault :=
  let body :=
    match (s.lineOf name).getLast? with
    | some t => t.body
    | none => []
  let start : Progress := ⟨"", ⟨[⟨.origin, name, []⟩], data⟩, []⟩
  match renderWithin s depthLimit body start with
  | (.ok _, p) => (p.written, none)
  | (.error cause, p) => (p.written, some (.rendering name (s.note name p.blocks) cause))

end Suite

end Collage.Template
