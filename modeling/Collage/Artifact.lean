import Collage.Engine
import Collage.Lowering
import Collage.Text.Blank

/-! # Compiled artifacts

An artifact is a set of definitions by name, one of which is the root that execution starts from.
Definitions of other artifacts are merged into it, then its own source is parsed into it, which
compiles all of its definitions together.  A change of the definitions undoes the compilation.
-/

namespace Collage

/-- Why an artifact cannot be built or executed. -/
inductive ArtifactError where
  | missingDefinition (definition template : String)
  | parse (message : String)
  /-- Execution was stopped. -/
  | render (message : String)
  /-- The data is not an object but something else. -/
  | invalidData (found : String)
  /-- There is nothing to execute. -/
  | incomplete (template : String)
  deriving DecidableEq, Repr

def ArtifactError.text : ArtifactError → String
  | missingDefinition definition template =>
    "definition `" ++ definition ++ "` is not declared in `" ++ template ++ "`"
  | parse message => message
  | render message => message
  | invalidData found => "render data must be a JSON object, got " ++ found
  | incomplete template => "`" ++ template ++ "` is an incomplete or empty template"

/-- Definitions by their names, and what they were last compiled to. -/
structure Artifact where
  name : String
  /-- The lowered source of each definition, in the order of the names. -/
  definitions : List (String × String)
  tools : Tools
  compiled : Option Compiled

namespace Artifact

def new (name : String) (tools : Tools) : Artifact := ⟨name, [], tools, none⟩

/-- The source of a definition. -/
def definition? (a : Artifact) (name : String) : Option String := a.definitions.lookup name

def isCompiled (a : Artifact) : Bool := a.compiled.isSome

/-- Whether the root definition holds nothing to write. -/
def isEmpty (a : Artifact) : Bool := (a.definition? a.name).all Lowering.isBlank

/-! ## Merging -/

/-- Adds a definition that travels along: one that the artifact has keeps its source. -/
def addCompanion (definitions : List (String × String)) (entry : String × String) :
    List (String × String) :=
  if (definitions.lookup entry.1).isSome then definitions
  else Sorted.insert entry.1 entry.2 definitions

/-- Takes a definition over from another artifact, and with it the definitions that are missing
here; the other's root only travels when it is the definition asked for. -/
def merge (a other : Artifact) (definition : String) : Except ArtifactError Artifact :=
  match other.definition? definition with
  | none => .error (.missingDefinition definition other.name)
  | some source =>
    let companions := other.definitions.filter (·.1 ≠ other.name)
    .ok { a with
      definitions := companions.foldl addCompanion
        (Sorted.insert definition source a.definitions)
      compiled := none }

/-! ## Parsing and executing -/

/-- The definitions with those of a source put in.  The text outside of define blocks becomes the
root, unless it is blank and there is a root. -/
def define (a : Artifact) (text : String) : List (String × String) :=
  let (body, blocks) := Lowering.lower text
  let definitions :=
    blocks.foldl (fun ds (name, source) => Sorted.insert name source ds) a.definitions
  if Lowering.isBlank body && (definitions.lookup a.name).isSome then definitions
  else Sorted.insert a.name body definitions

/-- An error and its causes in one line. -/
def describe (causes : List String) : String :=
  let add (said : List String) (text : String) :=
    let text := String.ofList (Text.trim text.toList)
    if text = "" ∨ said.getLast? = some text then said else said ++ [text]
  match causes with
  | [] => ""
  | first :: causes => ": ".intercalate (causes.foldl add [first])

/-- Parses a source into the artifact and compiles its definitions. -/
def parse (a : Artifact) (escaping : Escaping) (text : String) : Except ArtifactError Artifact :=
  let definitions := a.define text
  match a.tools.engine.compile escaping a.tools.library definitions with
  | .error causes => .error (.parse (describe causes))
  | .ok compiled => .ok { a with definitions, compiled := some compiled }

def fieldsOf : Json → Except ArtifactError (List (String × Json))
  | .null => .ok []
  | .object fields => .ok fields
  | other => .error (.invalidData other.kind)

/-- Executes the root definition: the text that was written, and the error that stopped it. -/
def execute (a : Artifact) (data : Json) : String × Option ArtifactError :=
  match a.compiled with
  | none => ("", some (.incomplete a.name))
  | some compiled =>
    match fieldsOf data with
    | .error e => ("", some e)
    | .ok fields =>
      let (text, stopped) := compiled.render a.name fields
      (text, stopped.map fun causes => .render (describe causes))

/-- What the artifact holds, as diagnostics show it. -/
def display (a : Artifact) : String :=
  "TeraTemplate \x7b name: " ++ Text.quoted a.name ++ ", definitions: " ++
    Text.quotedList (Sorted.keys a.definitions) ++ ", compiled: " ++ toString a.isCompiled ++
    " \x7d"

end Artifact

end Collage
