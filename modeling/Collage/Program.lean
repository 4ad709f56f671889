import Collage.Invocation
import Collage.Report
import Collage.Resolution

/-! # The program

What the program does with the files of a disk and its tools: `render` writes a template out, and
`check` resolves templates and lists what they refer to, up to the first that fails.
-/

namespace Collage.Program

open Invocation (Command DataSource)

/-- A problem, and what the program was doing, outermost first. -/
structure Stop where
  doing : List String
  problem : Problem

/-- What a run has come to. -/
structure Run where
  written : String
  stop : Option Stop
  /-- The paths of the files it looked for. -/
  asked : List String

/-- The report on a run that was stopped. -/
def Run.report? (r : Run) : Option Report :=
  r.stop.map fun s => .ofProblem s.doing s.problem

def Run.exit (r : Run) : Nat := if r.stop.isSome then 1 else 0

/-! ## Preparations -/

/-- The settings that a configuration file sets, if there is one. -/
def configure (fs : FileSystem) : Option String → Except Stop Config
  | none => .ok .standard
  | some path =>
    match Config.load fs path with
    | .ok c => .ok c
    | .error e => .error ⟨["failed to load configuration from " ++ path], .config e⟩

def session (tools : Tools) (disk : Disk) (root : String) (cache : CacheMode) : Session :=
  .start (.folder disk root) tools cache []

/-- The path of the file that data comes from, if it comes from one. -/
def pathOf : DataSource → Option String
  | .file path => some path
  | .nothing | .inline _ => none

def dataFrom (fs : FileSystem) : DataSource → Except Stop Json
  | .nothing => .ok .null
  | .inline json =>
    match Json.read json with
    | .ok v => .ok v
    | .error fault => .error ⟨["--data-json is not valid JSON"], .json fault⟩
  | .file path =>
    match fs.readText path with
    | .error e => .error ⟨["failed to read render data from " ++ path], .io e⟩
    | .ok text =>
      match Json.read text with
      | .ok v => .ok v
      | .error fault => .error ⟨["render data in " ++ path ++ " is not valid JSON"], .json fault⟩

/-- The paths below a root that a session looked for. -/
def askedBy (root : String) (s : Session) : List String :=
  (s.readings.filterMap fun r => Path.under? root r.name).flatMap fun path =>
    [path, Path.push path Source.indexFile]

/-! ## Commands -/

def render (s : Session) (kind : OutputKind) (name : String) (data : Json) : Run × Session :=
  let ((written, stopped), s) := s.render kind name data
  (⟨written, stopped.map fun e => ⟨["failed to render `" ++ name ++ "`"], .compose e⟩, []⟩, s)

/-- The line on a template that can be resolved. -/
def entry (name : String) (dependencies : List String) : String :=
  "ok " ++ name ++ (if dependencies = [] then "" else " -> " ++ ", ".intercalate dependencies) ++
    "\n"

/-- Resolves templates in order, up to the first that fails. -/
def check (kind : OutputKind) : List String → Session → Run × Session
  | [], s => (⟨"", none, []⟩, s)
  | name :: names, s =>
    match s.prepare kind name with
    | (.error e, s) => (⟨"", some ⟨["failed to resolve `" ++ name ++ "`"], .compose e⟩, []⟩, s)
    | (.ok dependencies, s) =>
      let (rest, s) := check kind names s
      ({ rest with written := entry name dependencies ++ rest.written }, s)

def perform (tools : Tools) (disk : Disk) (c : Config) : Command → Run
  | .render name kind source root =>
    let path := (pathOf source).toList
    match dataFrom disk.toFileSystem source with
    | .error stop => ⟨"", some stop, path⟩
    | .ok data =>
      let root := root.getD c.root
      let (r, s) := render (session tools disk root c.cache) kind name data
      { r with asked := path ++ askedBy root s }
  | .check names kind root =>
    let root := root.getD c.root
    let (r, s) := check kind names (session tools disk root c.cache)
    { r with asked := askedBy root s }

def run (tools : Tools) (disk : Disk) (i : Invocation) : Run :=
  match configure disk.toFileSystem i.config with
  | .error stop => ⟨"", some stop, i.config.toList⟩
  | .ok c =>
    let r := perform tools disk c i.command
    { r with asked := i.config.toList ++ r.asked }

end Collage.Program
