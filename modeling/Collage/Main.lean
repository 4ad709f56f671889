import Collage.Program
import Collage.Template.Engine

/-! # The command line

Runs the program on the files of the machine.  A run tells which paths it looked for; those that
were not looked at before are read, and the program is run again, until there is nothing new.
-/

namespace Collage.Program

/-- A path and the paths of the directories on it. -/
def withPrefixes (path : String) : List String :=
  let names := path.toList.splitOn '/'
  (List.range names.length).map fun n => String.ofList (['/'].intercalate (names.take (n + 1)))

/-- The files with what a path leads to. -/
def look (files : Files) (path : String) : IO Files := do
  try
    let bytes ← IO.FS.readBinFile path
    return files.write path bytes
  catch
    | .inappropriateType _ 21 _ => return files.addDirectory path
    | _ => return files

/-- Runs the program on the files that it looks for. -/
partial def runOn (i : Invocation) (files : Files) (seen : List String) : IO Run := do
  let r := run .stock files.disk i
  match ((r.asked.flatMap withPrefixes).eraseDups.filter fun path => !seen.contains path) with
  | [] => return r
  | unseen => runOn i (← unseen.foldlM look files) (seen ++ unseen)

end Collage.Program

open Collage in
def main (words : List String) : IO UInt32 := do
  let environment ← IO.getEnv "TCOMPOSE_CONFIG"
  match (Invocation.read words).bind (·.withDefault environment) with
  | .error usage =>
    if usage.exit = 0 then IO.println usage.text else IO.eprintln ("error: " ++ usage.text)
    return usage.exit.toUInt32
  | .ok i =>
    let r ← Program.runOn i .empty []
    IO.print r.written
    match r.report? with
    | some report => IO.eprint report.shown
    | none => pure ()
    return r.exit.toUInt32
