import Csdl.CommandLine.Report
import Csdl.Files.Pattern

/-!
The command line on the files that its arguments may tell.
-/

namespace Csdl.CommandLine

/-- Reads a file, or a directory with what is in it down to some depth. What cannot be read counts
as what is not there. -/
def loadEntry : Nat → IO.FS.DirEntry → IO (Option Files.Entry)
  | 0, _ => return none
  | depth + 1, found =>
    try
      if ← found.path.isDir then
        let entries ← (← found.path.readDir).toList.mapM fun inner => do
          return (← loadEntry depth inner).map fun entry => (inner.fileName, entry)
        return some (.directory (entries.filterMap id))
      else
        return some (.file (← IO.FS.readBinFile found.path).toList)
    catch _ =>
      return none

/-- The names that segments lead along from the root on. -/
def namesAlong (segments : List (List Char)) : List String :=
  (Files.Entry.empty.alongPath [] segments).2.reverse

/-- The segments at the start of a path that can only stand for themselves. -/
def plainSegments (path : String) : List (List Char) :=
  (path.toList.splitOn '/').takeWhile fun segment => !segment.any ['*', '?', '['].contains

/-- Reads what a path from the root on may tell into a tree. -/
def loadInto (depth : Nat) (root : Files.Entry) (path : String) : IO Files.Entry := do
  let names := namesAlong (plainSegments path)
  match ← loadEntry depth { root := "/", fileName := "/".intercalate names } with
  | some entry => return Files.Entry.modifyAt (fun _ => entry) root names
  | none => return root

/-- How deep a tree has to be read for some paths. No path is followed for more names than it may
have bytes. -/
def depthFor (paths : List String) : Nat :=
  let segments := paths.map fun path => path.toList.splitOn '/'
  if segments.any (·.contains ['*', '*']) then 4095
  else (segments.map List.length).foldl max 0

/-- The paths and patterns that a request is about. -/
def Request.paths : Request → List String
  | .inspect options _ => options.documents ++ options.settingsPath.toList
  | _ => []

/-- Reads all files that a request may be about. -/
def loadSystem (request : Option Request) : IO Files.System := do
  let working := (← IO.currentDir).toString
  let paths := (request.map Request.paths).getD []
  let absolute := paths.map fun path =>
    if path.startsWith "/" then path else working ++ "/" ++ path
  let root ← absolute.foldlM (loadInto (depthFor absolute)) .empty
  return { root, working := namesAlong (working.toList.splitOn '/') }

/-- Prints how a run ends. -/
def report (outcome : Outcome) : IO UInt32 := do
  IO.print outcome.output
  for entry in outcome.diagnostics do
    IO.eprintln entry
  return UInt32.ofNat outcome.exitCode

end Csdl.CommandLine

/-- Runs the command line. -/
def main (arguments : List String) : IO UInt32 := do
  let system ← Csdl.CommandLine.loadSystem (Csdl.CommandLine.Request.read? arguments)
  Csdl.CommandLine.report (Csdl.CommandLine.run Csdl.Files.Pattern.search system arguments)
