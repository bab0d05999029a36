import Csdl.Files.Path
import Csdl.Files.System
import Csdl.Metadata.Document

/-!
Inspecting many documents at once. The documents are told by paths and patterns, for which some
search finds files; either all of them define something, or the inspection fails and tells of one
that does not.
-/

namespace Csdl

/-- What is to be inspected, and how. -/
structure InspectionOptions where
  documents : List String
  serviceUrl : String
  settingsPath : Option String := none
  baseId : Option String := none
  expansions : List Expansion := []
  deriving DecidableEq, Repr

/-- Why an inspection fails. -/
inductive InspectionError where
  | settings (cause : Error)
  | invalidPattern (pattern : String)
  | noMatch (pattern : String)
  | document (path : String) (cause : Error)
  deriving DecidableEq, Repr

namespace InspectionError

/-- The wording of a failure. -/
def message : InspectionError → String
  | settings cause => cause.message
  | invalidPattern pattern => s!"Invalid metadata pattern: {pattern}"
  | noMatch pattern => s!"No metadata documents match {pattern}"
  | document path _ => s!"Failed to parse {path}"

/-- The error behind a failure, if there is one. -/
def cause? : InspectionError → Option Error
  | settings cause => some cause
  | invalidPattern _ => none
  | noMatch _ => none
  | document _ cause => some cause

end InspectionError

namespace Inspection

/-- Reads settings from a file, which is in UTF-8. -/
def loadSettings (system : Files.System) (path : String) : Except Error Settings :=
  match (system.bytesAt? path.toList).bind Text.Encoding.utf8.decode? with
  | none => .error (.unreadableSettings path)
  | some text => Settings.read (.malformedSettings path) text

/-- The settings of an inspection: those of the file, with a base id of the options in place of
its own, and with the expansions of the options behind its own. -/
def settings (system : Files.System) (options : InspectionOptions) :
    Except InspectionError Settings := do
  let loaded ← match options.settingsPath with
    | none => .ok {}
    | some path => (loadSettings system path).mapError InspectionError.settings
  return {
    baseId := options.baseId.or loaded.baseId
    expansions := loaded.expansions ++ options.expansions }

/-- What the document at a path defines. -/
def readFile (system : Files.System) (settings : Settings) (url path : String) :
    Logged Definition :=
  match system.bytesAt? path.toList with
  | none => .fail (.unreadableMetadata path)
  | some bytes => Metadata.readBytes settings url bytes

/-- What the document at a path defines, or why it defines nothing. -/
def parseFile (system : Files.System) (settings : Settings) (url path : String) :
    Except Error Definition :=
  (readFile system settings url path).result

/-- The path of a document and what it defines. -/
def inspectDocument (system : Files.System) (settings : Settings) (url path : String) :
    Except InspectionError (String × Definition) :=
  match parseFile system settings url path with
  | .ok definition => .ok (path, definition)
  | .error cause => .error (.document path cause)

section Search

variable (search : Files.Search) (system : Files.System)

/-- The paths that a text tells: itself if it leads anywhere, else the files that are found for it,
in order. -/
def expand (pattern : String) : Except InspectionError (List String) :=
  if (system.at? pattern.toList).isSome then .ok [pattern]
  else
    match search system pattern.toList with
    | none => .error (.invalidPattern pattern)
    | some found =>
      match (found.filter system.isFileAt).mergeSort Files.isPathLe with
      | [] => .error (.noMatch pattern)
      | paths => .ok (paths.map String.ofList)

/-- The paths that a list of texts tells, in its order. -/
def expandAll (patterns : List String) : Except InspectionError (List String) :=
  (patterns.mapM (expand search system)).map List.flatten

/-- The settings of an inspection and the paths of its documents. -/
def plan (options : InspectionOptions) : Except InspectionError (Settings × List String) := do
  let settings ← settings system options
  let paths ← expandAll search system options.documents
  return (settings, paths)

/-- The events before the first document is read. -/
def events (options : InspectionOptions) : List Event :=
  match plan search system options with
  | .ok (_, paths) => [.inspecting paths.length]
  | .error _ => []

/-- The events of reading all documents, one document after the other. -/
def documentEvents (options : InspectionOptions) : List Event :=
  match plan search system options with
  | .ok (settings, paths) =>
    paths.flatMap fun path => (readFile system settings options.serviceUrl path).log
  | .error _ => []

/-- What all documents define, in the order of their paths. -/
def run (options : InspectionOptions) : Except InspectionError (List (String × Definition)) := do
  let (settings, paths) ← plan search system options
  paths.mapM (inspectDocument system settings options.serviceUrl)

end Search

end Inspection

end Csdl
