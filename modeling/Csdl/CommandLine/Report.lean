import Csdl.CommandLine.Arguments
import Csdl.Text.Cut
import Csdl.Text.Quoted

/-!
What the command line prints and how it ends.
-/

namespace Csdl.CommandLine

/-- How a run ends: its exit code, what it prints, the entries of its log, and why it failed. -/
structure Outcome where
  exitCode : Nat
  output : String
  log : List String := []
  failure : Option String := none
  deriving DecidableEq, Repr

/-- The lines of a text. A carriage return before a line feed belongs to the line end, and so does
one at the very end, because a line feed is written behind every text. -/
def linesOf (text : String) : List String :=
  (text.toList.splitOnP (· = '\n')).map fun line =>
    String.ofList (if line.getLast? = some '\r' then line.dropLast else line)

/-- What opens the line of an error. -/
def errorHead : String := "Error: "

namespace Outcome

/-- What a run tells besides its output: the log, and then why it failed. -/
def diagnostics (outcome : Outcome) : List String :=
  outcome.log ++ (outcome.failure.map (errorHead ++ ·)).toList

/-- The rest of the first line that opens like an error. -/
def error (outcome : Outcome) : Option String :=
  (outcome.diagnostics.flatMap linesOf).findSome? fun line =>
    (Text.cutStart? errorHead.toList line.toList).map String.ofList

end Outcome

/-- The text that tells the version. -/
def versionText : String := "rust-odata 0.1.0\n"

/-- The text that tells how the command line is used. -/
def usageText : String :=
  "Usage: inspect --metadata <PATTERN>... --url <URL> [--config <FILE>] " ++
    "[--base-id <ID>] [--expand <ENTITY>=<NAV>[,<NAV>]]... [--verbose]\n"

/-- A word at the start of a column of six characters. -/
def column (word : String) : String :=
  word ++ String.ofList (List.replicate (6 - word.length) ' ')

/-- The line of a function. -/
def functionLine (function : ServiceFunction) : String :=
  "    " ++ column function.method.name ++ " " ++ function.context ++ "." ++ function.name

/-- The lines of a document. -/
def documentLines (path : String) (definition : Definition) : List String :=
  let location := definition.location
  let summary := definition.summary
  [ path,
    "  Endpoint: " ++ location.scheme ++ "://" ++ location.host ++ location.basePath,
    "  Version: " ++ definition.version,
    "  " ++ toString summary.enumerations ++ " enumerations, " ++
      toString summary.structures ++ " structures (" ++
      toString summary.entityTypes ++ " entity types), " ++
      toString summary.navigations ++ " navigation properties",
    "  " ++ toString summary.functions ++ " functions:" ] ++
    definition.functions.map functionLine

/-- What is printed of all documents. -/
def reportText (documents : List (String × Definition)) : String :=
  String.join <| documents.flatMap fun (path, definition) =>
    (documentLines path definition).map (· ++ "\n")

/-- A character as it stands in a log. A control that a terminal may obey is told by its code. -/
def logChar (c : Char) : List Char :=
  if [0x07, 0x08, 0x0C, 0x1B, 0x7F].contains c.toNat then
    ['\\', 'x', Nat.digitChar (c.toNat / 16), Nat.digitChar (c.toNat % 16)]
  else if 0x80 ≤ c.toNat && c.toNat ≤ 0x9F then Text.codeChar c
  else [c]

/-- The entry of an event in a log. -/
def logEntry (event : Event) : String :=
  String.ofList (event.line.toList.flatMap logChar)

section Run

variable (search : Files.Search) (system : Files.System)

/-- The entries of an inspection's log. Only warnings are told unless all is asked for. -/
def logEntries (options : InspectionOptions) (verbose : Bool) : List String :=
  let level : Level := if verbose then .debug else .warn
  let events := Inspection.events search system options ++
    Inspection.documentEvents search system options
  (events.filter (Event.shownAt level)).map logEntry

/-- Runs what the command line asks for. Nothing is printed if any document fails. -/
def execute : Request → Outcome
  | .version => { exitCode := 0, output := versionText }
  | .help => { exitCode := 0, output := usageText }
  | .inspect options verbose =>
    let log := logEntries search system options verbose
    match Inspection.run search system options with
    | .ok documents => { exitCode := 0, output := reportText documents, log }
    | .error failure =>
      { exitCode := 1, output := "", log, failure := some failure.message }

/-- Runs the command line. Wrong usage prints nothing. -/
def run (arguments : List String) : Outcome :=
  match Request.read? arguments with
  | some request => execute search system request
  | none => { exitCode := 2, output := "" }

end Run

end Csdl.CommandLine
