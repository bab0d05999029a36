import Csdl.Url.Host
import Csdl.Url.Ignored

/-!
The paths of urls: segments between slashes. A segment of one dot is left out, and one of two dots
takes the segment before it away. A segment that begins with a drive letter stays.
-/

namespace Csdl.Url

/-- A letter and a colon, or a bar in place of the colon. -/
def isDriveLetter : List Char → Bool
  | [letter, mark] => letter.isAlpha && (mark = ':' || mark = '|')
  | _ => false

/-- Whether a segment is a drive letter or goes on after one with a backslash. -/
def beginsWithDrive (segment : List Char) : Bool :=
  isDriveLetter (segment.take 2) && (segment.drop 2).head?.all (· = '\\')

/-- A drive letter with a colon and what follows it, if both are parts of the written segment and
an ignored character stands between them. -/
def cutDrive? (written : List Char) : Option (List Char × List Char) :=
  match withoutIgnored written with
  | letter :: ':' :: rest =>
    if letter.isAlpha && !rest.isEmpty && (dropCounted 2 written).head?.any isIgnored then
      some ([letter, ':'], rest)
    else none
  | _ => none

/-- A dot, also in percent coding, at the start of a text. -/
def cutDot? : List Char → Option (List Char)
  | '.' :: rest => some rest
  | '%' :: '2' :: 'e' :: rest => some rest
  | '%' :: '2' :: 'E' :: rest => some rest
  | _ => none

/-- Whether a segment is one dot. -/
def isSingleDot (segment : List Char) : Bool :=
  cutDot? segment = some []

/-- Whether a segment is two dots. -/
def isDoubleDot (segment : List Char) : Bool :=
  ((cutDot? segment).bind cutDot?) = some []

/-- A character that is written in percent coding in a path. -/
def isUnsafeInPath (c : Char) : Bool :=
  isControlOrBeyond c || " \"<>`#?\x7b\x7d".toList.contains c

/-- A segment as it stands in a finished path. -/
def encodeSegment (written : List Char) : List Char :=
  percentEncode isUnsafeInPath (withoutIgnored written)

/-- A path under construction: the finished segments in reverse, and whether a drive letter took
the place of the host. -/
structure PathSoFar where
  done : List (List Char) := []
  hostDropped : Bool := false
  deriving DecidableEq, Repr

namespace PathSoFar

/-- Takes the last segment away, unless it begins with a drive letter. -/
def pop (path : PathSoFar) : PathSoFar :=
  match path.done with
  | [] => path
  | last :: rest => if beginsWithDrive last then path else { path with done := rest }

/-- Adds finished segments. -/
def push (path : PathSoFar) (segments : List (List Char)) : PathSoFar :=
  { path with done := segments.reverse ++ path.done }

/-- Adds an ordinary segment as it is written. A drive letter at the start of a file's path takes
the place of the host, and what an ignored character sets apart from one there becomes a segment of
its own. -/
def addPlain (kind : SchemeKind) (path : PathSoFar) (written : List Char) : PathSoFar :=
  let segment := encodeSegment written
  if kind = .file && path.done.isEmpty then
    if isDriveLetter segment then { done := [segment.take 1 ++ [':']], hostDropped := true }
    else
      match cutDrive? written with
      | some (drive, rest) => path.push [drive, encodeSegment rest]
      | none => path.push [segment]
  else path.push [segment]

/-- Adds a written segment that is followed by a slash. -/
def add (kind : SchemeKind) (path : PathSoFar) (written : List Char) : PathSoFar :=
  let segment := withoutIgnored written
  if isDoubleDot segment then path.pop
  else if isSingleDot segment then path
  else path.addPlain kind written

/-- Adds the last written segment. After dots the path ends in a slash. -/
def finish (kind : SchemeKind) (path : PathSoFar) (written : List Char) : PathSoFar :=
  let segment := withoutIgnored written
  if isDoubleDot segment then path.pop.push [[]]
  else if isSingleDot segment then path.push [[]]
  else path.addPlain kind written

/-- The text of a finished path. A file's path begins with exactly one slash. -/
def text (kind : SchemeKind) (path : PathSoFar) : List Char :=
  let joined := path.done.reverse.flatMap ('/' :: ·)
  if kind = .file then '/' :: joined.dropWhile (· = '/') else joined

end PathSoFar

/-- Whether a character separates segments. -/
def isSeparator (kind : SchemeKind) (c : Char) : Bool :=
  c = '/' || (c = '\\' && kind.isSpecial)

/-- The path that a list of written segments makes up. -/
def walkSegments (kind : SchemeKind) (path : PathSoFar) : List (List Char) → PathSoFar
  | [] => path
  | [last] => path.finish kind last
  | segment :: rest => walkSegments kind (path.add kind segment) rest

/-- The path that follows a host. It ends before a question mark or a hash sign. A special scheme
has at least a slash for its path. Ignored characters may stand behind the first character. -/
def pathOf (kind : SchemeKind) (cs : List Char) : PathSoFar :=
  let written := cs.takeWhile fun c => c ≠ '?' && c ≠ '#'
  match written with
  | [] => if kind.isSpecial then { done := [[]] } else {}
  | c :: rest =>
    let body := if isSeparator kind c then rest else written
    walkSegments kind {} (body.splitOnP (isSeparator kind))

end Csdl.Url
