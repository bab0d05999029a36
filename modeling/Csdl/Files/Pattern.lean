import Csdl.Files.Path
import Csdl.Files.System
import Csdl.Text.Cut

/-!
Patterns of paths, and the search for what they stand for. Between slashes a star stands for any
text, a question mark for one character, and brackets for one of some characters or for none of
them. Two stars stand for directories at any depth.
-/

namespace Csdl.Files

/-- A piece of a pattern for names. Characters are told as closed ranges. -/
inductive Glyph where
  | one (c : Char)
  | anyOne
  | anyRun
  | oneOf (ranges : List (Char × Char))
  | noneOf (ranges : List (Char × Char))
  deriving DecidableEq, Repr

namespace Glyph

/-- The ranges that the inside of brackets tells. -/
def ranges : List Char → List (Char × Char)
  | first :: '-' :: last :: rest => (first, last) :: ranges rest
  | c :: rest => (c, c) :: ranges rest
  | [] => []

/-- Cuts the inside of brackets off. It is at least one character, which may be a bracket. -/
def cutBrackets? (cs : List Char) : Option (List Char × List Char) :=
  match cs with
  | [] => none
  | c :: cs => (Text.cutAtFirst? ']' cs).map fun (inside, rest) => (c :: inside, rest)

/-- Brackets leave less than there was, which lets a pattern with many of them be read. -/
theorem length_of_cutBrackets? {cs inside rest : List Char}
    (h : cutBrackets? cs = some (inside, rest)) : rest.length < cs.length := by
  cases cs with
  | nil => simp [cutBrackets?] at h
  | cons c cs =>
    obtain ⟨⟨before, behind⟩, hCut, hPair⟩ := Option.map_eq_some_iff.1 h
    have := Text.length_of_cutAtFirst? hCut
    obtain ⟨_, rfl⟩ := Prod.mk.inj hPair
    simp only [List.length_cons]
    omega

/-- The pattern that a text is. It may not have two stars together or brackets that are open. -/
def read? (cs : List Char) : Option (List Glyph) :=
  match cs with
  | [] => some []
  | '*' :: rest => if rest.head? = some '*' then none else (read? rest).map (anyRun :: ·)
  | '?' :: rest => (read? rest).map (anyOne :: ·)
  | '[' :: '!' :: rest =>
    match _hCut : cutBrackets? rest with
    | none => none
    | some (inside, rest) => (read? rest).map (noneOf (ranges inside) :: ·)
  | '[' :: rest =>
    match _hCut : cutBrackets? rest with
    | none => none
    | some (inside, rest) => (read? rest).map (oneOf (ranges inside) :: ·)
  | c :: rest => (read? rest).map (one c :: ·)
termination_by cs.length
decreasing_by
  · simp
  · simp
  · have := length_of_cutBrackets? _hCut
    simp only [List.length_cons]
    omega
  · have := length_of_cutBrackets? _hCut
    simp only [List.length_cons]
    omega
  · simp

/-- Whether a character lies in one of some ranges. -/
def inRanges (ranges : List (Char × Char)) (c : Char) : Bool :=
  ranges.any fun range => range.1 ≤ c && c ≤ range.2

/-- Whether a pattern stands for a name. -/
def fits (pattern : List Glyph) (name : List Char) : Bool :=
  match pattern, name with
  | [], name => name.isEmpty
  | anyRun :: pattern, [] => fits pattern []
  | anyRun :: pattern, c :: name => fits pattern (c :: name) || fits (anyRun :: pattern) name
  | _ :: _, [] => false
  | one d :: pattern, c :: name => c = d && fits pattern name
  | anyOne :: pattern, _ :: name => fits pattern name
  | oneOf ranges :: pattern, c :: name => inRanges ranges c && fits pattern name
  | noneOf ranges :: pattern, c :: name => !inRanges ranges c && fits pattern name
termination_by (pattern.length, name.length)

/-- The one name that a pattern stands for, if it has only plain characters. -/
def literal? : List Glyph → Option (List Char)
  | [] => some []
  | one c :: pattern => (literal? pattern).map (c :: ·)
  | _ :: _ => none

end Glyph

/-- A part of a pattern between slashes. -/
inductive PatternPart where
  | anyDepth
  | name (glyphs : List Glyph)
  deriving DecidableEq, Repr

/-- The part that a text between slashes is. -/
def PatternPart.read? (cs : List Char) : Option PatternPart :=
  if cs = ['*', '*'] then some .anyDepth else (Glyph.read? cs).map .name

/-- A pattern of paths. One that ends in a slash stands for directories only. -/
structure Pattern where
  absolute : Bool
  parts : List PatternPart
  directoryOnly : Bool
  deriving DecidableEq, Repr

namespace Pattern

/-- The texts between the slashes of a pattern, without an empty one at the end. -/
def segments (cs : List Char) : List (List Char) :=
  let all := cs.splitOn '/'
  if all.getLast? = some [] then all.dropLast else all

/-- The pattern that a text is, if each part of it is well formed. -/
def read? (cs : List Char) : Option Pattern := do
  let parts ← (segments (cs.dropWhile (· = '/'))).mapM PatternPart.read?
  return { absolute := cs.head? = some '/', parts, directoryOnly := cs.getLast? = some '/' }

/-- The special names of a directory that a pattern stands for, the parent first. The pattern has
to begin with a dot itself. -/
def specialNames (glyphs : List Glyph) : List (List Char) :=
  if glyphs.head? = some (.one '.') then [['.', '.'], ['.']].filter (Glyph.fits glyphs) else []

/-- What the parts of a pattern find from an entry with a path on. What is equal in the order of
paths is found in the order in which it is to be listed. Nothing is found behind a path that is too
long. -/
def find (system : System) (path : List Char) (entry : Entry) :
    List PatternPart → List (List Char × Entry)
  | [] => if isTooLong path then [] else [(path, entry)]
  | [.anyDepth] =>
    entry.inside.filterMap fun (names, inner) =>
      if inner.isFile then none
      else some (names.foldl (fun path name => joinShort path name.toList) path, inner)
  | .anyDepth :: .anyDepth :: rest => find system path entry (.anyDepth :: rest)
  | .anyDepth :: .name glyphs :: rest =>
    if isTooLong path then []
    else
      entry.inside.flatMap fun (names, inner) =>
        if Glyph.fits glyphs (names.getLast?.getD "").toList then
          find system (names.foldl (fun path name => joinShort path name.toList) path) inner rest
        else []
  | .name glyphs :: rest =>
    match Glyph.literal? glyphs with
    | some name =>
      let next := joinShort path name
      if (name = ['.'] || name = ['.', '.']) && entry.isFile then []
      else
        match system.at? next with
        | none => []
        | some inner => find system next inner rest
    | none =>
      if entry.isFile || isTooLong path then []
      else
        ((specialNames glyphs).flatMap fun name =>
          match system.at? (join path name) with
          | none => []
          | some inner => find system (join path name) inner rest) ++
        entry.entries.flatMap fun (name, inner) =>
          if Glyph.fits glyphs name.toList then
            find system (joinShort path name.toList) inner rest
          else []

/-- The path that a pattern is followed from. -/
def start (absolute : Bool) : List Char :=
  if absolute then ['/'] else ['.']

/-- The paths that a pattern stands for. The working directory itself is not among them. -/
def found (pattern : Pattern) (system : System) : List (List Char) :=
  if pattern.parts.isEmpty && !pattern.absolute then []
  else
    match system.at? (start pattern.absolute) with
    | none => []
    | some entry =>
      ((find system (start pattern.absolute) entry pattern.parts).filter fun place =>
        !(pattern.directoryOnly && place.2.isFile)).map (·.1)

/-- The search for what a text is a pattern of. -/
def search : Search :=
  fun system text => (read? text).map (found · system)

end Pattern

end Csdl.Files
