/-!
The characters that a url may have between any two others. They do not belong to its text, and
nearly everywhere it reads as if they were not there.
-/

namespace Csdl.Url

/-- A character that is ignored wherever it stands in a url: a tab or a line end. -/
def isIgnored (c : Char) : Bool :=
  c = '\t' || c = '\n' || c = '\r'

/-- The characters of a text that are not ignored. -/
def withoutIgnored (cs : List Char) : List Char :=
  cs.filter fun c => !isIgnored c

/-- What follows the first `count` characters of a text that are not ignored. -/
def dropCounted (count : Nat) (cs : List Char) : List Char :=
  match count, cs with
  | 0, cs => cs
  | _ + 1, [] => []
  | count + 1, c :: rest =>
    if isIgnored c then dropCounted (count + 1) rest else dropCounted count rest

end Csdl.Url
