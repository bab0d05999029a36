/-!
The texts of paths, and the order in which they are listed: part by part, and not character by
character.
-/

namespace Csdl.Files

/-- A part of a path that its order looks at. -/
inductive PathPart where
  | root
  | current
  | parent
  | name (text : String)
  deriving DecidableEq, Repr

namespace PathPart

/-- The kinds of parts in their order. -/
def rank : PathPart → Nat
  | root => 0
  | current => 1
  | parent => 2
  | name _ => 3

/-- Whether a part comes before another or is equal to it. -/
def isLe : PathPart → PathPart → Bool
  | name a, name b => a ≤ b
  | a, b => a.rank ≤ b.rank

end PathPart

/-- The part that a segment between slashes stands for. Empty segments and single dots stand for
nothing. -/
def partOf? (segment : List Char) : Option PathPart :=
  if segment = [] || segment = ['.'] then none
  else if segment = ['.', '.'] then some .parent
  else some (.name (String.ofList segment))

/-- The parts of a path. A single dot counts at the start only. -/
def parts (path : List Char) : List PathPart :=
  let segments := path.splitOn '/'
  let start : List PathPart := match segments with
    | [] :: _ :: _ => [.root]
    | ['.'] :: _ => [.current]
    | _ => []
  start ++ segments.filterMap partOf?

/-- Whether a list of parts comes before another or is equal to it. -/
def isPartsLe : List PathPart → List PathPart → Bool
  | [], _ => true
  | _ :: _, [] => false
  | a :: as, b :: bs => if a = b then isPartsLe as bs else a.isLe b

/-- Whether a path comes before another or is equal to it. -/
def isPathLe (a b : List Char) : Bool :=
  isPartsLe (parts a) (parts b)

/-- The path of something in a directory. -/
def join (directory inner : List Char) : List Char :=
  if directory = [] || directory.getLast? = some '/' then directory ++ inner
  else directory ++ '/' :: inner

/-- The path of something in a directory, told without the directory if that is the current one. -/
def joinShort (directory inner : List Char) : List Char :=
  if parts directory = [.current] then inner else join directory inner

end Csdl.Files
