import Csdl.Text.Cut
import Csdl.Text.Quoted
import Csdl.Text.Numeral

/-!
IPv6 addresses as hosts: eight numbers of sixteen bits between colons. One run of zeros may be
left out between two colons, and the last two numbers may be written as four bytes between dots.
-/

namespace Csdl.Url.Ipv6

/-- The numbers read so far, in reverse, and how many of them stand before the run that is left
out. The run counts as one number. -/
structure Reading where
  pieces : List Nat
  gap : Option Nat
  deriving DecidableEq, Repr

/-- A byte in base ten without leading zeros. -/
def byte? (cs : List Char) : Option Nat :=
  match cs with
  | ['0'] => some 0
  | '0' :: _ => none
  | digits => (Text.numeral? 10 digits).filter (· ≤ 255)

/-- The two numbers that four bytes between dots make up. -/
def dotted? (cs : List Char) : Option (Nat × Nat) := do
  match ← (cs.splitOn '.').mapM byte? with
  | [a, b, c, d] => return (a * 256 + b, c * 256 + d)
  | _ => none

/-- The digits of a number: at most four. -/
def digitsOf (cs : List Char) : List Char :=
  (cs.take 4).takeWhile (Text.isDigitIn 16)

/-- Reads the numbers of an address behind those read so far. -/
def readPieces? (before : Reading) (cs : List Char) : Option Reading :=
  match cs with
  | [] => some before
  | ':' :: rest =>
    if before.pieces.length = 8 || before.gap.isSome then none
    else readPieces? ⟨0 :: before.pieces, some (before.pieces.length + 1)⟩ rest
  | c :: rest =>
    let digits := digitsOf (c :: rest)
    let value := Text.ofDigits 16 digits
    if before.pieces.length = 8 then none
    else
      match _hBehind : (c :: rest).drop digits.length with
      | [] => some { before with pieces := value :: before.pieces }
      | '.' :: _ =>
        if digits.isEmpty || 6 < before.pieces.length then none
        else
          (dotted? (c :: rest)).map fun (high, low) =>
            { before with pieces := low :: high :: before.pieces }
      | ':' :: next :: rest => readPieces? { before with pieces := value :: before.pieces } (next :: rest)
      | _ => none
termination_by cs.length
decreasing_by
  · simp
  · have := congrArg List.length _hBehind
    simp only [List.length_drop, List.length_cons] at this ⊢
    omega

/-- The eight numbers, with zeros in place of the run that is left out. -/
def Reading.fill? (reading : Reading) : Option (List Nat) :=
  let pieces := reading.pieces.reverse
  match reading.gap with
  | none => if pieces.length = 8 then some pieces else none
  | some gap => some (pieces.take gap ++ List.replicate (8 - pieces.length) 0 ++ pieces.drop gap)

/-- The numbers of the address that a text is. -/
def parse? (cs : List Char) : Option (List Nat) :=
  match cs with
  | ':' :: ':' :: rest => (readPieces? ⟨[0], some 1⟩ rest).bind Reading.fill?
  | ':' :: _ => none
  | [] => none
  | _ => (readPieces? ⟨[], none⟩ cs).bind Reading.fill?

/-- The lengths of the runs of zeros that begin at each place. -/
def zeroRuns : List Nat → List Nat
  | [] => []
  | piece :: rest => ((piece :: rest).takeWhile (· = 0)).length :: zeroRuns rest

/-- Where the longest run of at least two zeros begins, and how long it is. -/
def longestRun? (pieces : List Nat) : Option (Nat × Nat) :=
  let runs := zeroRuns pieces
  let longest := runs.foldl max 0
  if longest < 2 then none else some (runs.findIdx (· = longest), longest)

/-- Numbers in base sixteen between colons. -/
def joined (pieces : List Nat) : String :=
  String.intercalate ":" (pieces.map fun piece => String.ofList (Text.hexDigits piece))

/-- The text of an address. The first of the longest runs of zeros is left out. -/
def text (pieces : List Nat) : String :=
  match longestRun? pieces with
  | none => joined pieces
  | some (start, length) => joined (pieces.take start) ++ "::" ++ joined (pieces.drop (start + length))

end Csdl.Url.Ipv6
