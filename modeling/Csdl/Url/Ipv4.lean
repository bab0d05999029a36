import Csdl.Text.Numeral

/-!
IPv4 addresses as hosts. Up to four numbers are separated by dots, in base ten, eight or sixteen;
the last one fills all bytes that are left. A dot may end the text.
-/

namespace Csdl.Url.Ipv4

/-- The number of one part, if it is a number at all. Nothing behind a base means zero. -/
def part? (cs : List Char) : Option Nat :=
  match cs with
  | [] => none
  | ['0', 'x'] => some 0
  | ['0', 'X'] => some 0
  | '0' :: 'x' :: digits => Text.numeral? 16 digits
  | '0' :: 'X' :: digits => Text.numeral? 16 digits
  | '0' :: digit :: digits => Text.numeral? 8 (digit :: digits)
  | digits => Text.numeral? 10 digits

/-- The parts of a host between dots, without the empty one behind a last dot. -/
def parts (host : List Char) : List (List Char) :=
  let all := host.splitOn '.'
  if 1 < all.length && all.getLast? = some [] then all.dropLast else all

/-- Whether a host has to be an address because its last part is a number. -/
def endsInNumber (host : List Char) : Bool :=
  match (parts host).getLast? with
  | none => false
  | some last => (!last.isEmpty && last.all (Text.isDigitIn 10)) || (part? last).isSome

/-- The number of addresses that differ in their last `count` bytes alone. -/
def blockSize (count : Nat) : Nat :=
  Nat.pow 256 count

/-- The address of up to four numbers. All but the last are bytes, and the last one takes the
bytes that are left. -/
def ofNumbers? (numbers : List Nat) : Option Nat :=
  match numbers.reverse with
  | [] => none
  | last :: leading =>
    let rest := blockSize (4 - leading.length)
    if 3 < leading.length || leading.any (255 < ·) || rest ≤ last then none
    else some (leading.reverse.foldl (fun value byte => value * 256 + byte) 0 * rest + last)

/-- The address that a host is. -/
def parse? (host : List Char) : Option Nat := do
  let numbers ← (parts host).mapM part?
  ofNumbers? numbers

/-- The text of an address: its four bytes. -/
def text (address : Nat) : String :=
  let byte (index : Nat) := toString (address / blockSize index % 256)
  byte 3 ++ "." ++ byte 2 ++ "." ++ byte 1 ++ "." ++ byte 0

end Csdl.Url.Ipv4
