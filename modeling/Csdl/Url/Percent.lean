import Csdl.Text.Numeral

/-!
Percent coding: a byte written as a percent sign and two digits in base sixteen.
-/

namespace Csdl.Url

/-- A digit in base sixteen, in upper case. -/
def upperHexDigit (value : Nat) : Char :=
  if value < 10 then Char.ofNat ('0'.toNat + value) else Char.ofNat ('A'.toNat + (value - 10))

/-- A byte in percent coding. -/
def percentByte (byte : UInt8) : List Char :=
  ['%', upperHexDigit (byte.toNat / 16), upperHexDigit (byte.toNat % 16)]

/-- A character in percent coding, byte by byte. -/
def percentChar (c : Char) : List Char :=
  (String.singleton c).toUTF8.toList.flatMap percentByte

/-- A control character or one outside ASCII. -/
def isControlOrBeyond (c : Char) : Bool :=
  c.toNat < 0x20 || 0x7F ≤ c.toNat

/-- A text with the characters of a class in percent coding. -/
def percentEncode (unsafeChar : Char → Bool) (cs : List Char) : List Char :=
  cs.flatMap fun c => if unsafeChar c then percentChar c else [c]

/-- A text with its coded bytes read as characters of their number. A sign without two digits
behind it stands for itself. -/
def percentDecode : List Char → List Char
  | [] => []
  | '%' :: high :: low :: rest =>
    match Text.numeral? 16 [high, low] with
    | some byte => Char.ofNat byte :: percentDecode rest
    | none => '%' :: percentDecode (high :: low :: rest)
  | c :: rest => c :: percentDecode rest

end Csdl.Url
