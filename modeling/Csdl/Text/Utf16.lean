/-!
UTF-16: characters as one or two code units of sixteen bits, and code units as two bytes in either
order.
-/

namespace Csdl.Text.Utf16

/-- Which byte of a code unit comes first. -/
inductive ByteOrder where
  | little
  | big
  deriving DecidableEq, Repr

/-- The code unit that two bytes stand for. -/
def ByteOrder.unit (order : ByteOrder) (first second : UInt8) : Nat :=
  match order with
  | .little => second.toNat * 256 + first.toNat
  | .big => first.toNat * 256 + second.toNat

/-- The two bytes of a code unit. -/
def ByteOrder.bytes (order : ByteOrder) (unit : Nat) : List UInt8 :=
  match order with
  | .little => [UInt8.ofNat (unit % 256), UInt8.ofNat (unit / 256)]
  | .big => [UInt8.ofNat (unit / 256), UInt8.ofNat (unit % 256)]

/-- A unit that begins a pair. -/
def isHighSurrogate (unit : Nat) : Bool :=
  0xD800 ≤ unit && unit < 0xDC00

/-- A unit that ends a pair. -/
def isLowSurrogate (unit : Nat) : Bool :=
  0xDC00 ≤ unit && unit < 0xE000

/-- The character that a pair of surrogates stands for. -/
def pairChar (high low : Nat) : Char :=
  Char.ofNat (0x10000 + (high - 0xD800) * 0x400 + (low - 0xDC00))

/-- The code units of a character. -/
def charUnits (c : Char) : List Nat :=
  if c.toNat < 0x10000 then [c.toNat]
  else
    let offset := c.toNat - 0x10000
    [0xD800 + offset / 0x400, 0xDC00 + offset % 0x400]

/-- Reads code units behind the characters `done`, which are held in reverse. A surrogate outside a
pair has no character. -/
def decodeUnits (done : List Char) : List Nat → Option (List Char)
  | [] => some done.reverse
  | unit :: rest =>
    if isHighSurrogate unit then
      match rest with
      | low :: rest =>
        if isLowSurrogate low then decodeUnits (pairChar unit low :: done) rest else none
      | [] => none
    else if isLowSurrogate unit then none
    else decodeUnits (Char.ofNat unit :: done) rest

/-- Reads bytes behind the code units `done`, which are held in reverse. An odd byte at the end
makes no unit. -/
def unitsOfBytes (order : ByteOrder) (done : List Nat) : List UInt8 → Option (List Nat)
  | [] => some done.reverse
  | [_] => none
  | first :: second :: rest => unitsOfBytes order (order.unit first second :: done) rest

/-- The text that bytes stand for, if they are well formed. -/
def decode? (order : ByteOrder) (bytes : List UInt8) : Option String := do
  let units ← unitsOfBytes order [] bytes
  let chars ← decodeUnits [] units
  return String.ofList chars

/-- The bytes of a text. -/
def encode (order : ByteOrder) (text : String) : List UInt8 :=
  (text.toList.flatMap charUnits).flatMap order.bytes

end Csdl.Text.Utf16
