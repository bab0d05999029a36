import Csdl.Text.Cut
import Csdl.Text.Numeral
import Csdl.Xml.Character

/-!
The values that stand between markup: character data and the insides of attribute quotes. A
reference stands for one character that is taken as it is; of the others, line ends become one
line feed in character data, and blanks become spaces in attributes.
-/

namespace Csdl.Xml

/-- A character of a value, written itself or through a reference. -/
structure Piece where
  char : Char
  referenced : Bool
  deriving DecidableEq, Repr

/-- The entities that every document knows. -/
def predefinedEntities : List (String × Char) := [
  ("quot", '"'), ("amp", '&'), ("apos", '\''), ("lt", '<'), ("gt", '>')]

/-- The character of a code point, and the replacement character for what is no code point. -/
def charOfCode (code : Nat) : Char :=
  if code.isValidChar then Char.ofNat code else Char.ofNat 0xFFFD

/-- The character that a number in a reference stands for. The number has at most 32 bits. -/
def numberedChar? (base : Nat) (digits : List Char) : Option Char :=
  match Text.numeral? base digits with
  | none => none
  | some code =>
    if code < 0x100000000 && isChar (charOfCode code) then some (charOfCode code) else none

/-- The character that the inside of a reference, between `&` and `;`, stands for. -/
def referencedChar? : List Char → Option Char
  | '#' :: 'x' :: digits => numberedChar? 16 digits
  | '#' :: digits => numberedChar? 10 digits
  | name => predefinedEntities.lookup (String.ofList name)

/-- Reads a value behind the pieces `done`, which are held in reverse. -/
def readPieces (done : List Piece) (cs : List Char) : Option (List Piece) :=
  match cs with
  | [] => some done.reverse
  | '&' :: cs =>
    match _hCut : Text.cutAtFirst? ';' cs with
    | none => none
    | some (inside, rest) =>
      match referencedChar? inside with
      | none => none
      | some c => readPieces (⟨c, true⟩ :: done) rest
  | c :: cs => readPieces (⟨c, false⟩ :: done) cs
termination_by cs.length
decreasing_by
  · have := Text.length_of_cutAtFirst? _hCut
    simp only [List.length_cons]
    omega
  · simp

/-- The pieces of a value. -/
def pieces? (cs : List Char) : Option (List Piece) :=
  readPieces [] cs

/-- Character data behind the characters `done`, which are held in reverse, with its line ends
made line feeds. `behindReference` tells that the piece before was a reference; a character there
is taken as it is, and a carriage return before it is kept. -/
def joinLines (done : List Char) (behindReference : Bool) : List Piece → List Char
  | [] => done.reverse
  | [⟨c, referenced⟩] =>
    if c = '\r' && !referenced && !behindReference then ('\n' :: done).reverse
    else (c :: done).reverse
  | piece :: next :: rest =>
    if piece.char ≠ '\r' || piece.referenced || next.referenced then
      joinLines (piece.char :: done) piece.referenced (next :: rest)
    else if next.char = '\n' then joinLines ('\n' :: done) false rest
    else joinLines ('\n' :: done) false (next :: rest)

/-- The text that character data stands for. -/
def textOf? (raw : List Char) : Option String :=
  (pieces? raw).map fun pieces => String.ofList (joinLines [] false pieces)

/-- The text of a section in which nothing is a reference. -/
def plainText (raw : List Char) : String :=
  String.ofList (joinLines [] false (raw.map fun c => ⟨c, false⟩))

/-- An attribute's characters behind the characters `done`, which are held in reverse, with each
blank made a space and a line end of two characters made one. -/
def flattenBlanks (done : List Char) : List Piece → List Char
  | [] => done.reverse
  | ⟨c, true⟩ :: rest => flattenBlanks (c :: done) rest
  | ⟨'\r', false⟩ :: ⟨'\n', false⟩ :: rest => flattenBlanks (' ' :: done) rest
  | ⟨c, false⟩ :: rest => flattenBlanks ((if isSpace c then ' ' else c) :: done) rest

/-- The value that the inside of an attribute's quotes stands for. -/
def valueOf? (raw : List Char) : Option String :=
  (pieces? raw).map fun pieces => String.ofList (flattenBlanks [] pieces)

end Csdl.Xml
