import Csdl.Text.Cut

/-!
Punycode: a text written in letters, digits and hyphens. The characters in ASCII come first; behind
a hyphen follows where the others are to be put in, in the order of their code points, as numbers of
variable length in base 36.
-/

namespace Csdl.Url.Punycode

/-- The value of a digit: letters come before digits. -/
def digit? (c : Char) : Option Nat :=
  if 'a' ≤ c ∧ c ≤ 'z' then some (c.toNat - 'a'.toNat)
  else if '0' ≤ c ∧ c ≤ '9' then some (c.toNat - '0'.toNat + 26)
  else none

/-- The least digit that is not the last one of its number. `place` is 36 for the first digit of a
number, 72 for the second one and so on. -/
def threshold (bias place : Nat) : Nat :=
  max 1 (min 26 (place - bias))

/-- A step divided by 35 until it is small, with 36 times the number of divisions. -/
def scaleDown (step done : Nat) : Nat × Nat :=
  if 455 < step then scaleDown (step / 35) (done + 36) else (step, done)
termination_by step
decreasing_by exact Nat.div_lt_self (by omega) (by omega)

/-- The bias of the number behind a step, when a text has `places` places. -/
def adapt (step places : Nat) (isFirst : Bool) : Nat :=
  let step := if isFirst then step / 700 else step / 2
  let (step, done) := scaleDown (step + step / places) 0
  done + 36 * step / (step + 38)

/-- A number and what follows it. The digits before it have the value `sum`, and the next one counts
`weight` times. -/
def readNumber? (bias weight place sum : Nat) : List Char → Option (Nat × List Char)
  | [] => none
  | c :: rest =>
    match digit? c with
    | none => none
    | some digit =>
      let sum := sum + digit * weight
      let limit := threshold bias place
      if digit < limit then some (sum, rest)
      else readNumber? bias (weight * (36 - limit)) (place + 36) sum rest

/-- A number that is read takes at least one digit. -/
theorem length_of_readNumber? {bias weight place sum : Nat} {cs rest : List Char} {number : Nat}
    (h : readNumber? bias weight place sum cs = some (number, rest)) :
    rest.length < cs.length := by
  fun_induction readNumber? bias weight place sum cs with
  | case1 => simp at h
  | case2 => simp at h
  | case3 =>
    simp only [Option.some.injEq, Prod.mk.injEq] at h
    simp [h.2]
  | case4 _ _ _ _ _ _ _ _ _ _ ih =>
    have := ih h
    simp only [List.length_cons]
    omega

/-- Puts characters in. The last one had the code point `code` and stood before `index`. -/
def insertAll? (text : List Char) (code index bias : Nat) (cs : List Char) : Option (List Char) :=
  if cs.isEmpty then some text
  else
    match _hRead : readNumber? bias 1 36 0 cs with
    | none => none
    | some (step, rest) =>
      let places := text.length + 1
      let code := code + (index + step) / places
      let here := (index + step) % places
      if code.isValidChar then
        insertAll? (text.take here ++ Char.ofNat code :: text.drop here) code (here + 1)
          (adapt step places (index = 0)) rest
      else none
termination_by cs.length
decreasing_by exact length_of_readNumber? _hRead

/-- The text that a coded text stands for. A hyphen at its start alone ends nothing. -/
def decode? (cs : List Char) : Option (List Char) :=
  match Text.cutAtLast? '-' cs with
  | none => insertAll? [] 128 0 72 cs
  | some ([], _) => none
  | some (basic, rest) => insertAll? basic 128 0 72 rest

end Csdl.Url.Punycode
