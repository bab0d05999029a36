import Csdl.Error
import Csdl.Text.Blank
import Csdl.Text.Cut

/-!
How many values a field holds. A type is written `Collection(...)` around its name when a field
holds many values of it; wrappers may be nested and count as one.
-/

namespace Csdl

/-- One value or any number of them. -/
inductive Cardinality where
  | single
  | unbounded
  deriving DecidableEq, Repr

namespace Cardinality

/-- The name of a cardinality. -/
def name : Cardinality → String
  | single => "single"
  | unbounded => "unbounded"

/-- What opens a wrapper. -/
def wrapperStart : List Char := "Collection(".toList

theorem length_trimChars_le (cs : List Char) : (Text.trimChars cs).length ≤ cs.length := by
  unfold Text.trimChars Text.trimEnd Text.trimStart
  have hInner := (List.dropWhile_sublist (l := cs) Text.isBlank).length_le
  have hOuter := (List.dropWhile_sublist
    (l := (cs.dropWhile Text.isBlank).reverse) Text.isBlank).length_le
  simp only [List.length_reverse] at hOuter ⊢
  omega

/-- Removes the wrappers around a trimmed name. A wrapper that is not closed has no inside. -/
def unwrapFrom (found : Cardinality) (cs : List Char) : Option (List Char × Cardinality) :=
  match _hCut : Text.cutStart? wrapperStart cs with
  | none => some (cs, found)
  | some rest =>
    if rest.getLast? = some ')' then unwrapFrom unbounded (Text.trimChars rest.dropLast) else none
termination_by cs.length
decreasing_by
  have hCut := Text.length_of_cutStart? _hCut
  have hTrimmed := length_trimChars_le rest.dropLast
  have hStart : wrapperStart.length = 11 := by decide
  simp only [List.length_dropLast] at hTrimmed
  omega

/-- The name inside all wrappers, and whether there were any. -/
def unwrap (type : String) : Except Error (String × Cardinality) :=
  match unwrapFrom single (Text.trimChars type.toList) with
  | some (inner, found) => .ok (String.ofList inner, found)
  | none => .error (.format (.unterminatedCollection type))

end Cardinality

end Csdl
