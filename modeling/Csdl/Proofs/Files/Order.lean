import Csdl.Files.Path
import Mathlib.Data.List.Sort

/-! The order in which paths are listed. It looks at the parts of paths, so it orders all paths, and
sorting by it sorts. -/
namespace Csdl.Files

namespace PathPart

theorem isLe_total (a b : PathPart) : (a.isLe b || b.isLe a) = true := by
  cases a <;> cases b <;> simp [isLe, rank, String.le_total]

theorem isLe_antisymm {a b : PathPart} (h : a.isLe b = true) (h' : b.isLe a = true) : a = b := by
  cases a <;> cases b <;> simp [isLe, rank] at h h' ⊢
  exact String.le_antisymm h h'

/-- The order of the parts of a path is transitive. -/
theorem isLe_trans {a b c : PathPart} (h : a.isLe b = true) (h' : b.isLe c = true) :
    a.isLe c = true := by
  cases a <;> cases b <;> cases c <;> simp [isLe, rank] at h h' ⊢
  exact String.le_trans h h'

end PathPart

/-- Of two paths one comes first. -/
theorem isPartsLe_total (as bs : List PathPart) : (isPartsLe as bs || isPartsLe bs as) = true := by
  induction as generalizing bs with
  | nil => simp [isPartsLe]
  | cons a as ih =>
      cases bs with
      | nil => simp [isPartsLe]
      | cons b bs =>
          by_cases hSame : a = b
          · simpa [isPartsLe, hSame] using ih bs
          · simpa [isPartsLe, hSame, Ne.symm hSame] using a.isLe_total b

/-- Paths are ordered by the first part in which they differ, so the order is transitive. -/
theorem isPartsLe_trans {as bs cs : List PathPart} (h : isPartsLe as bs = true)
    (h' : isPartsLe bs cs = true) : isPartsLe as cs = true := by
  induction as generalizing bs cs with
  | nil => rfl
  | cons a as ih =>
      cases bs with
      | nil => cases h
      | cons b bs =>
          cases cs with
          | nil => cases h'
          | cons c cs =>
              rw [isPartsLe] at *
              by_cases hFirst : a = b
              · subst hFirst
                by_cases hSecond : a = c
                · rw [if_pos rfl] at h
                  rw [if_pos hSecond] at h' ⊢
                  exact ih h h'
                · rwa [if_neg hSecond] at h' ⊢
              · rw [if_neg hFirst] at h
                by_cases hSecond : b = c
                · rwa [← hSecond, if_neg hFirst]
                · rw [if_neg hSecond] at h'
                  -- a part before another one that it is not cannot come back to itself
                  have hOuter : a ≠ c := fun hSame =>
                    hFirst (PathPart.isLe_antisymm h (hSame ▸ h'))
                  rw [if_neg hOuter]
                  exact PathPart.isLe_trans h h'

theorem isPathLe_total (a b : List Char) : (isPathLe a b || isPathLe b a) = true :=
  isPartsLe_total (parts a) (parts b)

theorem isPathLe_trans (a b c : List Char) (h : isPathLe a b = true) (h' : isPathLe b c = true) :
    isPathLe a c = true :=
  isPartsLe_trans h h'

/-- Sorted paths are in order. -/
theorem pairwise_mergeSort_isPathLe (paths : List (List Char)) :
    (paths.mergeSort isPathLe).Pairwise fun a b => isPathLe a b = true :=
  List.pairwise_mergeSort isPathLe_trans isPathLe_total paths

end Csdl.Files
