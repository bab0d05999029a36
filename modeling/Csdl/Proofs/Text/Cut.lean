import Csdl.Text.Cut
import Mathlib.Data.List.TakeWhile

/-! Cutting a text at the first mark in it. -/
namespace Csdl.Text

theorem cutAtFirst?_append {mark : Char} {before : List Char} (h : mark ∉ before)
    (behind : List Char) : cutAtFirst? mark (before ++ mark :: behind) = some (before, behind) := by
  have hBefore : ∀ c ∈ before, (c != mark) = true := fun c hMem =>
    bne_iff_ne.2 fun hSame => h (hSame ▸ hMem)
  unfold cutAtFirst?
  rw [List.dropWhile_append_of_pos hBefore, List.takeWhile_append_of_pos hBefore]
  simp

/-- The cut is at the first mark. -/
theorem notMem_of_cutAtFirst? {mark : Char} {cs before behind : List Char}
    (h : cutAtFirst? mark cs = some (before, behind)) : mark ∉ before := by
  unfold cutAtFirst? at h
  split at h
  · cases h
  · obtain ⟨rfl, -⟩ := Prod.mk.inj (Option.some.inj h)
    intro hMem
    simpa using List.mem_takeWhile_imp hMem

/-- A text is cut exactly where its first mark is. -/
theorem cutAtFirst?_eq_some_iff {mark : Char} {cs before behind : List Char} :
    cutAtFirst? mark cs = some (before, behind) ↔
      cs = before ++ mark :: behind ∧ mark ∉ before := by
  constructor
  · intro h
    exact ⟨append_of_cutAtFirst? h, notMem_of_cutAtFirst? h⟩
  · rintro ⟨rfl, hBefore⟩
    exact cutAtFirst?_append hBefore behind

/-- A text is not cut exactly if it has no mark. -/
theorem cutAtFirst?_eq_none_iff {mark : Char} {cs : List Char} :
    cutAtFirst? mark cs = none ↔ mark ∉ cs := by
  constructor
  · intro h hMem
    obtain ⟨before, behind, hWhole, hBefore⟩ := List.eq_append_cons_of_mem hMem
    rw [hWhole, cutAtFirst?_append hBefore] at h
    cases h
  · intro h
    cases hCut : cutAtFirst? mark cs with
    | none => rfl
    | some parts => exact absurd (append_of_cutAtFirst? hCut ▸ by simp) h

end Csdl.Text
