import Csdl.Logged
import Csdl.Query.Parser
import Mathlib.Data.List.Forall2
import Mathlib.Data.List.Perm.Basic

/-! When a chain, a traversal or a fold of steps that may fail succeeds. A traversal succeeds
exactly if each of its steps does, so the order of its inputs decides only which error is met
first. -/
namespace Csdl

open Query (bind_eq_ok)

variable {ε α β γ : Type}

theorem map_eq_ok {x : Except ε α} {f : α → β} {b : β} :
    x.map f = .ok b ↔ ∃ a, x = .ok a ∧ f a = b := by
  cases x <;> simp [Except.map]

theorem toOption_eq_some {x : Except ε α} {a : α} : x.toOption = some a ↔ x = .ok a := by
  cases x <;> simp [Except.toOption]

/-- A traversal succeeds with the answers of its steps, in order. -/
theorem mapM_eq_ok {f : α → Except ε β} {xs : List α} {ys : List β} :
    xs.mapM f = .ok ys ↔ List.Forall₂ (fun x y => f x = .ok y) xs ys := by
  induction xs generalizing ys with
  | nil => cases ys <;> simp [pure, Except.pure]
  | cons x xs ih =>
      rw [List.mapM_cons, bind_eq_ok]
      constructor
      · rintro ⟨y, hHead, hRest⟩
        obtain ⟨tail, hTail, hEq⟩ := bind_eq_ok.1 hRest
        cases hEq
        exact .cons hHead (ih.1 hTail)
      · intro h
        cases h with
        | cons hHead hTail => exact ⟨_, hHead, bind_eq_ok.2 ⟨_, ih.2 hTail, rfl⟩⟩

/-- A traversal that may give nothing succeeds in the same way. -/
theorem mapM_eq_some {f : α → Option β} {xs : List α} {ys : List β} :
    xs.mapM f = some ys ↔ List.Forall₂ (fun x y => f x = some y) xs ys := by
  induction xs generalizing ys with
  | nil => cases ys <;> simp
  | cons x xs ih =>
      rw [List.mapM_cons, Option.bind_eq_bind, Option.bind_eq_some_iff]
      constructor
      · rintro ⟨y, hHead, hRest⟩
        obtain ⟨tail, hTail, hEq⟩ := Option.bind_eq_some_iff.1 hRest
        cases hEq
        exact .cons hHead (ih.1 hTail)
      · intro h
        cases h with
        | cons hHead hTail => exact ⟨_, hHead, Option.bind_eq_some_iff.2 ⟨_, ih.2 hTail, rfl⟩⟩

/-- What is related to a list has its elements from there. -/
theorem exists_left_of_forall₂ {R : α → β → Prop} {xs : List α} {ys : List β}
    (h : List.Forall₂ R xs ys) {y : β} (hMem : y ∈ ys) : ∃ x ∈ xs, R x y := by
  obtain ⟨i, hi, rfl⟩ := List.getElem_of_mem hMem
  obtain ⟨hLength, hSteps⟩ := List.forall₂_iff_get.1 h
  exact ⟨xs[i], List.getElem_mem _, hSteps i (hLength ▸ hi) hi⟩

theorem exists_input_of_mapM {f : α → Except ε β} {xs : List α} {ys : List β}
    (h : xs.mapM f = .ok ys) {y : β} (hMem : y ∈ ys) : ∃ x ∈ xs, f x = .ok y :=
  exists_left_of_forall₂ (mapM_eq_ok.1 h) hMem

theorem exists_answer_of_mapM {f : α → Except ε β} {xs : List α} {ys : List β}
    (h : xs.mapM f = .ok ys) {x : α} (hMem : x ∈ xs) : ∃ y ∈ ys, f x = .ok y :=
  exists_left_of_forall₂ (R := fun y x => f x = .ok y) (mapM_eq_ok.1 h).flip hMem

/-- A traversal succeeds if each of its steps does. -/
theorem exists_mapM_eq_ok {f : α → Except ε β} {xs : List α} (h : ∀ x ∈ xs, ∃ y, f x = .ok y) :
    ∃ ys, xs.mapM f = .ok ys := by
  induction xs with
  | nil => exact ⟨[], rfl⟩
  | cons x xs ih =>
      obtain ⟨y, hHead⟩ := h x List.mem_cons_self
      obtain ⟨ys, hTail⟩ := ih fun z hz => h z (List.mem_cons_of_mem _ hz)
      exact ⟨y :: ys, mapM_eq_ok.2 (.cons hHead (mapM_eq_ok.1 hTail))⟩

/-- What is side by side in two lists is in them. -/
theorem forall₂_mem {R : α → β → Prop} {xs : List α} {ys : List β} (h : List.Forall₂ R xs ys) :
    List.Forall₂ (fun x y => x ∈ xs ∧ y ∈ ys ∧ R x y) xs ys := by
  have hRight := (List.forall₂_and_left ys xs).2 ⟨fun _ hMem => hMem, h.flip⟩
  exact (List.forall₂_and_left xs ys).2 ⟨fun _ hMem => hMem, hRight.flip⟩

/-- Inputs and answers are related as each step relates them. -/
theorem forall₂_of_mapM {f : α → Except ε β} {R : α → β → Prop} {xs : List α} {ys : List β}
    (h : xs.mapM f = .ok ys) (hStep : ∀ x ∈ xs, ∀ y, f x = .ok y → R x y) :
    List.Forall₂ R xs ys := by
  induction mapM_eq_ok.1 h with
  | nil => exact .nil
  | cons hHead hTail ih =>
      exact .cons (hStep _ List.mem_cons_self _ hHead) (ih (mapM_eq_ok.2 hTail) fun x hx =>
        hStep x (List.mem_cons_of_mem _ hx))

/-- Where each step gives a changed answer, the traversal gives all answers changed. -/
theorem mapM_eq_ok_map {f f' : α → Except ε β} {change : β → β}
    (hStep : ∀ x y, f x = .ok y → f' x = .ok (change y)) {xs : List α} {ys : List β}
    (h : xs.mapM f = .ok ys) : xs.mapM f' = .ok (ys.map change) := by
  rw [mapM_eq_ok, List.forall₂_map_right_iff]
  exact (mapM_eq_ok.1 h).imp hStep

/-- What is asked of all inputs can be asked of their answers. -/
theorem any_eq_of_mapM {f : α → Except ε β} {p : α → Bool} {q : β → Bool} {xs : List α}
    {ys : List β} (h : xs.mapM f = .ok ys) (hSame : ∀ x ∈ xs, ∀ y, f x = .ok y → p x = q y) :
    xs.any p = ys.any q := by
  have hAll := forall₂_of_mapM h hSame
  clear h hSame
  induction hAll with
  | nil => rfl
  | cons hHead _ ih => rw [List.any_cons, List.any_cons, hHead, ih]

/-- What is looked for among inputs can be looked for among their answers. -/
theorem findIdx?_eq_of_mapM {f : α → Except ε β} {p : α → Bool} {q : β → Bool} {xs : List α}
    {ys : List β} (h : xs.mapM f = .ok ys) (hSame : ∀ x ∈ xs, ∀ y, f x = .ok y → p x = q y) :
    xs.findIdx? p = ys.findIdx? q := by
  have hAll := forall₂_of_mapM h hSame
  clear h hSame
  induction hAll with
  | nil => rfl
  | cons hHead _ ih => rw [List.findIdx?_cons, List.findIdx?_cons, hHead, ih]

/-- What is made of inputs can be made of their answers. -/
theorem filterMap_eq_of_mapM {f : α → Except ε β} {g : α → Option γ} {g' : β → Option γ}
    {xs : List α} {ys : List β} (h : xs.mapM f = .ok ys)
    (hSame : ∀ x ∈ xs, ∀ y, f x = .ok y → g x = g' y) : xs.filterMap g = ys.filterMap g' := by
  have hAll := forall₂_of_mapM h hSame
  clear h hSame
  induction hAll with
  | nil => rfl
  | cons hHead _ ih => rw [List.filterMap_cons, List.filterMap_cons, hHead, ih]

/-- The answers of a traversal in another order are those of its inputs in that order. -/
theorem exists_perm_of_mapM_eq_ok {f : α → Except ε β} {xs xs' : List α} {ys : List β}
    (h : xs.mapM f = .ok ys) (hPerm : xs'.Perm xs) :
    ∃ ys', xs'.mapM f = .ok ys' ∧ ys'.Perm ys := by
  obtain ⟨ys', hSteps, hYs⟩ := List.perm_comp_forall₂ hPerm (mapM_eq_ok.1 h)
  exact ⟨ys', mapM_eq_ok.2 hSteps, hYs⟩

/-- What every step of a successful fold keeps, the fold keeps. -/
theorem foldlM_preserves {f : β → α → Except ε β} {P : β → Prop} {xs : List α} {b c : β}
    (hStep : ∀ b c, ∀ x ∈ xs, P b → f b x = .ok c → P c)
    (hStart : P b) (h : xs.foldlM f b = .ok c) : P c := by
  induction xs generalizing b with
  | nil => exact Except.ok.inj h ▸ hStart
  | cons x xs ih =>
      rw [List.foldlM_cons] at h
      obtain ⟨middle, hHead, hTail⟩ := bind_eq_ok.1 h
      refine ih (fun b c y hy => hStep b c y (List.mem_cons_of_mem _ hy)) ?_ hTail
      exact hStep b middle x List.mem_cons_self hStart hHead

/-- A fold over lists put together is a fold of folds. -/
theorem foldlM_flatMap {m : Type → Type} [Monad m] [LawfulMonad m] (f : β → γ → m β)
    (g : α → List γ) (xs : List α) (b : β) :
    (xs.flatMap g).foldlM f b = xs.foldlM (fun b x => (g x).foldlM f b) b := by
  induction xs generalizing b with
  | nil => rfl
  | cons x xs ih => simp [List.flatMap_cons, List.foldlM_append, ih]

namespace Logged

theorem result_mapM (f : α → Logged β) (xs : List α) :
    (xs.mapM f).result = xs.mapM fun x => (f x).result := by
  induction xs with
  | nil => rfl
  | cons x xs ih =>
      simp only [List.mapM_cons, result_bind, ih, result_pure]
      rfl

theorem result_foldlM (f : β → α → Logged β) (xs : List α) (b : β) :
    (xs.foldlM f b).result = xs.foldlM (fun b x => (f b x).result) b := by
  induction xs generalizing b with
  | nil => rfl
  | cons x xs ih => simp only [List.foldlM_cons, result_bind, ih]

end Logged

end Csdl
